import SingboxVpn.Admin.StaticApply

namespace SingboxVpn

open Json

/-!
# Static revisions as an update with a frame

The planner compares the candidate with the current file outside the allowlist only.  Here the
whole effect of a plan is stated: the fields that a revision names have the values that it asks
for, every other field keeps its effective value, also in a section that comes into existence with
its defaults, and planning the same revision on the planned file finds nothing to do.
-/

/-- The probe settings in effect: a missing section has the defaults. -/
def DeploymentFile.udpProbeConfig (file : DeploymentFile) : UdpProbeSection :=
  file.udpProbe.getD .default

/-- Outside the fields that the revision names, the effective values of two files are the same. -/
structure DeploymentFile.SameBesides (rev : StaticRevision) (file file' : DeploymentFile) :
    Prop where
  /-- All that is not in the allowlist. -/
  rest : file'.stripAllowlisted = file.stripAllowlisted
  handshakeServer : rev.handshakeServer = none →
    file'.config.reality.handshakeServer = file.config.reality.handshakeServer
  upMbps : rev.hysteria2Mbps = none → file'.config.hysteria2.upMbps = file.config.hysteria2.upMbps
  downMbps : rev.hysteria2Mbps = none →
    file'.config.hysteria2.downMbps = file.config.hysteria2.downMbps
  ipv4Resolvers : rev.udpIpv4Resolvers = none →
    file'.udpProbeConfig.ipv4Resolvers = file.udpProbeConfig.ipv4Resolvers
  ipv6Resolvers : rev.udpIpv6Resolvers = none →
    file'.udpProbeConfig.ipv6Resolvers = file.udpProbeConfig.ipv6Resolvers
  retries : rev.udpRetries = none → file'.udpProbeConfig.retries = file.udpProbeConfig.retries
  timeoutMs : rev.udpTimeoutMs = none →
    file'.udpProbeConfig.timeoutMs = file.udpProbeConfig.timeoutMs
  delayMs : rev.udpDelayMs = none → file'.udpProbeConfig.delayMs = file.udpProbeConfig.delayMs

theorem DeploymentFile.udpProbeConfig_override (file : DeploymentFile) (rev : StaticRevision) :
    (file.override rev).udpProbeConfig = rev.overrideUdp file.udpProbeConfig := by
  unfold udpProbeConfig
  show (if rev.touchesUdp then some (rev.overrideUdp (file.udpProbe.getD .default))
    else file.udpProbe).getD .default = _
  split
  · rfl
  · next h => rw [StaticRevision.overrideUdp_untouched (by simpa using h)]

theorem DeploymentFile.sameBesides_override (file : DeploymentFile) (rev : StaticRevision) :
    file.SameBesides rev (file.override rev) where
  rest := by
    simp only [stripAllowlisted, withAllowlisted, override, StaticRevision.overrideHysteria2]
    cases rev.hysteria2Mbps <;> rfl
  handshakeServer h := by simp [override, h]
  upMbps h := by simp [override, StaticRevision.overrideHysteria2, h]
  downMbps h := by simp [override, StaticRevision.overrideHysteria2, h]
  ipv4Resolvers h := by
    rw [udpProbeConfig_override, StaticRevision.overrideUdp, h, Option.getD_none]
  ipv6Resolvers h := by
    rw [udpProbeConfig_override, StaticRevision.overrideUdp, h, Option.getD_none]
  retries h := by rw [udpProbeConfig_override, StaticRevision.overrideUdp, h, Option.getD_none]
  timeoutMs h := by rw [udpProbeConfig_override, StaticRevision.overrideUdp, h, Option.getD_none]
  delayMs h := by rw [udpProbeConfig_override, StaticRevision.overrideUdp, h, Option.getD_none]

/-! ### Patching twice -/

structure Neat (t : Table) : Prop where
  keys : SortedKeys t
  sections : ∀ name m, t.lookup name = some (.obj m) → SortedKeys m

def Toml.Maps (toml : Toml) : Prop := ∀ text t, toml.parse text = .ok t → Neat t

structure Repeatable (edit : Table → Table) : Prop where
  sorted : ∀ {m}, SortedKeys m → SortedKeys (edit m)
  twice : ∀ {m}, SortedKeys m → edit (edit m) = edit m

section Again
variable {t t' t'' : Table} {name : String} {edit : Table → Table} {rev : StaticRevision}

theorem repeatable_of_lookup (hsorted : ∀ {m}, SortedKeys m → SortedKeys (edit m))
    (htwice : ∀ m key, (edit (edit m)).lookup key = (edit m).lookup key) : Repeatable edit :=
  ⟨hsorted, fun h => (hsorted (hsorted h)).ext (hsorted h) (htwice _)⟩

theorem neat_sectionMut (hedit : Repeatable edit) (h : Neat t)
    (hmut : sectionMut t name edit = .ok t') : Neat t' := by
  obtain ⟨m, hm, hlookup⟩ := lookup_sectionMut hmut
  have hsorted : SortedKeys m := by
    rcases hm with hm | ⟨-, rfl⟩
    · exact h.sections name m hm
    · exact List.Pairwise.nil
  constructor
  · unfold sectionMut at hmut
    split at hmut
    · cases hmut
      exact sortedKeys_insertKey h.keys
    · cases hmut
      exact sortedKeys_insertKey h.keys
    · cases hmut
  · intro name' m' hm'
    rw [hlookup] at hm'
    split at hm'
    · cases hm'
      exact hedit.sorted hsorted
    · exact h.sections name' m' hm'

theorem sectionMut_again (hedit : Repeatable edit) (h : Neat t)
    (hmut : sectionMut t name edit = .ok t') (h'' : Neat t'')
    (hsection : t''.lookup name = t'.lookup name) : sectionMut t'' name edit = .ok t'' := by
  obtain ⟨m, hm, hlookup⟩ := lookup_sectionMut hmut
  have hsorted : SortedKeys m := by
    rcases hm with hm | ⟨-, rfl⟩
    · exact h.sections name m hm
    · exact List.Pairwise.nil
  have hfound : t''.lookup name = some (.obj (edit m)) := by
    rw [hsection, hlookup, if_pos rfl]
  unfold sectionMut
  rw [hfound]
  dsimp only
  rw [hedit.twice hsorted, insertKey_of_lookup h''.keys hfound]

theorem repeatable_insertKey (key : String) (v : Json) : Repeatable (insertKey key v) := by
  refine repeatable_of_lookup (fun h => sortedKeys_insertKey h) fun m key' => ?_
  rw [lookup_insertKey, lookup_insertKey]
  split <;> rfl

theorem repeatable_insert_two (key key' : String) (v v' : Json) :
    Repeatable fun m => insertKey key v (insertKey key' v' m) := by
  refine repeatable_of_lookup
    (fun h => sortedKeys_insertKey (sortedKeys_insertKey h)) fun m key'' => ?_
  simp only [lookup_insertKey]
  split
  · rfl
  · split <;> rfl

theorem repeatable_erase_two (key key' : String) :
    Repeatable fun m => eraseKey key (eraseKey key' m) := by
  refine repeatable_of_lookup
    (fun h => sortedKeys_eraseKey (sortedKeys_eraseKey h)) fun m key'' => ?_
  simp only [lookup_eraseKey]
  split
  · rfl
  · split <;> rfl

theorem sortedKeys_insertIf {key : String} {value : Option Json} {m : Table} (h : SortedKeys m) :
    SortedKeys (insertIf key value m) := by
  cases value with
  | none => exact h
  | some j => exact sortedKeys_insertKey h

def StaticRevision.udpValue (rev : StaticRevision) (key : String) : Option Json :=
  if key = "delay_ms" then rev.udpDelayMs.map fun n : Nat => .num n
  else if key = "timeout_ms" then rev.udpTimeoutMs.map fun n : Nat => .num n
  else if key = "retries" then rev.udpRetries.map fun n : Nat => .num n
  else if key = "ipv6_resolvers" then rev.udpIpv6Resolvers.map strs
  else if key = "ipv4_resolvers" then rev.udpIpv4Resolvers.map strs
  else none

theorem lookup_editUdp (rev : StaticRevision) (m : Table) (key : String) :
    (rev.editUdp m).lookup key = (rev.udpValue key).or (m.lookup key) := by
  unfold StaticRevision.editUdp StaticRevision.udpValue
  simp only [lookup_insertIf]
  split_ifs <;> simp_all

theorem repeatable_editUdp (rev : StaticRevision) : Repeatable rev.editUdp := by
  refine repeatable_of_lookup (fun h => ?_) fun m key => ?_
  · unfold StaticRevision.editUdp
    exact sortedKeys_insertIf (sortedKeys_insertIf (sortedKeys_insertIf (sortedKeys_insertIf
      (sortedKeys_insertIf h))))
  · rw [lookup_editUdp, lookup_editUdp]
    cases rev.udpValue key <;> rfl

/-- A patch of one section.  Tables stay maps, and a table that has the section as the patch has
    left it is not changed by the patch. -/
def Settling (patch : Table → Except CompatError Table) (name : String) : Prop :=
  ∀ t t', Neat t → patch t = .ok t' →
    Neat t' ∧ ∀ t'', Neat t'' → t''.lookup name = t'.lookup name → patch t'' = .ok t''

theorem settling_ok (name : String) : Settling .ok name := by
  intro t t' h hpatch
  cases hpatch
  exact ⟨h, fun _ _ _ => rfl⟩

theorem settling_sectionMut (name : String) (hedit : Repeatable edit) :
    Settling (sectionMut · name edit) name := by
  intro t t' h hmut
  exact ⟨neat_sectionMut hedit h hmut, fun _ h'' => sectionMut_again hedit h hmut h''⟩

theorem settling_patchReality (rev : StaticRevision) : Settling (patchReality rev) "reality" := by
  unfold patchReality
  cases rev.handshakeServer with
  | none => exact settling_ok _
  | some host => exact settling_sectionMut _ (repeatable_insertKey _ _)

theorem settling_patchHysteria2 (rev : StaticRevision) :
    Settling (patchHysteria2 rev) "hysteria2" := by
  unfold patchHysteria2
  match rev.hysteria2Mbps with
  | none => exact settling_ok _
  | some none => exact settling_sectionMut _ (repeatable_erase_two _ _)
  | some (some (up, down)) => exact settling_sectionMut _ (repeatable_insert_two _ _ _ _)

theorem settling_patchUdp (rev : StaticRevision) : Settling (patchUdp rev) "udp_probe" := by
  unfold patchUdp
  by_cases htouch : rev.touchesUdp = true
  · simp only [if_pos htouch]
    intro t t' h hpatch
    obtain ⟨t₁, hmut, hranges⟩ := Check.bind_eq_ok.mp hpatch
    -- the range checks do not look at the table, so they pass again
    simp only [Check.bind_ok] at hranges
    obtain ⟨hretries, htimeout, hdelay, hsame⟩ := hranges
    cases hsame
    obtain ⟨hneat, hagain⟩ := settling_sectionMut _ (repeatable_editUdp rev) _ _ h hmut
    refine ⟨hneat, fun t'' h'' hsection => ?_⟩
    refine Check.bind_eq_ok.mpr ⟨t'', hagain t'' h'' hsection, ?_⟩
    simp only [Check.bind_ok]
    exact ⟨hretries, htimeout, hdelay, trivial⟩
  · simp only [if_neg htouch]
    exact settling_ok _

/-- The three patches find nothing to do in a table that they have been through. -/
theorem patches_again {t₁ t₂ t₃ : Table} (h : Neat t) (h₁ : patchReality rev t = .ok t₁)
    (h₂ : patchHysteria2 rev t₁ = .ok t₂) (h₃ : patchUdp rev t₂ = .ok t₃) :
    patchReality rev t₃ = .ok t₃ ∧ patchHysteria2 rev t₃ = .ok t₃ ∧ patchUdp rev t₃ = .ok t₃ := by
  obtain ⟨hneat₁, hagain₁⟩ := settling_patchReality rev _ _ h h₁
  obtain ⟨hneat₂, hagain₂⟩ := settling_patchHysteria2 rev _ _ hneat₁ h₂
  obtain ⟨hneat₃, hagain₃⟩ := settling_patchUdp rev _ _ hneat₂ h₃
  -- a later patch leaves the section of an earlier one alone
  obtain ⟨-, -, -, hkeep₂⟩ := patchHysteria2_spec h₂
  obtain ⟨-, -, hkeep₃⟩ := patchUdp_spec h₃
  refine ⟨hagain₁ t₃ hneat₃ ?_, hagain₂ t₃ hneat₃ (hkeep₃ _ (by decide)), hagain₃ t₃ hneat₃ rfl⟩
  exact (hkeep₃ _ (by decide)).trans (hkeep₂ _ (by decide))

end Again

/-! ### What a plan comes to -/

section Plan
variable {toml : Toml} {ext : External} {rev : StaticRevision}

theorem plan_again (hround : toml.RoundTrips) (hmaps : toml.Maps) {text candidateText : String}
    {candidate : DeploymentFile}
    (h : planStaticRevision toml ext text rev = .ok (.changed candidateText candidate)) :
    planStaticRevision toml ext candidateText rev = .ok .unchanged := by
  simp only [planStaticRevision, Check.bind_eq_ok, Check.mapError_eq_ok] at h ⊢
  obtain ⟨original, -, t, ht, t₁, h₁, t₂, h₂, t₃, h₃, text', hprint, candidate', hload, hplan⟩ := h
  split at hplan
  · cases hplan
  · split at hplan
    · cases hplan
    · cases hplan
      obtain ⟨hreality, hhysteria2, hudp⟩ := patches_again (hmaps text t ht) h₁ h₂ h₃
      exact ⟨candidate, hload, t₃, hround t₃ candidateText hprint, t₃, hreality, t₃, hhysteria2, t₃,
        hudp, candidateText, hprint, candidate, hload, if_pos rfl⟩

def DeploymentFile.Framed (toml : Toml) (ext : External) (rev : StaticRevision)
    (original : DeploymentFile) : Except CompatError StaticRevisionPlan → Prop
  | .error _ => True
  | .ok .unchanged => original.Contains rev
  | .ok (.changed candidateText candidate) =>
    toml.load ext candidateText = .ok candidate ∧ candidate.Contains rev ∧
      original.SameBesides rev candidate ∧
      planStaticRevision toml ext candidateText rev = .ok .unchanged

/-- **Planning is an update with a frame.**  A plan without a change is made only for a file that
    has the named values already.  A planned file loads, has the named values and otherwise the
    effective values of the current one, and has nothing left to plan. -/
theorem plan_framed (hround : toml.RoundTrips) (hmaps : toml.Maps) {text : String}
    {original : DeploymentFile} (hload : toml.load ext text = .ok original) (rev : StaticRevision) :
    original.Framed toml ext rev (planStaticRevision toml ext text rev) := by
  cases hplan : planStaticRevision toml ext text rev with
  | error e => trivial
  | ok plan =>
    obtain ⟨original', hload', hspec⟩ := plan_spec hround hplan
    cases Except.ok.inj (hload.symm.trans hload')
    cases plan with
    | unchanged =>
      have hcontains := original.contains_override rev
      rwa [show original.override rev = original from hspec] at hcontains
    | changed candidateText candidate =>
      obtain ⟨hcandidate, rfl⟩ := hspec
      exact ⟨hcandidate, original.contains_override rev, original.sameBesides_override rev,
        plan_again hround hmaps hplan⟩

end Plan

/-! ### A planned change -/

theorem neat_sampleTable (server : String) : Neat (Apply.sampleTable server) := by
  have hkeys : ∀ (m : Table) (names : List String), m.map Prod.fst = names →
      names.Pairwise (· < ·) → SortedKeys m := by
    rintro m _ rfl h
    exact List.pairwise_map.mp h
  refine ⟨hkeys _ ["hysteria2", "node_id", "public_host", "reality", "role", "schema_version",
    "subscription", "subscription_host"] rfl (by decide +kernel), fun name m hm => ?_⟩
  have hmem := mem_of_lookup hm
  simp only [Apply.sampleTable, List.mem_cons, Prod.mk.injEq, Json.obj.injEq, List.not_mem_nil,
    or_false, reduceCtorEq, and_false, false_or] at hmem
  rcases hmem with ⟨-, rfl⟩ | ⟨-, rfl⟩ | ⟨-, rfl⟩
  · exact hkeys _ ["listen_port"] rfl (by decide +kernel)
  · exact hkeys _ ["handshake_port", "handshake_server", "listen_port"] rfl (by decide +kernel)
  · exact hkeys _ ["listen_port", "profile_title"] rfl (by decide +kernel)

theorem sampleToml_maps : Apply.sampleToml.Maps := by
  intro text t h
  unfold Apply.sampleToml at h
  dsimp only at h
  split at h
  · cases h
    exact neat_sampleTable _
  · split at h
    · cases h
      exact neat_sampleTable _
    · cases h

/-- A revision that names another handshake server is planned, and planned once. -/
theorem plan_framed_handshakeServer :
    let text := Apply.deploymentText "www.example.org"
    let original := DeploymentFile.mk Apply.plainExit none .null
    let rev : StaticRevision := { handshakeServer := some "www.example.com" }
    (∃ candidate, planStaticRevision Apply.sampleToml sampleExternal text rev =
      .ok (.changed (Apply.deploymentText "www.example.com") candidate)) ∧
    original.Framed Apply.sampleToml sampleExternal rev
      (planStaticRevision Apply.sampleToml sampleExternal text rev) := by
  intro text original rev
  have hload : Apply.sampleToml.load sampleExternal text = .ok original := by decide +kernel
  have hplan : planStaticRevision Apply.sampleToml sampleExternal text rev =
      .ok (.changed (Apply.deploymentText "www.example.com") (original.override rev)) := by
    decide +kernel
  clear_value text
  exact ⟨⟨_, hplan⟩, plan_framed Apply.sampleToml_roundTrips sampleToml_maps hload rev⟩

end SingboxVpn
