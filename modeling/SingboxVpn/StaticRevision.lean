import SingboxVpn.Deployment
import SingboxVpn.Lib.Decode

/-!
# Static revisions of deployment.toml

The planning of `crates/compat-config/src/static_revision.rs`: a revision names values of eight
fields, the planner writes them into the table of the current file, prints it, reads it back and
compares.

* `DeploymentFile.override` — what a revision asks for; `override_merge` composes two of them.
* `plan_spec` — a planned file is the current one with the revision's values.
-/

namespace SingboxVpn

open Json

/-! ### The file -/

/-- The `[udp_probe]` section. -/
structure UdpProbeSection where
  ipv4Resolvers : List String
  ipv6Resolvers : List String
  retries : Nat
  timeoutMs : Nat
  delayMs : Nat
deriving DecidableEq, Repr

/-- A `[udp_probe]` table without fields. -/
def UdpProbeSection.default : UdpProbeSection where
  ipv4Resolvers := ["1.1.1.1", "8.8.8.8"]
  ipv6Resolvers := ["2606:4700:4700::1111", "2001:4860:4860::8888"]
  retries := 2
  timeoutMs := 2000
  delayMs := 250

/-- A deployment.toml: the fields that the rest of the development reads, the probe section, and
    the rest of the file. -/
structure DeploymentFile where
  config : DeploymentConfig
  udpProbe : Option UdpProbeSection
  other : Json
deriving DecidableEq

/-- What a static revision may set. -/
def ALLOWED_FIELDS : List (String × String) :=
  [("reality", "handshake_server"), ("hysteria2", "up_mbps"), ("hysteria2", "down_mbps"),
    ("udp_probe", "ipv4_resolvers"), ("udp_probe", "ipv6_resolvers"), ("udp_probe", "retries"),
    ("udp_probe", "timeout_ms"), ("udp_probe", "delay_ms")]

def field (t : Table) (section_ name : String) : Option Json :=
  match t.lookup section_ with
  | some (.obj m) => m.lookup name
  | _ => none

/-- What the fields outside the allowlist are read from, by their paths. -/
def restView (t : Table) : List String → Option Json
  | [key] => if key ∈ ALLOWED_FIELDS.map Prod.fst then none else t.lookup key
  | [section_, name] =>
    if section_ ∈ ["reality", "hysteria2"] ∧ (section_, name) ∉ ALLOWED_FIELDS then
      field t section_ name
    else none
  | _ => none

/-- The toml crate: the table of a text, the text of a table, and the derived reading of the
    fields outside the allowlist. -/
structure Toml where
  parse : String → Except String Table
  print : Table → Except String String
  others : (List String → Option Json) → Except String DeploymentFile

def Toml.RoundTrips (toml : Toml) : Prop :=
  ∀ t text, toml.print t = .ok text → toml.parse text = .ok t

/-! ### Reading the allowlisted fields -/

def readUdpProbe (m : Table) : Except String UdpProbeSection := do
  let ipv4Resolvers ←
    readOr (readList readStr) UdpProbeSection.default.ipv4Resolvers (m.lookup "ipv4_resolvers")
  let ipv6Resolvers ←
    readOr (readList readStr) UdpProbeSection.default.ipv6Resolvers (m.lookup "ipv6_resolvers")
  let retries ← readOr (readUnsigned 64) UdpProbeSection.default.retries (m.lookup "retries")
  let timeoutMs ← readOr (readUnsigned 64) UdpProbeSection.default.timeoutMs (m.lookup "timeout_ms")
  let delayMs ← readOr (readUnsigned 64) UdpProbeSection.default.delayMs (m.lookup "delay_ms")
  .ok { ipv4Resolvers, ipv6Resolvers, retries, timeoutMs, delayMs }

def readUdpSection : Option Json → Except String (Option UdpProbeSection)
  | none => .ok none
  | some (.obj m) => (readUdpProbe m).map some
  | some _ => .error "invalid type: expected a table"

def DeploymentFile.withAllowlisted (file : DeploymentFile) (handshakeServer : String)
    (upMbps downMbps : Option Nat) (udpProbe : Option UdpProbeSection) : DeploymentFile :=
  { file with
    config := { file.config with
      reality := { file.config.reality with handshakeServer := handshakeServer }
      hysteria2 := { file.config.hysteria2 with upMbps := upMbps, downMbps := downMbps } }
    udpProbe := udpProbe }

def Toml.decode (toml : Toml) (t : Table) : Except String DeploymentFile := do
  let base ← toml.others (restView t)
  let handshakeServer ←
    readRequired readStr "handshake_server" (field t "reality" "handshake_server")
  let upMbps ← readOption (readUnsigned 32) (field t "hysteria2" "up_mbps")
  let downMbps ← readOption (readUnsigned 32) (field t "hysteria2" "down_mbps")
  let udpProbe ← readUdpSection (t.lookup "udp_probe")
  .ok (base.withAllowlisted handshakeServer upMbps downMbps udpProbe)

/-- Parse and validate a deployment.toml. -/
def Toml.load (toml : Toml) (ext : External) (text : String) : Except CompatError DeploymentFile := do
  let t ← (toml.parse text).mapError .parse
  let file ← (toml.decode t).mapError .parse
  file.config.validate ext
  .ok file

/-! ### Planning -/

/-- A static revision that was parsed and checked. -/
structure StaticRevision where
  handshakeServer : Option String := none
  /-- `some none` clears both bounds -/
  hysteria2Mbps : Option (Option (Nat × Nat)) := none
  udpIpv4Resolvers : Option (List String) := none
  udpIpv6Resolvers : Option (List String) := none
  udpRetries : Option Nat := none
  udpTimeoutMs : Option Nat := none
  udpDelayMs : Option Nat := none
deriving DecidableEq, Repr

/-- Whether the revision may change what clients are served. -/
def StaticRevision.touchesServedEndpoints (rev : StaticRevision) : Bool :=
  rev.handshakeServer.isSome || rev.hysteria2Mbps.isSome

def StaticRevision.touchesUdp (rev : StaticRevision) : Bool :=
  rev.udpIpv4Resolvers.isSome || rev.udpIpv6Resolvers.isSome || rev.udpRetries.isSome ||
    rev.udpTimeoutMs.isSome || rev.udpDelayMs.isSome

/-- Change a section, which is added if it is missing. -/
def sectionMut (t : Table) (name : String) (edit : Table → Table) : Except CompatError Table :=
  match t.lookup name with
  | none => .ok (insertKey name (.obj (edit [])) t)
  | some (.obj m) => .ok (insertKey name (.obj (edit m)) t)
  | some _ => .error (.parse ("deployment.toml [" ++ name ++ "] is not a table"))

def insertIf (key : String) (value : Option Json) (m : Table) : Table :=
  match value with
  | some j => insertKey key j m
  | none => m

def patchReality (rev : StaticRevision) (t : Table) : Except CompatError Table :=
  match rev.handshakeServer with
  | some host => sectionMut t "reality" (insertKey "handshake_server" (.str host))
  | none => .ok t

def patchHysteria2 (rev : StaticRevision) (t : Table) : Except CompatError Table :=
  match rev.hysteria2Mbps with
  | some (some (up, down)) =>
    sectionMut t "hysteria2" fun m =>
      insertKey "down_mbps" (.num down) (insertKey "up_mbps" (.num up) m)
  | some none => sectionMut t "hysteria2" fun m => eraseKey "down_mbps" (eraseKey "up_mbps" m)
  | none => .ok t

def StaticRevision.editUdp (rev : StaticRevision) (m : Table) : Table :=
  insertIf "delay_ms" (rev.udpDelayMs.map fun n : Nat => .num n)
    (insertIf "timeout_ms" (rev.udpTimeoutMs.map fun n : Nat => .num n)
      (insertIf "retries" (rev.udpRetries.map fun n : Nat => .num n)
        (insertIf "ipv6_resolvers" (rev.udpIpv6Resolvers.map strs)
          (insertIf "ipv4_resolvers" (rev.udpIpv4Resolvers.map strs) m))))

def outOfRange (key : String) (value : Option Nat) : Except CompatError Unit :=
  Check.refuseIf (value.any fun n => decide (2 ^ 63 ≤ n))
    (.configValidationFailed ("static revision rejected: " ++ key ++ " out of range"))

def patchUdp (rev : StaticRevision) (t : Table) : Except CompatError Table :=
  if rev.touchesUdp then do
    let t ← sectionMut t "udp_probe" rev.editUdp
    outOfRange "retries" rev.udpRetries
    outOfRange "timeout_ms" rev.udpTimeoutMs
    outOfRange "delay_ms" rev.udpDelayMs
    .ok t
  else .ok t

/-- The file without its allowlisted fields. -/
def DeploymentFile.stripAllowlisted (file : DeploymentFile) : DeploymentFile :=
  file.withAllowlisted "" none none none

/-- What a revision comes to for a file. -/
inductive StaticRevisionPlan where
  | unchanged
  | changed (candidateText : String) (candidate : DeploymentFile)
deriving DecidableEq

/-- The candidate for a revision, without touching the disk. -/
def planStaticRevision (toml : Toml) (ext : External) (originalText : String)
    (rev : StaticRevision) : Except CompatError StaticRevisionPlan := do
  let original ← toml.load ext originalText
  let table ← (toml.parse originalText).mapError .parse
  let table ← patchReality rev table
  let table ← patchHysteria2 rev table
  let table ← patchUdp rev table
  let candidateText ← (toml.print table).mapError .parse
  let candidate ← toml.load ext candidateText
  if candidate = original then
    .ok .unchanged
  else if candidate.stripAllowlisted ≠ original.stripAllowlisted then
    .error (.configValidationFailed
      ("static revision would change a field outside the allowlist — refusing (this is a bug in " ++
        "the static-revision patcher)"))
  else .ok (.changed candidateText candidate)

/-! ### What a revision asks for -/

def StaticRevision.overrideUdp (rev : StaticRevision) (udp : UdpProbeSection) :
    UdpProbeSection where
  ipv4Resolvers := rev.udpIpv4Resolvers.getD udp.ipv4Resolvers
  ipv6Resolvers := rev.udpIpv6Resolvers.getD udp.ipv6Resolvers
  retries := rev.udpRetries.getD udp.retries
  timeoutMs := rev.udpTimeoutMs.getD udp.timeoutMs
  delayMs := rev.udpDelayMs.getD udp.delayMs

def StaticRevision.overrideHysteria2 (rev : StaticRevision) (hysteria2 : Hysteria2Section) :
    Hysteria2Section :=
  match rev.hysteria2Mbps with
  | none => hysteria2
  | some bounds =>
    { hysteria2 with upMbps := bounds.map Prod.fst, downMbps := bounds.map Prod.snd }

def DeploymentFile.override (file : DeploymentFile) (rev : StaticRevision) : DeploymentFile :=
  { file with
    config := { file.config with
      reality := { file.config.reality with
        handshakeServer := rev.handshakeServer.getD file.config.reality.handshakeServer }
      hysteria2 := rev.overrideHysteria2 file.config.hysteria2 }
    udpProbe :=
      if rev.touchesUdp then some (rev.overrideUdp (file.udpProbe.getD .default))
      else file.udpProbe }

structure DeploymentFile.Contains (file : DeploymentFile) (rev : StaticRevision) : Prop where
  handshakeServer : ∀ host ∈ rev.handshakeServer, file.config.reality.handshakeServer = host
  hysteria2Mbps : ∀ bounds ∈ rev.hysteria2Mbps,
    file.config.hysteria2.upMbps = bounds.map Prod.fst ∧
      file.config.hysteria2.downMbps = bounds.map Prod.snd
  udpIpv4Resolvers : ∀ l ∈ rev.udpIpv4Resolvers, ∃ udp ∈ file.udpProbe, udp.ipv4Resolvers = l
  udpIpv6Resolvers : ∀ l ∈ rev.udpIpv6Resolvers, ∃ udp ∈ file.udpProbe, udp.ipv6Resolvers = l
  udpRetries : ∀ n ∈ rev.udpRetries, ∃ udp ∈ file.udpProbe, udp.retries = n
  udpTimeoutMs : ∀ n ∈ rev.udpTimeoutMs, ∃ udp ∈ file.udpProbe, udp.timeoutMs = n
  udpDelayMs : ∀ n ∈ rev.udpDelayMs, ∃ udp ∈ file.udpProbe, udp.delayMs = n

def StaticRevision.merge (earlier later : StaticRevision) : StaticRevision where
  handshakeServer := later.handshakeServer.or earlier.handshakeServer
  hysteria2Mbps := later.hysteria2Mbps.or earlier.hysteria2Mbps
  udpIpv4Resolvers := later.udpIpv4Resolvers.or earlier.udpIpv4Resolvers
  udpIpv6Resolvers := later.udpIpv6Resolvers.or earlier.udpIpv6Resolvers
  udpRetries := later.udpRetries.or earlier.udpRetries
  udpTimeoutMs := later.udpTimeoutMs.or earlier.udpTimeoutMs
  udpDelayMs := later.udpDelayMs.or earlier.udpDelayMs

theorem DeploymentFile.contains_override (file : DeploymentFile) (rev : StaticRevision) :
    (file.override rev).Contains rev := by
  have hudp : ∀ {α : Type} {value : Option α} (get : UdpProbeSection → α),
      (value.isSome = true → rev.touchesUdp = true) →
      (∀ x, value = some x → ∀ udp, get (rev.overrideUdp udp) = x) →
      ∀ x ∈ value, ∃ udp ∈ (file.override rev).udpProbe, get udp = x := by
    intro α value get htouch hget x hx
    refine ⟨_, ?_, hget x hx (file.udpProbe.getD .default)⟩
    show (if rev.touchesUdp then _ else _) = some _
    rw [if_pos (htouch (by rw [hx]; rfl))]
  refine ⟨?_, ?_, hudp _ ?_ ?_, hudp _ ?_ ?_, hudp _ ?_ ?_, hudp _ ?_ ?_, hudp _ ?_ ?_⟩
  · intro host hhost
    show rev.handshakeServer.getD _ = host
    rw [hhost]
    rfl
  · intro bounds hbounds
    have hsection : (file.override rev).config.hysteria2 =
        { file.config.hysteria2 with
          upMbps := bounds.map Prod.fst, downMbps := bounds.map Prod.snd } := by
      show rev.overrideHysteria2 _ = _
      unfold StaticRevision.overrideHysteria2
      rw [hbounds]
    rw [hsection]
    exact ⟨rfl, rfl⟩
  all_goals first
    | intro h
      simp [StaticRevision.touchesUdp, h]
    | intro x hx udp
      simp [StaticRevision.overrideUdp, hx]

theorem StaticRevision.overrideUdp_untouched {rev : StaticRevision} (h : rev.touchesUdp = false)
    (udp : UdpProbeSection) : rev.overrideUdp udp = udp := by
  simp only [StaticRevision.touchesUdp, Bool.or_eq_false_iff, Option.isSome_eq_false_iff,
    Option.isNone_iff_eq_none] at h
  obtain ⟨⟨⟨⟨h₄, h₆⟩, hretries⟩, htimeout⟩, hdelay⟩ := h
  rw [overrideUdp, h₄, h₆, hretries, htimeout, hdelay]
  rfl

theorem DeploymentFile.override_merge (file : DeploymentFile) (earlier later : StaticRevision) :
    (file.override earlier).override later = file.override (earlier.merge later) := by
  have htouch : (earlier.merge later).touchesUdp = (later.touchesUdp || earlier.touchesUdp) := by
    simp only [StaticRevision.touchesUdp, StaticRevision.merge, Option.isSome_or]
    ac_rfl
  have hmerge : ∀ udp, (earlier.merge later).overrideUdp udp =
      later.overrideUdp (earlier.overrideUdp udp) := by
    intro udp
    simp [StaticRevision.overrideUdp, StaticRevision.merge, Option.getD_or]
  have hudp : ((file.override earlier).override later).udpProbe =
      (file.override (earlier.merge later)).udpProbe := by
    simp only [override, htouch, hmerge]
    cases hlater : later.touchesUdp with
    | false => simp [StaticRevision.overrideUdp_untouched hlater]
    | true =>
      cases hearlier : earlier.touchesUdp with
      | false => simp [StaticRevision.overrideUdp_untouched hearlier]
      | true => simp
  have hhysteria2 : later.overrideHysteria2 (earlier.overrideHysteria2 file.config.hysteria2) =
      (earlier.merge later).overrideHysteria2 file.config.hysteria2 := by
    unfold StaticRevision.overrideHysteria2 StaticRevision.merge
    cases later.hysteria2Mbps <;> cases earlier.hysteria2Mbps <;> rfl
  have hserver : later.handshakeServer.getD
      (earlier.handshakeServer.getD file.config.reality.handshakeServer) =
      (earlier.merge later).handshakeServer.getD file.config.reality.handshakeServer :=
    Option.getD_or.symm
  simp only [override, hhysteria2, hserver] at hudp ⊢
  rw [hudp]

/-! ### What the patched table holds -/

section Patched

variable {t t' : Table} {name : String} {edit : Table → Table}

theorem lookup_sectionMut (h : sectionMut t name edit = .ok t') :
    ∃ m, (t.lookup name = some (.obj m) ∨ t.lookup name = none ∧ m = []) ∧
      ∀ key, t'.lookup key = if key = name then some (.obj (edit m)) else t.lookup key := by
  unfold sectionMut at h
  cases hname : t.lookup name with
  | none =>
    rw [hname] at h
    cases h
    exact ⟨[], .inr ⟨rfl, rfl⟩, fun key => lookup_insertKey name key _ t⟩
  | some j =>
    rw [hname] at h
    cases j with
    | obj m =>
      cases h
      exact ⟨m, .inl rfl, fun key => lookup_insertKey name key _ t⟩
    | null => cases h
    | bool b => cases h
    | num n => cases h
    | str s => cases h
    | arr items => cases h

theorem field_sectionMut (h : sectionMut t name edit = .ok t') :
    ∃ m, (∀ key, m.lookup key = field t name key) ∧
      ∀ section_ key, field t' section_ key =
        if section_ = name then (edit m).lookup key else field t section_ key := by
  obtain ⟨m, hm, hlookup⟩ := lookup_sectionMut h
  refine ⟨m, ?_, ?_⟩
  · intro key
    unfold field
    rcases hm with hm | ⟨hm, rfl⟩
    · rw [hm]
    · rw [hm]
      rfl
  · intro section_ key
    unfold field
    rw [hlookup]
    by_cases hs : section_ = name
    · rw [if_pos hs, if_pos hs]
    · rw [if_neg hs, if_neg hs]

theorem restView_sectionMut (h : sectionMut t name edit = .ok t')
    (hname : name ∈ ALLOWED_FIELDS.map Prod.fst)
    (hedit : ∀ m key, (name, key) ∉ ALLOWED_FIELDS → (edit m).lookup key = m.lookup key) :
    restView t' = restView t := by
  obtain ⟨_, _, hlookup⟩ := lookup_sectionMut h
  obtain ⟨m, hm, hfield⟩ := field_sectionMut h
  funext path
  match path with
  | [] => rfl
  | [key] =>
    simp only [restView]
    by_cases hkey : key ∈ ALLOWED_FIELDS.map Prod.fst
    · rw [if_pos hkey, if_pos hkey]
    · have hne : key ≠ name := fun e => hkey (e ▸ hname)
      rw [if_neg hkey, if_neg hkey, hlookup, if_neg hne]
  | [section_, key] =>
    simp only [restView]
    by_cases hkey : section_ ∈ ["reality", "hysteria2"] ∧ (section_, key) ∉ ALLOWED_FIELDS
    · rw [if_pos hkey, if_pos hkey, hfield]
      by_cases hs : section_ = name
      · subst hs
        rw [if_pos rfl, hedit m key hkey.2, hm]
      · rw [if_neg hs]
    · rw [if_neg hkey, if_neg hkey]
  | _ :: _ :: _ :: _ => rfl

theorem lookup_insertIf (key key' : String) (value : Option Json) (m : Table) :
    (insertIf key value m).lookup key' =
      if key' = key then value.or (m.lookup key) else m.lookup key' := by
  cases value with
  | none =>
    by_cases h : key' = key
    · rw [if_pos h, h]
      rfl
    · rw [if_neg h]
      rfl
  | some j => exact lookup_insertKey key key' j m

structure Patched (rev : StaticRevision) (t t' : Table) : Prop where
  rest : restView t' = restView t
  handshakeServer : field t' "reality" "handshake_server" =
    (rev.handshakeServer.map Json.str).or (field t "reality" "handshake_server")
  upMbps : field t' "hysteria2" "up_mbps" =
    rev.hysteria2Mbps.elim (field t "hysteria2" "up_mbps") fun bounds => bounds.map (.num ·.1)
  downMbps : field t' "hysteria2" "down_mbps" =
    rev.hysteria2Mbps.elim (field t "hysteria2" "down_mbps") fun bounds => bounds.map (.num ·.2)
  udpProbe : if rev.touchesUdp then
      ∃ m, (t.lookup "udp_probe" = some (.obj m) ∨ t.lookup "udp_probe" = none ∧ m = []) ∧
        t'.lookup "udp_probe" = some (.obj (rev.editUdp m))
    else t'.lookup "udp_probe" = t.lookup "udp_probe"

variable {rev : StaticRevision}

theorem patchReality_spec (h : patchReality rev t = .ok t') :
    restView t' = restView t ∧
    field t' "reality" "handshake_server" =
      (rev.handshakeServer.map Json.str).or (field t "reality" "handshake_server") ∧
    ∀ key ≠ "reality", t'.lookup key = t.lookup key := by
  unfold patchReality at h
  cases hserver : rev.handshakeServer with
  | none =>
    rw [hserver] at h
    cases h
    exact ⟨rfl, rfl, fun _ _ => rfl⟩
  | some host =>
    rw [hserver] at h
    obtain ⟨_, _, hlookup⟩ := lookup_sectionMut h
    obtain ⟨m, _, hfield⟩ := field_sectionMut h
    refine ⟨restView_sectionMut h (by decide) ?_, ?_, ?_⟩
    · intro m key hkey
      have hne : key ≠ "handshake_server" := by
        rintro rfl
        exact hkey (by decide)
      rw [lookup_insertKey, if_neg hne]
    · rw [hfield, if_pos rfl, lookup_insertKey, if_pos rfl]
      rfl
    · intro key hkey
      rw [hlookup, if_neg hkey]

theorem patchHysteria2_spec (h : patchHysteria2 rev t = .ok t') :
    restView t' = restView t ∧
    field t' "hysteria2" "up_mbps" =
      rev.hysteria2Mbps.elim (field t "hysteria2" "up_mbps") (fun bounds => bounds.map (.num ·.1)) ∧
    field t' "hysteria2" "down_mbps" =
      rev.hysteria2Mbps.elim (field t "hysteria2" "down_mbps") (fun bounds => bounds.map (.num ·.2)) ∧
    ∀ key ≠ "hysteria2", t'.lookup key = t.lookup key := by
  have hbounds : ∀ key, ("hysteria2", key) ∉ ALLOWED_FIELDS → key ≠ "up_mbps" ∧ key ≠ "down_mbps" := by
    intro key hkey
    constructor <;> rintro rfl <;> exact hkey (by decide)
  unfold patchHysteria2 at h
  match hmbps : rev.hysteria2Mbps with
  | none =>
    rw [hmbps] at h
    cases h
    exact ⟨rfl, rfl, rfl, fun _ _ => rfl⟩
  | some none =>
    rw [hmbps] at h
    obtain ⟨_, _, hlookup⟩ := lookup_sectionMut h
    obtain ⟨m, _, hfield⟩ := field_sectionMut h
    refine ⟨restView_sectionMut h (by decide) ?_, ?_, ?_, ?_⟩
    · intro m key hkey
      rw [lookup_eraseKey, if_neg (hbounds key hkey).2, lookup_eraseKey, if_neg (hbounds key hkey).1]
    · rw [hfield, if_pos rfl, lookup_eraseKey, if_neg (by decide), lookup_eraseKey, if_pos rfl]
      rfl
    · rw [hfield, if_pos rfl, lookup_eraseKey, if_pos rfl]
      rfl
    · intro key hkey
      rw [hlookup, if_neg hkey]
  | some (some (up, down)) =>
    rw [hmbps] at h
    obtain ⟨_, _, hlookup⟩ := lookup_sectionMut h
    obtain ⟨m, _, hfield⟩ := field_sectionMut h
    refine ⟨restView_sectionMut h (by decide) ?_, ?_, ?_, ?_⟩
    · intro m key hkey
      rw [lookup_insertKey, if_neg (hbounds key hkey).2, lookup_insertKey,
        if_neg (hbounds key hkey).1]
    · rw [hfield, if_pos rfl, lookup_insertKey, if_neg (by decide), lookup_insertKey, if_pos rfl]
      rfl
    · rw [hfield, if_pos rfl, lookup_insertKey, if_pos rfl]
      rfl
    · intro key hkey
      rw [hlookup, if_neg hkey]

theorem patchUdp_spec (h : patchUdp rev t = .ok t') :
    restView t' = restView t ∧
    (if rev.touchesUdp then
      ∃ m, (t.lookup "udp_probe" = some (.obj m) ∨ t.lookup "udp_probe" = none ∧ m = []) ∧
        t'.lookup "udp_probe" = some (.obj (rev.editUdp m))
    else t'.lookup "udp_probe" = t.lookup "udp_probe") ∧
    ∀ key ≠ "udp_probe", t'.lookup key = t.lookup key := by
  unfold patchUdp at h
  by_cases htouch : rev.touchesUdp = true
  · rw [if_pos htouch] at h ⊢
    obtain ⟨t₁, hsection, hrest⟩ := Check.bind_eq_ok.mp h
    simp only [Check.bind_ok] at hrest
    obtain ⟨_, _, _, hrest⟩ := hrest
    cases hrest
    obtain ⟨m, hm, hlookup⟩ := lookup_sectionMut hsection
    refine ⟨restView_sectionMut hsection (by decide) ?_, ⟨m, hm, ?_⟩, ?_⟩
    · intro m key hkey
      have hne : ∀ key', ("udp_probe", key') ∈ ALLOWED_FIELDS → key ≠ key' := by
        rintro key' hmem rfl
        exact hkey hmem
      rw [StaticRevision.editUdp, lookup_insertIf, if_neg (hne _ (by decide)), lookup_insertIf,
        if_neg (hne _ (by decide)), lookup_insertIf, if_neg (hne _ (by decide)), lookup_insertIf,
        if_neg (hne _ (by decide)), lookup_insertIf, if_neg (hne _ (by decide))]
    · rw [hlookup, if_pos rfl]
    · intro key hkey
      rw [hlookup, if_neg hkey]
  · rw [if_neg htouch] at h ⊢
    cases h
    exact ⟨rfl, rfl, fun _ _ => rfl⟩

theorem field_congr {section_ : String} (h : t'.lookup section_ = t.lookup section_) (key : String) :
    field t' section_ key = field t section_ key := by
  unfold field
  rw [h]

theorem patched_of_patches {t₁ t₂ : Table} (h₁ : patchReality rev t = .ok t₁)
    (h₂ : patchHysteria2 rev t₁ = .ok t₂) (h₃ : patchUdp rev t₂ = .ok t') : Patched rev t t' := by
  obtain ⟨hrest₁, hserver, hkeep₁⟩ := patchReality_spec h₁
  obtain ⟨hrest₂, hup, hdown, hkeep₂⟩ := patchHysteria2_spec h₂
  obtain ⟨hrest₃, hudp, hkeep₃⟩ := patchUdp_spec h₃
  have hreality : t'.lookup "reality" = t₁.lookup "reality" :=
    (hkeep₃ _ (by decide)).trans (hkeep₂ _ (by decide))
  have hhysteria2 : t'.lookup "hysteria2" = t₂.lookup "hysteria2" := hkeep₃ _ (by decide)
  have hhysteria2₁ : t₁.lookup "hysteria2" = t.lookup "hysteria2" := hkeep₁ _ (by decide)
  have hprobe : t₂.lookup "udp_probe" = t.lookup "udp_probe" :=
    (hkeep₂ _ (by decide)).trans (hkeep₁ _ (by decide))
  refine ⟨hrest₃.trans (hrest₂.trans hrest₁), ?_, ?_, ?_, ?_⟩
  · rw [field_congr hreality, hserver]
  · rw [field_congr hhysteria2, hup, field_congr hhysteria2₁]
  · rw [field_congr hhysteria2, hdown, field_congr hhysteria2₁]
  · rw [← hprobe]
    exact hudp

end Patched

/-! ### What the planned file holds -/

section Planned

variable {toml : Toml} {ext : External} {rev : StaticRevision}

variable {m t t' : Table} {udp : UdpProbeSection} {file : DeploymentFile}

theorem readUdpProbe_ok :
    readUdpProbe m = .ok udp ↔
      readOr (readList readStr) UdpProbeSection.default.ipv4Resolvers (m.lookup "ipv4_resolvers") =
        .ok udp.ipv4Resolvers ∧
      readOr (readList readStr) UdpProbeSection.default.ipv6Resolvers (m.lookup "ipv6_resolvers") =
        .ok udp.ipv6Resolvers ∧
      readOr (readUnsigned 64) UdpProbeSection.default.retries (m.lookup "retries") =
        .ok udp.retries ∧
      readOr (readUnsigned 64) UdpProbeSection.default.timeoutMs (m.lookup "timeout_ms") =
        .ok udp.timeoutMs ∧
      readOr (readUnsigned 64) UdpProbeSection.default.delayMs (m.lookup "delay_ms") =
        .ok udp.delayMs := by
  simp only [readUdpProbe, Check.bind_eq_ok, Except.ok.injEq]
  constructor
  · rintro ⟨_, h₄, _, h₆, _, hretries, _, htimeout, _, hdelay, rfl⟩
    exact ⟨h₄, h₆, hretries, htimeout, hdelay⟩
  · rintro ⟨h₄, h₆, hretries, htimeout, hdelay⟩
    exact ⟨_, h₄, _, h₆, _, hretries, _, htimeout, _, hdelay, rfl⟩

theorem readUdpProbe_editUdp {udp' : UdpProbeSection} (h : readUdpProbe m = .ok udp)
    (h' : readUdpProbe (rev.editUdp m) = .ok udp') : udp' = rev.overrideUdp udp := by
  obtain ⟨h₄, h₆, hretries, htimeout, hdelay⟩ := readUdpProbe_ok.mp h
  obtain ⟨h₄', h₆', hretries', htimeout', hdelay'⟩ := readUdpProbe_ok.mp h'
  simp only [StaticRevision.editUdp, lookup_insertIf, String.reduceEq, if_true, if_false]
    at h₄' h₆' hretries' htimeout' hdelay'
  cases udp'
  simp only [StaticRevision.overrideUdp, UdpProbeSection.mk.injEq]
  exact ⟨readOr_or readStrs_strs h₄ h₄', readOr_or readStrs_strs h₆ h₆',
    readOr_or readUnsigned_num hretries hretries', readOr_or readUnsigned_num htimeout htimeout',
    readOr_or readUnsigned_num hdelay hdelay'⟩

theorem udpProbe_patched {probe probe' : Option UdpProbeSection} (hp : Patched rev t t')
    (h : readUdpSection (t.lookup "udp_probe") = .ok probe)
    (h' : readUdpSection (t'.lookup "udp_probe") = .ok probe') :
    probe' = if rev.touchesUdp then some (rev.overrideUdp (probe.getD .default)) else probe := by
  have hudp := hp.udpProbe
  by_cases htouch : rev.touchesUdp = true
  · rw [if_pos htouch] at hudp ⊢
    obtain ⟨m, hm, hlookup⟩ := hudp
    have hread : readUdpProbe m = .ok (probe.getD .default) := by
      rcases hm with hm | ⟨hm, rfl⟩
      · rw [hm] at h
        cases hprobe : readUdpProbe m with
        | ok udp =>
          simp only [readUdpSection, hprobe] at h
          cases h
          rfl
        | error e =>
          simp only [readUdpSection, hprobe] at h
          cases h
      · rw [hm] at h
        cases h
        rfl
    rw [hlookup] at h'
    cases hprobe : readUdpProbe (rev.editUdp m) with
    | ok udp =>
      simp only [readUdpSection, hprobe] at h'
      cases h'
      rw [readUdpProbe_editUdp hread hprobe]
    | error e =>
      simp only [readUdpSection, hprobe] at h'
      cases h'
  · rw [if_neg htouch] at hudp ⊢
    rw [hudp] at h'
    exact Except.ok.inj (h'.symm.trans h)

theorem mbps_patched {old : Option Json} {bounds : Option (Option (Nat × Nat))}
    {get : Nat × Nat → Nat} {x y : Option Nat} (hold : readOption (readUnsigned 32) old = .ok x)
    (hnew : readOption (readUnsigned 32) (bounds.elim old fun bounds => bounds.map (.num <| get ·)) =
      .ok y) : y = bounds.elim x fun bounds => bounds.map get := by
  match bounds with
  | none => exact Except.ok.inj (hnew.symm.trans hold)
  | some none => exact (Except.ok.inj hnew).symm
  | some (some b) =>
    change (readUnsigned 32 (.num (get b))).map some = .ok y at hnew
    cases hread : readUnsigned 32 (.num (get b)) with
    | ok n =>
      rw [hread] at hnew
      cases hnew
      simp [readUnsigned_num _ _ hread]
    | error e =>
      rw [hread] at hnew
      cases hnew

theorem Toml.decode_ok :
    toml.decode t = .ok file ↔
      ∃ base, toml.others (restView t) = .ok base ∧
      ∃ server, readRequired readStr "handshake_server" (field t "reality" "handshake_server") =
        .ok server ∧
      ∃ up, readOption (readUnsigned 32) (field t "hysteria2" "up_mbps") = .ok up ∧
      ∃ down, readOption (readUnsigned 32) (field t "hysteria2" "down_mbps") = .ok down ∧
      ∃ probe, readUdpSection (t.lookup "udp_probe") = .ok probe ∧
        base.withAllowlisted server up down probe = file := by
  simp only [Toml.decode, Check.bind_eq_ok, Except.ok.injEq]

theorem handshakeServer_patched {server server' : String} (hp : Patched rev t t')
    (h : readRequired readStr "handshake_server" (field t "reality" "handshake_server") = .ok server)
    (h' : readRequired readStr "handshake_server" (field t' "reality" "handshake_server") =
      .ok server') :
    server' = rev.handshakeServer.getD server := by
  rw [hp.handshakeServer] at h'
  cases hnamed : rev.handshakeServer with
  | none =>
    rw [hnamed] at h'
    exact Except.ok.inj (h'.symm.trans h)
  | some host =>
    rw [hnamed] at h'
    exact (Except.ok.inj h').symm

theorem Toml.decode_patched {file' : DeploymentFile} (hp : Patched rev t t')
    (h : toml.decode t = .ok file) (h' : toml.decode t' = .ok file') :
    file' = file.override rev := by
  obtain ⟨base, hbase, server, hserver, up, hup, down, hdown, probe, hprobe, rfl⟩ :=
    Toml.decode_ok.mp h
  obtain ⟨base', hbase', server', hserver', up', hup', down', hdown', probe', hprobe', rfl⟩ :=
    Toml.decode_ok.mp h'
  rw [hp.rest, hbase] at hbase'
  rw [hp.upMbps] at hup'
  rw [hp.downMbps] at hdown'
  rw [← Except.ok.inj hbase', handshakeServer_patched hp hserver hserver', mbps_patched hup hup',
    mbps_patched hdown hdown', udpProbe_patched hp hprobe hprobe']
  unfold DeploymentFile.override StaticRevision.overrideHysteria2
  cases rev.hysteria2Mbps <;> rfl

theorem Toml.load_ok {text : String} (h : toml.load ext text = .ok file) :
    ∃ t, toml.parse text = .ok t ∧ toml.decode t = .ok file := by
  simp only [Toml.load, Check.bind_eq_ok, Check.mapError_eq_ok, Except.ok.injEq] at h
  obtain ⟨t, ht, _, hfile, _, _, rfl⟩ := h
  exact ⟨t, ht, hfile⟩

theorem plan_spec (hround : toml.RoundTrips) {text : String} {plan : StaticRevisionPlan}
    (h : planStaticRevision toml ext text rev = .ok plan) :
    ∃ original, toml.load ext text = .ok original ∧
      match plan with
      | .unchanged => original.override rev = original
      | .changed candidateText candidate =>
        toml.load ext candidateText = .ok candidate ∧ candidate = original.override rev := by
  simp only [planStaticRevision, Check.bind_eq_ok, Check.mapError_eq_ok] at h
  obtain ⟨original, horiginal, t, ht, t₁, h₁, t₂, h₂, t₃, h₃, candidateText, hprint, candidate,
    hcandidate, hplan⟩ := h
  obtain ⟨t', ht', hdecode⟩ := Toml.load_ok horiginal
  obtain ⟨t₃', ht₃, hdecode₃⟩ := Toml.load_ok hcandidate
  rw [ht] at ht'
  cases ht'
  rw [hround t₃ candidateText hprint] at ht₃
  cases ht₃
  have hoverride := Toml.decode_patched (patched_of_patches h₁ h₂ h₃) hdecode hdecode₃
  refine ⟨original, horiginal, ?_⟩
  split at hplan
  · next hsame =>
    cases hplan
    exact hoverride.symm.trans hsame
  · split at hplan
    · cases hplan
    · cases hplan
      exact ⟨hcandidate, hoverride⟩

end Planned

end SingboxVpn
