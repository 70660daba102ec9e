import SingboxVpn.Admin.Users
import SingboxVpn.Server.Exit
import SingboxVpn.Server.Relay

namespace SingboxVpn

/-!
# Probe accounts stay confined

The renderer inserts the confinement of the probe principals behind rules that are already
scoped to them.  That is safe as long as no probe account carries another flag, and the user
commands do not make sure of it: the hairpin flag can be set on a probe account.

* `StoreInvariant`, `storeInvariant_of_reachable` — what runs that keep the flags apart keep.
-/

/-! ### Confinement -/

def probeDestination (d : DeploymentConfig) (c : Conn) : Prop :=
  c.network = .tcp ∧
    ((c.port = d.subscription.listenPort ∧ c.literal = some (.v4 0x7f000001)) ∨
      (c.port = PROBE_ALLOWED_PORT ∧
        ((∃ a, c.literal = some a ∧ inCidrs PROBE_ALLOWED_IP_CIDRS [a] = true) ∨
          ∃ n ∈ PROBE_ALLOWED_DOMAINS, c.requested = some n)))

/-- Every connection of a principal of an active probe account is rejected, or goes to one of
    its destinations through `direct`. -/
def ProbesConfined (d : DeploymentConfig) (users : List CompatUser) (now : Int) (doc : Json) :
    Prop :=
  ∀ (core : Core) (c : Conn), c.inbound ∈ inboundTags doc →
    c.ownedBy users now CompatUser.isReservedProbe →
    decision core doc c = .reject ∨ (decision core doc c = .direct ∧ probeDestination d c)

section Decisions

variable {ext : External} {core : Core} {d : DeploymentConfig} {users : List CompatUser}
  {reality : RealityServerParams} {hysteria : Hysteria2ServerParams} {now : Int} {doc : Json}
  {c : Conn}

theorem probeDestination_of_loopback (h : loopbackSelftest d c Meta.start) :
    probeDestination d c :=
  ⟨h.1, .inl ⟨h.2.1, loopback_literal h.2.2⟩⟩

theorem probeDestination_of_allowed (h : probeAllowed core c Meta.start) :
    probeDestination d c := by
  obtain ⟨htcp, hport, hdest⟩ := h
  refine ⟨htcp, .inr ⟨hport, ?_⟩⟩
  rcases hdest with hip | ⟨n, hn, hdom⟩
  · rw [addresses_start] at hip
    obtain ⟨a, ha, hcidr⟩ := inCidrs_iff.mp hip
    exact .inl ⟨a, by simpa using ha, inCidrs_iff.mpr ⟨a, by simp, hcidr⟩⟩
  · exact .inr ⟨n, hdom, requested_of_hosts hn⟩

theorem exit_confines (hrole : d.role = .exit)
    (h : renderServerConfigForDeployment ext d users reality hysteria now = .ok doc) :
    ProbesConfined d users now doc := by
  intro core c hin howner
  rw [exit_inboundTags hrole h] at hin
  have hu : c.user ∈ probeIds users now := mem_principalsOf.mpr howner
  rw [exit_decision hrole h hin, exitPolicy, if_pos hu]
  split_ifs with hallow
  · exact .inr ⟨rfl, hallow.elim probeDestination_of_loopback probeDestination_of_allowed⟩
  · exact .inl rfl

theorem relay_confines (hrole : d.role = .relay)
    (h : renderServerConfigForDeployment ext d users reality hysteria now = .ok doc)
    (hhair : ∀ p ∈ hairpinPrincipals users now, p ∉ probeIds users now)
    (hexit : ∀ p ∈ exitPrincipalIds d users now, p ∉ probeIds users now) :
    ProbesConfined d users now doc := by
  intro core c hin howner
  rw [relay_inboundTags hrole h] at hin
  have hu : c.user ∈ probeIds users now := mem_principalsOf.mpr howner
  have hearly : c.user ∉ earlyHairpins users now := fun he =>
    hhair _ ((List.takeWhile_prefix _).subset he) hu
  have hscope : ¬ (exitBlockEarly d users now ∧ exitScoped d users now c) := fun he =>
    hexit _ he.2.2 hu
  rw [relay_decision hrole h hin, relayPolicy, if_pos hu, probePolicy,
    if_neg (not_hairpinHit_of_not_mem hearly), if_neg hscope, metaBehind_of_not_mem hearly]
  split_ifs with hloop hallow
  · exact .inr ⟨rfl, probeDestination_of_loopback hloop.2⟩
  · exact .inr ⟨rfl, probeDestination_of_allowed hallow⟩
  · exact .inl rfl

end Decisions

/-! ### Runs that keep the flags apart -/

/-- On a relay a command does not set the hairpin flag on a probe account, and a minted
    principal is not one already in use.  On an exit any command will do. -/
def KeepsProbes (role : NodeRole) (users : Store) (env : Env) (cmd : UserCommand) : Prop :=
  role = .relay →
    (∀ id, cmd = .googleEgressHairpin id true →
      ∀ u ∈ users, u.id = id → u.isReservedProbe = false) ∧
    (∀ id, cmd = .renewNative id →
      ∀ u ∈ users, ∀ g ∈ u.credentials, g.principalId ≠ nativePrincipal env)

/-- A stored principal belongs to one account. -/
def OneOwner (users : Store) : Prop :=
  ∀ u ∈ users, ∀ v ∈ users, ∀ g ∈ u.credentials, ∀ k ∈ v.credentials,
    g.principalId = k.principalId → u.id = v.id

/-- What such runs keep: account ids and grant principals are drawn apart, each has one
    account, and no probe account carries another flag. -/
structure StoreInvariant (users : Store) : Prop where
  ids : ∀ u ∈ users, ∃ uuid, u.id = "user_" ++ uuid
  distinct : (users.map CompatUser.id).Nodup
  noExit : ∀ u ∈ users, u.exitPrincipal = false
  native : ∀ u ∈ users, ∀ g ∈ u.credentials, ∃ hex, g.principalId = "native_" ++ hex
  owner : OneOwner users
  exclusive : ∀ u ∈ users, u.isReservedProbe = true → u.googleEgressHairpin = false

section Invariant

variable {users users' : Store} {env : Env} {cmd : UserCommand}

theorem renewFirst_principals {p : String} {validUntil now : Int}
    {gs gs' : List CredentialGrant} (h : renewFirst p validUntil now gs = .ok gs') :
    ∀ g' ∈ gs', ∃ g ∈ gs, g'.principalId = g.principalId := by
  induction gs generalizing gs' with
  | nil =>
    cases h
    exact fun g' hg' => ⟨g', hg', rfl⟩
  | cons g gs ih =>
    unfold renewFirst at h
    intro g' hg'
    split at h
    · obtain ⟨renewed, hrenew, hok⟩ := Check.bind_eq_ok.mp h
      cases hok
      rcases List.mem_cons.mp hg' with rfl | hmem
      · -- a renewal moves the end of the grant and nothing else
        simp only [CredentialGrant.renewUntil, Check.bind_ok] at hrenew
        obtain ⟨-, -, -, hrenew⟩ := hrenew
        cases hrenew
        exact ⟨g, List.mem_cons_self, rfl⟩
      · exact ⟨g', List.mem_cons_of_mem _ hmem, rfl⟩
    · obtain ⟨rest, hrest, hok⟩ := Check.bind_eq_ok.mp h
      cases hok
      rcases List.mem_cons.mp hg' with rfl | hmem
      · exact ⟨g', List.mem_cons_self, rfl⟩
      · obtain ⟨g₀, hg₀, heq⟩ := ih hrest g' hmem
        exact ⟨g₀, List.mem_cons_of_mem _ hg₀, heq⟩

theorem edit_principals {w w' : CompatUser} (h : Edit env cmd w w') :
    ∀ g' ∈ w'.credentials, (∃ g ∈ w.credentials, g'.principalId = g.principalId) ∨
      (cmd = .renewNative w.id ∧ g'.principalId = nativePrincipal env) := by
  intro g' hg'
  rcases h.credentials with hsame | ⟨hcmd, hrenew⟩
  · rw [hsame] at hg'
    exact .inl ⟨g', hg', rfl⟩
  · unfold renewNative at hrenew
    split at hrenew
    · obtain ⟨credentials, hfirst, hok⟩ := Check.bind_eq_ok.mp hrenew
      cases hok
      exact .inl (renewFirst_principals hfirst g' hg')
    · cases hrenew
      rcases List.mem_append.mp hg' with hmem | hmem
      · exact .inl ⟨g', hmem, rfl⟩
      · exact .inr ⟨hcmd, by rw [List.mem_singleton.mp hmem]; rfl⟩

theorem distinct_ids_of_reachable {cond : Store → Env → UserCommand → Prop}
    (h : Reachable cond users) : (users.map CompatUser.id).Nodup := by
  refine @Reachable.invariant users cond (fun users => (users.map CompatUser.id).Nodup)
    List.nodup_nil ?_ h
  intro users users' env cmd hinv _ hchange
  cases hchange with
  | same => exact hinv
  | added new =>
    rw [List.map_append, List.map_singleton, List.nodup_append]
    refine ⟨hinv, List.nodup_singleton _, ?_⟩
    intro id hid id' hid' heq
    obtain ⟨v, hv, rfl⟩ := List.mem_map.mp hid
    rw [List.mem_singleton.mp hid'] at heq
    exact new.fresh v hv heq
  | edited split edit =>
    rw [split] at hinv
    rw [List.map_append, List.map_cons, edit.id, ← List.map_cons, ← List.map_append]
    exact hinv
  | removed keep => exact hinv.sublist (List.Sublist.map _ List.filter_sublist)

theorem owner_of_reachable (h : Reachable (KeepsProbes .relay) users) : OneOwner users := by
  refine @Reachable.invariant users _ OneOwner (fun u hu => absurd hu List.not_mem_nil) ?_ h
  intro users users' env cmd hinv hcond hchange w' hw' v' hv' g' hg' k' hk' heq
  rcases hchange.origin hw' with ⟨w, hw, hew⟩ | new
  · rcases hchange.origin hv' with ⟨v, hv, hev⟩ | new
    · rw [hew.id, hev.id]
      rcases edit_principals hew g' hg' with ⟨g, hg, hgp⟩ | ⟨hcw, hmw⟩
      · rcases edit_principals hev k' hk' with ⟨k, hk, hkp⟩ | ⟨hcv, hmv⟩
        · exact hinv w hw v hv g hg k hk (hgp.symm.trans (heq.trans hkp))
        · exact absurd (hgp.symm.trans (heq.trans hmv)) ((hcond rfl).2 _ hcv w hw g hg)
      · rcases edit_principals hev k' hk' with ⟨k, hk, hkp⟩ | ⟨hcv, -⟩
        · exact absurd (hkp.symm.trans (heq.symm.trans hmw)) ((hcond rfl).2 _ hcw v hv k hk)
        · exact UserCommand.renewNative.inj (hcw.symm.trans hcv)
    · -- a new account has no stored grant
      rw [new.credentials] at hk'
      cases hk'
  · rw [new.credentials] at hg'
    cases hg'

theorem exclusive_of_reachable (h : Reachable (KeepsProbes .relay) users) :
    ∀ u ∈ users, u.isReservedProbe = true → u.googleEgressHairpin = false := by
  refine h.forall_account (fun new _ => new.hairpin) ?_
  intro users env cmd u u' hcond hu edit hinv hprobe
  rw [edit.isReservedProbe] at hprobe
  rcases edit.hairpin with hsame | hcmd
  · rw [hsame]
    exact hinv hprobe
  · -- the command that sets the flag names an account that is no probe
    by_contra hon
    rw [Bool.not_eq_false] at hon
    rw [hon] at hcmd
    have hnot := (hcond rfl).1 u.id hcmd u hu rfl
    rw [hprobe] at hnot
    cases hnot

theorem storeInvariant_of_reachable (h : Reachable (KeepsProbes .relay) users) :
    StoreInvariant users where
  ids := h.forall_account (fun new => new.id) fun _ _ edit hinv => edit.id ▸ hinv
  distinct := distinct_ids_of_reachable h
  noExit := h.forall_account (fun new => new.exitPrincipal) fun _ _ edit hinv =>
    edit.exitPrincipal.trans hinv
  native := by
    refine h.forall_account (fun new g hg => ?_) ?_
    · rw [new.credentials] at hg
      cases hg
    · intro users env cmd u u' _ _ edit hinv g' hg'
      rcases edit_principals edit g' hg' with ⟨g, hg, heq⟩ | ⟨-, hminted⟩
      · rw [heq]
        exact hinv g hg
      · exact ⟨env.draws.principalHex, hminted⟩
  owner := owner_of_reachable h
  exclusive := exclusive_of_reachable h

end Invariant

/-! ### Confinement after every run -/

section Confined

variable {ext : External} {d : DeploymentConfig} {users : Store}
  {reality : RealityServerParams} {hysteria : Hysteria2ServerParams} {now : Int} {doc : Json}

theorem principal_cases {u : CompatUser} {p : String} (h : p ∈ u.activePrincipalIds now) :
    p = u.id ∨ ∃ g ∈ u.credentials, p = g.principalId := by
  rw [CompatUser.activePrincipalIds_of_active (CompatUser.isActive_of_mem h)] at h
  obtain ⟨g, hg, rfl⟩ := List.mem_map.mp h
  have hmem : g ∈ u.effectiveGrants := (List.mem_filter.mp hg).1
  unfold CompatUser.effectiveGrants at hmem
  split at hmem
  · exact .inr ⟨g, hmem, rfl⟩
  · rw [List.mem_singleton.mp hmem]
    exact .inl rfl

theorem user_ne_native (s t : String) : "user_" ++ s ≠ "native_" ++ t := by
  intro h
  have := congrArg String.toList h
  simp at this

theorem StoreInvariant.unique {u v : CompatUser} {p : String} (h : StoreInvariant users)
    (hu : u ∈ users) (hv : v ∈ users) (hpu : p ∈ u.activePrincipalIds now)
    (hpv : p ∈ v.activePrincipalIds now) : u = v := by
  have hid : u.id = v.id := by
    obtain ⟨s, hs⟩ := h.ids u hu
    obtain ⟨t, ht⟩ := h.ids v hv
    rcases principal_cases hpu with hpu | ⟨g, hg, hpu⟩
    · rcases principal_cases hpv with hpv | ⟨k, hk, hpv⟩
      · exact hpu.symm.trans hpv
      · obtain ⟨hex, hhex⟩ := h.native v hv k hk
        exact absurd (hs.symm.trans (hpu.symm.trans (hpv.trans hhex))) (user_ne_native s hex)
    · rcases principal_cases hpv with hpv | ⟨k, hk, hpv⟩
      · obtain ⟨hex, hhex⟩ := h.native u hu g hg
        exact absurd (ht.symm.trans (hpv.symm.trans (hpu.trans hhex))) (user_ne_native t hex)
      · exact h.owner u hu v hv g hg k hk (hpu.symm.trans hpv)
  exact List.inj_on_of_nodup_map h.distinct hu hv hid

/-- In every run that keeps the hairpin flag off a relay's probe accounts, and in every run on an
    exit, the probe accounts are confined at every time. -/
theorem probes_confined (hreach : Reachable (KeepsProbes d.role) users)
    (h : renderServerConfigForDeployment ext d users reality hysteria now = .ok doc) :
    ProbesConfined d users now doc := by
  cases hrole : d.role with
  | exit => exact exit_confines hrole h
  | relay =>
    rw [hrole] at hreach
    have hinv := storeInvariant_of_reachable hreach
    refine relay_confines hrole h ?_ ?_
    · intro p hp hprobe
      obtain ⟨u, hu, hhair, hpu⟩ := mem_principalsOf.mp hp
      obtain ⟨v, hv, hflag, hpv⟩ := mem_principalsOf.mp hprobe
      obtain rfl := hinv.unique hu hv hpu hpv
      rw [hinv.exclusive u hu hflag] at hhair
      cases hhair
    · intro p hp
      -- no command makes an account an exit principal
      unfold exitPrincipalIds at hp
      split at hp
      · cases hp
      · obtain ⟨u, hu, hflag, -⟩ := mem_principalsOf.mp hp
        rw [hinv.noExit u hu] at hflag
        cases hflag

end Confined

/-! ### One run -/

/-- The self-test account that an installation creates. -/
def sampleProbe : CompatUser := newUser sampleEnv "user_1" "arcana-selftest" none true

theorem sampleProbe_created : step sampleEnv [] (.createProbe none) = .ok [sampleProbe] := rfl

/-- After an installation the self-test account is confined. -/
theorem probes_confined_installed :
    ∃ doc, renderServerConfigForDeployment sampleExternal sampleRelay [sampleProbe]
        sampleReality sampleHysteria 0 = .ok doc ∧
      ProbesConfined sampleRelay [sampleProbe] 0 doc := by
  obtain ⟨doc, hdoc⟩ := sampleRelay_renders [sampleProbe] 0 rfl
  refine ⟨doc, hdoc, probes_confined (.single ⟨sampleEnv, .createProbe none, fun _ => ⟨?_, ?_⟩,
    sampleProbe_created⟩) hdoc⟩
  · intro id hcmd
    cases hcmd
  · intro id hcmd
    cases hcmd

/-- The hairpin flag can be set on the self-test account, and then it reaches Google. -/
theorem probe_escapes_by_hairpin :
    step sampleEnv [] (.createProbe none) = .ok [sampleProbe] ∧
      step sampleEnv [sampleProbe] (.googleEgressHairpin "user_1" true) =
        .ok [{ sampleProbe with googleEgressHairpin := true }] ∧
      ∃ doc, renderServerConfigForDeployment sampleExternal sampleRelay
          [{ sampleProbe with googleEgressHairpin := true }] sampleReality sampleHysteria 0 =
            .ok doc ∧
        decision sampleCore doc { sampleConn with dest := .name "google.com" } = .direct ∧
        ¬ ProbesConfined sampleRelay [{ sampleProbe with googleEgressHairpin := true }] 0 doc := by
  obtain ⟨doc, hdoc⟩ :=
    sampleRelay_renders [{ sampleProbe with googleEgressHairpin := true }] 0 rfl
  have hdirect : decision sampleCore doc { sampleConn with dest := .name "google.com" } =
      .direct := by
    rw [relay_decision rfl hdoc (by decide)]
    decide
  have hin : REALITY_INBOUND ∈ inboundTags doc := by
    rw [relay_inboundTags rfl hdoc]
    decide
  have howner : Conn.ownedBy [{ sampleProbe with googleEgressHairpin := true }] 0
      { sampleConn with dest := .name "google.com" } CompatUser.isReservedProbe :=
    ⟨_, List.mem_cons_self, rfl, by decide⟩
  refine ⟨rfl, rfl, doc, hdoc, hdirect, fun hconf => ?_⟩
  rcases hconf sampleCore { sampleConn with dest := .name "google.com" } hin howner with
    hreject | ⟨-, -, hdest⟩
  · rw [hdirect] at hreject
    cases hreject
  · rcases hdest with ⟨hport, -⟩ | ⟨-, ⟨a, ha, -⟩ | ⟨n, hn, hname⟩⟩
    · revert hport
      decide
    · cases ha
    · cases hname
      revert hn
      decide

end SingboxVpn
