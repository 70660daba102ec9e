import Mathlib.Algebra.Order.BigOperators.Group.List
import SingboxVpn.Server.Shape

namespace SingboxVpn

open FirstMatch (Outcome eval eval_append eval_append_pass)

/-!
# What a relay forwards

A relay exists to forward its users to the declared exits and nothing else.  `relayPolicy`
says for one connection what its document decides, with no rule left in it; the rendered
document refines it exactly (`relay_decision`).  What a relay allows is then read off the
policy.

* `relayPolicy`, `relay_decision` — the policy and the refinement.
* `RelayAllows`, `relay_fail_closed_iff` — the only ways to `direct`, and when there are others.
-/

/-! ### The policy -/

section Policy

variable (core : Core) (d : DeploymentConfig) (users : List CompatUser) (now : Int) (c : Conn)

/-- What the rules know about a connection behind the hairpin rules of these principals. -/
def metaBehind (ps : List String) : Meta :=
  if c.inbound = REALITY_INBOUND ∧ c.user ∈ ps then Meta.start.sniff c else Meta.start

def hairpinHit (ps : List String) : Prop :=
  (c.inbound = REALITY_INBOUND ∧ c.user ∈ ps) ∧ googleNamed core c (Meta.start.sniff c)

instance (ps : List String) : Decidable (hairpinHit core c ps) :=
  inferInstanceAs (Decidable (_ ∧ _))

def exitScoped : Prop :=
  c.inbound = REALITY_INBOUND ∧ c.user ∈ exitPrincipalIds d users now

instance : Decidable (exitScoped d users now c) := inferInstanceAs (Decidable (_ ∧ _))

def exitVerdict (m : Meta) : Decision := if exitRejected core d c m then .reject else .direct

def probePolicy : Decision :=
  if c.inbound = REALITY_INBOUND ∧ loopbackSelftest d c Meta.start then .direct
  else if hairpinHit core c (earlyHairpins users now) then .direct
  -- a block whose principals are all probes stands in front of the confinement
  else if exitBlockEarly d users now ∧ exitScoped d users now c then
    exitVerdict core d c (metaBehind c (earlyHairpins users now))
  else if probeAllowed core c (metaBehind c (earlyHairpins users now)) then .direct
  else .reject

def customerPolicy : Decision :=
  if hairpinHit core c (hairpinPrincipals users now) then .direct
  else if exitScoped d users now c then
    exitVerdict core d c (metaBehind c (hairpinPrincipals users now))
  else if c.inbound = REALITY_INBOUND ∧
      hitsTarget core c (metaBehind c (hairpinPrincipals users now)) d.relayTargets then .direct
  else .reject

def relayPolicy : Decision :=
  if c.user ∈ probeIds users now then probePolicy core d users now c
  else customerPolicy core d users now c

end Policy

/-! ### The rendered document decides by the policy -/

section Refinement

variable {core : Core} {d : DeploymentConfig} {users : List CompatUser} {now : Int} {c : Conn}

variable {ps : List String}

theorem eval_hairpins_of_hit (h : hairpinHit core c ps) (rest : List Json) :
    eval (act core c) Meta.start (ps.flatMap (hairpinRules d) ++ rest) = .stop .direct := by
  rw [eval_append, eval_hairpinBlocks, if_pos h.1, if_pos h.2]

theorem eval_hairpins_of_miss (h : ¬ hairpinHit core c ps) (rest : List Json) :
    eval (act core c) Meta.start (ps.flatMap (hairpinRules d) ++ rest) =
      eval (act core c) (metaBehind c ps) rest := by
  rw [eval_append, eval_hairpinBlocks]
  unfold metaBehind
  by_cases hs : c.inbound = REALITY_INBOUND ∧ c.user ∈ ps
  -- the rules of a hairpin principal sniff even where they do not decide
  · have hg : ¬ googleNamed core c (Meta.start.sniff c) := fun hg => h ⟨hs, hg⟩
    rw [if_pos hs, if_neg hg, if_pos hs]
  · rw [if_neg hs, if_neg hs]

theorem not_mem_earlyHairpins (h : c.user ∉ probeIds users now) :
    c.user ∉ earlyHairpins users now := by
  intro he
  have := List.mem_takeWhile_imp he
  exact h (by simpa using this)

theorem mem_lateHairpins (h : c.user ∉ probeIds users now) :
    c.user ∈ lateHairpins users now ↔ c.user ∈ hairpinPrincipals users now := by
  have hsplit : hairpinPrincipals users now = earlyHairpins users now ++ lateHairpins users now :=
    List.takeWhile_append_dropWhile.symm
  rw [hsplit, List.mem_append]
  exact ⟨.inr, fun hm => hm.resolve_left (not_mem_earlyHairpins h)⟩

theorem metaBehind_of_not_mem (h : c.user ∉ ps) : metaBehind c ps = Meta.start := by
  rw [metaBehind, if_neg fun hs => h hs.2]

theorem not_hairpinHit_of_not_mem (h : c.user ∉ ps) : ¬ hairpinHit core c ps := fun hit => h hit.1.2

theorem eval_loopback (rest : List Json) :
    eval (act core c) Meta.start
        ((if probeIds users now = [] then [] else [relayLoopbackRule d (probeIds users now)]) ++
          rest) =
      if c.user ∈ probeIds users now ∧ c.inbound = REALITY_INBOUND ∧
          loopbackSelftest d c Meta.start then .stop .direct
      else eval (act core c) Meta.start rest := by
  by_cases hids : probeIds users now = []
  · rw [if_pos hids, List.nil_append, if_neg]
    rw [hids]
    exact fun h => by cases h.1
  · rw [if_neg hids, List.singleton_append]
    by_cases h : (c.inbound = REALITY_INBOUND ∧ c.user ∈ probeIds users now) ∧
        loopbackSelftest d c Meta.start
    · rw [FirstMatch.eval_cons_stop _ (by rw [act_relayLoopback, if_pos h]),
        if_pos ⟨h.1.2, h.1.1, h.2⟩]
    · rw [FirstMatch.eval_cons_pass _ (by rw [act_relayLoopback, if_neg h]),
        if_neg fun h' => h ⟨⟨h'.2.1, h'.1⟩, h'.2.2⟩]

theorem eval_confinement (m : Meta) (rest : List Json) :
    eval (act core c) m
        ((if probeIds users now = [] then [] else probeConfinementRules (probeIds users now)) ++
          rest) =
      if c.user ∈ probeIds users now then
        .stop (if probeAllowed core c m then .direct else .reject)
      else eval (act core c) m rest := by
  by_cases hids : probeIds users now = []
  · rw [if_pos hids, List.nil_append, if_neg]
    rw [hids]
    exact List.not_mem_nil
  · rw [if_neg hids, eval_append, eval_probeRules]
    by_cases hu : c.user ∈ probeIds users now
    · simp only [if_pos hu]
    · simp only [if_neg hu]

theorem eval_exitBlock (hpolicy : ipv6Policy d false = .allow) (m : Meta) (b : Prop)
    [Decidable b] (rest : List Json) :
    eval (act core c) m
        ((if b then exitPrincipalRules d (exitPrincipalIds d users now) else []) ++ rest) =
      if b ∧ exitScoped d users now c then .stop (exitVerdict core d c m)
      else eval (act core c) m rest := by
  by_cases hb : b
  · rw [if_pos hb, eval_append, eval_exitPrincipalRules hpolicy]
    by_cases hs : exitScoped d users now c
    · simp only [if_pos (And.intro hb hs)]
      unfold exitScoped at hs
      simp only [if_pos hs]
      rfl
    · simp only [if_neg fun h : b ∧ exitScoped d users now c => hs h.2]
      unfold exitScoped at hs
      simp only [if_neg hs]
  · rw [if_neg hb, List.nil_append, if_neg fun h => hb h.1]

theorem eval_relayEnd (hin : c.inbound ∈ INBOUND_TAGS) (m : Meta) :
    eval (act core c) m
        (d.relayTargets.map relayTargetRule ++ [rejectAllRule (INBOUND_TAGS.map Json.str)]) =
      .stop (if c.inbound = REALITY_INBOUND ∧ hitsTarget core c m d.relayTargets then .direct
        else .reject) := by
  rw [eval_append, eval_targetRules]
  by_cases h : c.inbound = REALITY_INBOUND ∧ hitsTarget core c m d.relayTargets
  · simp only [if_pos h]
  · simp only [if_neg h]
    exact FirstMatch.eval_cons_stop [] (act_rejectAll hin)

theorem eval_probe (hpolicy : ipv6Policy d false = .allow)
    (hu : c.user ∈ probeIds users now) :
    eval (act core c) Meta.start (relayFinalRules d users now) =
      .stop (probePolicy core d users now c) := by
  unfold relayFinalRules probePolicy
  rw [eval_loopback]
  -- the blocks in the order of the list, the confinement decides whatever is left
  by_cases hloop : c.inbound = REALITY_INBOUND ∧ loopbackSelftest d c Meta.start
  · rw [if_pos ⟨hu, hloop⟩, if_pos hloop]
  rw [if_neg fun h => hloop h.2, if_neg hloop]
  unfold relayTail
  by_cases hhit : hairpinHit core c (earlyHairpins users now)
  · rw [eval_hairpins_of_hit hhit, if_pos hhit]
  rw [eval_hairpins_of_miss hhit, if_neg hhit, eval_exitBlock hpolicy]
  by_cases hexit : exitBlockEarly d users now ∧ exitScoped d users now c
  · rw [if_pos hexit, if_pos hexit]
  · rw [if_neg hexit, if_neg hexit, eval_confinement, if_pos hu]

theorem eval_customer (hpolicy : ipv6Policy d false = .allow) (hin : c.inbound ∈ INBOUND_TAGS)
    (hu : c.user ∉ probeIds users now) :
    eval (act core c) Meta.start (relayFinalRules d users now) =
      .stop (customerPolicy core d users now c) := by
  have hearly := not_mem_earlyHairpins hu
  -- a block in front of the confinement is scoped to probe principals only
  have hblock : ¬ (exitBlockEarly d users now ∧ exitScoped d users now c) :=
    fun h => hu (h.1.2 _ h.2.2)
  have hhairpin : hairpinHit core c (lateHairpins users now) ↔
      hairpinHit core c (hairpinPrincipals users now) := by
    unfold hairpinHit
    rw [mem_lateHairpins hu]
  have hmeta : metaBehind c (lateHairpins users now) =
      metaBehind c (hairpinPrincipals users now) := by
    unfold metaBehind
    simp only [mem_lateHairpins hu]
  unfold relayFinalRules relayTail customerPolicy
  rw [eval_loopback, if_neg fun h => hu h.1,
    eval_hairpins_of_miss (not_hairpinHit_of_not_mem hearly), metaBehind_of_not_mem hearly,
    eval_exitBlock hpolicy, if_neg hblock, eval_confinement, if_neg hu]
  -- behind the confinement: hairpins, the block unless it came early, the end of the list
  by_cases hhit : hairpinHit core c (hairpinPrincipals users now)
  · rw [eval_hairpins_of_hit (hhairpin.mpr hhit), if_pos hhit]
  rw [eval_hairpins_of_miss fun h => hhit (hhairpin.mp h), if_neg hhit, hmeta,
    ← ite_not (exitBlockEarly d users now), eval_exitBlock hpolicy]
  by_cases hexit : exitScoped d users now c
  · have hlate : ¬ exitBlockEarly d users now := fun h => hblock ⟨h, hexit⟩
    rw [if_pos ⟨hlate, hexit⟩, if_pos hexit]
  · rw [if_neg fun h => hexit h.2, if_neg hexit, eval_relayEnd hin]

theorem policy_of_relay {ext : External} (hrole : d.role = .relay)
    (h : d.validate ext = .ok ()) : ipv6Policy d false = .allow := by
  have hegress := DeploymentConfig.egress_of_relay h hrole
  simp [ipv6Policy, hegress]

theorem relayPolicy_direct_or_reject :
    relayPolicy core d users now c = .direct ∨ relayPolicy core d users now c = .reject := by
  unfold relayPolicy probePolicy customerPolicy exitVerdict
  split_ifs <;> simp

end Refinement

section Rendered

variable {ext : External} {core : Core} {d : DeploymentConfig} {users : List CompatUser}
  {reality : RealityServerParams} {hysteria : Hysteria2ServerParams} {now : Int} {doc : Json}
  {c : Conn}

theorem relay_inboundTags (hrole : d.role = .relay)
    (h : renderServerConfigForDeployment ext d users reality hysteria now = .ok doc) :
    inboundTags doc = INBOUND_TAGS :=
  (tags_of_inbounds (relay_document hrole h).2.2.2 (base_tags users reality hysteria _ now)).1

theorem relay_decision (hrole : d.role = .relay)
    (h : renderServerConfigForDeployment ext d users reality hysteria now = .ok doc)
    (hin : c.inbound ∈ INBOUND_TAGS) :
    decision core doc c = relayPolicy core d users now c := by
  have hpolicy := policy_of_relay hrole (render_checks h).1
  have heval : eval (act core c) Meta.start (routeRules doc) =
      .stop (relayPolicy core d users now c) := by
    rw [(relay_document hrole h).1]
    unfold relayPolicy
    by_cases hu : c.user ∈ probeIds users now
    · rw [if_pos hu, eval_probe hpolicy hu]
    · rw [if_neg hu, eval_customer hpolicy hin hu]
  rw [decision, decideBy, heval]

end Rendered

/-! ### The only ways out of a relay -/

section Allowed

variable (d : DeploymentConfig) (users : List CompatUser) (now : Int) (c : Conn)

/-- The connection's principal belongs to an active account with the flag. -/
def Conn.ownedBy (flag : CompatUser → Bool) : Prop :=
  ∃ u ∈ users, flag u = true ∧ c.user ∈ u.activePrincipalIds now

/-- The connection is to this host: its address, or exactly its name.  What its first bytes
    say does not change where it goes. -/
def Conn.destIs (host : String) : Prop :=
  match IpAddr.parse host with
  | some ip => c.dest = .addr ip
  | none => c.dest = .name host

/-- The connection asks for this host, by name or by one of the addresses it resolves to. -/
def Conn.asksFor (host : String) : Prop :=
  match IpAddr.parse host with
  | some ip => ip ∈ c.allAddresses
  | none => c.requested = some host

/-- Why a relay may send a connection to `direct`. -/
inductive RelayAllows : Prop
  | target (t : RelayTarget) (declared : t ∈ d.relayTargets)
      (onReality : c.inbound = REALITY_INBOUND) (tcp : c.network = .tcp)
      (port : c.port = t.port) (host : c.destIs t.host)
      (customer : ¬ c.ownedBy users now CompatUser.isReservedProbe)
  | loopback (probe : c.ownedBy users now CompatUser.isReservedProbe)
      (onReality : c.inbound = REALITY_INBOUND) (tcp : c.network = .tcp)
      (port : c.port = d.subscription.listenPort)
      (host : c.literal = some (.v4 0x7f000001))
  | probe (probe : c.ownedBy users now CompatUser.isReservedProbe) (tcp : c.network = .tcp)
      (port : c.port = PROBE_ALLOWED_PORT)
      (host : (∃ a, c.literal = some a ∧ inCidrs PROBE_ALLOWED_IP_CIDRS [a] = true) ∨
        ∃ n ∈ PROBE_ALLOWED_DOMAINS, c.requested = some n)
  | hairpin (owner : c.ownedBy users now CompatUser.googleEgressHairpin)
      (onReality : c.inbound = REALITY_INBOUND)
      (google : ∃ n, (c.requested = some n ∨ c.sniff [] = some n) ∧
        underSuffix GOOGLE_EGRESS_DOMAINS n = true)
  | exitPrincipal (enabled : d.exitPrincipalsEnabled = true)
      (owner : c.ownedBy users now CompatUser.exitPrincipal)
      (onReality : c.inbound = REALITY_INBOUND)
      (allowed : ¬ egressDenied d.ownAddresses c)
      (noPeer : ∀ t ∈ d.relayTargets, c.network = .tcp → c.port = t.port → ¬ c.asksFor t.host)

/-- A relay is closed: whatever a connection claims and whoever opens it, it is rejected or
    leaves through `direct` for one of the declared reasons. -/
def RelayClosed (doc : Json) : Prop :=
  ∀ (core : Core) (c : Conn), c.inbound ∈ inboundTags doc →
    decision core doc c = .reject ∨ (decision core doc c = .direct ∧ RelayAllows d users now c)

/-- No two accounts share a principal, and no account carries two of the three flags. -/
structure AccountsApart : Prop where
  distinct : (users.flatMap (·.activePrincipalIds now)).Nodup
  probe : ∀ u ∈ users, u.isReservedProbe = true →
    u.googleEgressHairpin = false ∧ u.exitPrincipal = false
  hairpin : ∀ u ∈ users, u.googleEgressHairpin = true → u.exitPrincipal = false

/-- No account with the flag has a principal at this time. -/
def NoneInForce (flag : CompatUser → Bool) : Prop :=
  ∀ u ∈ users, flag u = true → u.activePrincipalIds now = []

/-- Every declared target is an address, or a name that a hairpin account may go to anyway. -/
def TargetsUnnamed : Prop :=
  ∀ t ∈ d.relayTargets, IpAddr.parse t.host ≠ none ∨ underSuffix GOOGLE_EGRESS_DOMAINS t.host = true

end Allowed

section FailClosed

variable {ext : External} {core : Core} {d : DeploymentConfig} {users : List CompatUser}
  {reality : RealityServerParams} {hysteria : Hysteria2ServerParams} {now : Int} {doc : Json}
  {c : Conn}

@[simp] theorem addresses_start : c.addresses Meta.start = c.literal.toList := by
  simp [Conn.addresses, Meta.start]

@[simp] theorem addresses_metaBehind (ps : List String) :
    c.addresses (metaBehind c ps) = c.literal.toList := by
  unfold metaBehind
  split_ifs <;> simp [Conn.addresses, Meta.start, Meta.sniff]

theorem dest_of_literal {a : IpAddr} : c.literal = some a ↔ c.dest = .addr a := by
  unfold Conn.literal
  cases c.dest <;> simp

theorem dest_of_requested {n : String} : c.requested = some n ↔ c.dest = .name n := by
  unfold Conn.requested
  cases c.dest <;> simp

theorem requested_of_hosts {n : String} (h : n ∈ c.hosts core Meta.start) :
    c.requested = some n := by
  simpa [Conn.hosts, Meta.start, core.hosts_requested] using h

/-- Without sniffing and resolving, the rules see the destination and nothing else. -/
theorem destIs_of_namesHost {host : String} (h : namesHost core c Meta.start host) :
    c.destIs host := by
  unfold namesHost at h
  unfold Conn.destIs
  cases hp : IpAddr.parse host with
  | some ip =>
    rw [hp] at h
    exact dest_of_literal.mp (by simpa using h)
  | none =>
    rw [hp] at h
    exact dest_of_requested.mp (requested_of_hosts h)

theorem noneInForce_iff {flag : CompatUser → Bool} :
    NoneInForce users now flag ↔ principalsOf flag users now = [] := by
  rw [List.eq_nil_iff_forall_not_mem]
  constructor
  · intro h p hp
    obtain ⟨u, hu, hflag, hmem⟩ := mem_principalsOf.mp hp
    rw [h u hu hflag] at hmem
    cases hmem
  · intro h u hu hflag
    rw [List.eq_nil_iff_forall_not_mem]
    exact fun p hp => h p (mem_principalsOf.mpr ⟨u, hu, hflag, hp⟩)

section Apart
variable (hapart : AccountsApart users now)
include hapart

theorem AccountsApart.owner_unique {u v : CompatUser} (hu : u ∈ users) (hv : v ∈ users)
    {p : String} (hpu : p ∈ u.activePrincipalIds now) (hpv : p ∈ v.activePrincipalIds now) :
    u = v := by
  have hpairs := (List.nodup_flatMap.mp hapart.distinct).2
  have hsame : ∀ ⦃u⦄, u ∈ users → ∀ ⦃v⦄, v ∈ users → p ∈ u.activePrincipalIds now →
      p ∈ v.activePrincipalIds now → u = v :=
    List.Pairwise.forall_of_forall_of_flip (fun _ _ _ _ => rfl)
      (hpairs.imp fun hdisjoint hpu hpv => (hdisjoint hpu hpv).elim)
      (hpairs.imp fun hdisjoint hpu hpv => (hdisjoint hpv hpu).elim)
  exact hsame hu hv hpu hpv

theorem AccountsApart.hairpin_apart {p : String} (h : p ∈ hairpinPrincipals users now) :
    p ∉ probeIds users now ∧ p ∉ exitPrincipalIds d users now := by
  obtain ⟨u, hu, hhair, hpu⟩ := mem_principalsOf.mp h
  constructor
  · intro hprobe
    obtain ⟨v, hv, hflag, hpv⟩ := mem_principalsOf.mp hprobe
    cases hapart.owner_unique hu hv hpu hpv
    rw [(hapart.probe u hu hflag).1] at hhair
    cases hhair
  · intro hexit
    unfold exitPrincipalIds at hexit
    split at hexit
    · cases hexit
    · obtain ⟨v, hv, hflag, hpv⟩ := mem_principalsOf.mp hexit
      cases hapart.owner_unique hu hv hpu hpv
      simp [hhair] at hflag

end Apart

theorem allows_of_hairpinHit (h : hairpinHit core c (hairpinPrincipals users now)) :
    RelayAllows d users now c := by
  obtain ⟨⟨hin, hu⟩, n, hn, hgoogle⟩ := h
  have hnamed := core.hosts_sub _ _ _ hn
  simp only [Meta.sniff, Meta.start, Option.none_or] at hnamed
  exact .hairpin (mem_principalsOf.mp hu) hin ⟨n, hnamed, hgoogle⟩

theorem allows_of_exitVerdict (hs : exitScoped d users now c)
    (h : exitVerdict core d c Meta.start = .direct) : RelayAllows d users now c := by
  have hrej : ¬ exitRejected core d c Meta.start := by
    intro hr
    rw [exitVerdict, if_pos hr] at h
    cases h
  obtain ⟨hin, hu⟩ := hs
  have henabled : d.exitPrincipalsEnabled = true := by
    by_contra he
    simp [exitPrincipalIds, he] at hu
  have howner : c.ownedBy users now CompatUser.exitPrincipal := by
    simp only [exitPrincipalIds, henabled] at hu
    obtain ⟨u, hmem, hflag, hp⟩ := mem_principalsOf.mp hu
    simp only [Bool.and_eq_true] at hflag
    exact ⟨u, hmem, hflag.1.1, hp⟩
  refine .exitPrincipal henabled howner hin (fun hd => hrej (.inl hd)) ?_
  intro t ht htcp hport hask
  refine hrej (.inr ⟨htcp, t, ht, hport, ?_⟩)
  unfold Conn.asksFor at hask
  unfold namesHost
  cases hp : IpAddr.parse t.host with
  | some ip =>
    rw [hp] at hask
    simpa [Conn.addresses, Conn.allAddresses] using hask
  | none =>
    rw [hp] at hask
    simp [Conn.hosts, Meta.start, core.hosts_requested, show c.requested = some t.host from hask]

theorem loopback_literal (h : inCidrs ["127.0.0.1/32"] (c.addresses Meta.start) = true) :
    c.literal = some (.v4 0x7f000001) := by
  -- a block of one address, so containment is equality
  have htext : ["127.0.0.1/32"] = [IpAddr.v4 0x7f000001].map Cidr.hostText := by decide
  rw [htext, inCidrs_hosts, addresses_start] at h
  obtain ⟨a, ha, hown⟩ := h
  rw [List.mem_singleton.mp hown] at ha
  simpa using ha

theorem allows_of_probePolicy (hu : c.user ∈ probeIds users now)
    (hhair : c.user ∉ hairpinPrincipals users now)
    (h : probePolicy core d users now c = .direct) : RelayAllows d users now c := by
  have howner : c.ownedBy users now CompatUser.isReservedProbe := mem_principalsOf.mp hu
  have hearly : c.user ∉ earlyHairpins users now := fun he =>
    hhair ((List.takeWhile_prefix _).subset he)
  unfold probePolicy at h
  rw [metaBehind_of_not_mem hearly] at h
  split_ifs at h with hloop hhit hexit hallow
  · exact .loopback howner hloop.1 hloop.2.1 hloop.2.2.1 (loopback_literal hloop.2.2.2)
  · exact absurd hhit (not_hairpinHit_of_not_mem hearly)
  · exact allows_of_exitVerdict hexit.2 h
  · obtain ⟨htcp, hport, hdest⟩ := hallow
    refine .probe howner htcp hport ?_
    rcases hdest with hip | ⟨n, hn, hdom⟩
    · rw [addresses_start] at hip
      obtain ⟨a, ha, hcidr⟩ := inCidrs_iff.mp hip
      exact .inl ⟨a, by simpa using ha, inCidrs_iff.mpr ⟨a, by simp, hcidr⟩⟩
    · exact .inr ⟨n, hdom, requested_of_hosts hn⟩

/-- Behind the hairpin rules a target that is an address is seen as such, and one with a
    Google name has been sent to `direct` before. -/
theorem destIs_behind {t : RelayTarget} (hin : c.inbound = REALITY_INBOUND)
    (hcond : c.user ∉ hairpinPrincipals users now ∨ IpAddr.parse t.host ≠ none ∨
      underSuffix GOOGLE_EGRESS_DOMAINS t.host = true)
    (hmiss : ¬ hairpinHit core c (hairpinPrincipals users now))
    (h : namesHost core c (metaBehind c (hairpinPrincipals users now)) t.host) :
    c.destIs t.host := by
  by_cases hu : c.user ∈ hairpinPrincipals users now
  · cases hp : IpAddr.parse t.host with
    | some ip =>
      rw [namesHost, hp] at h
      rw [Conn.destIs, hp]
      exact dest_of_literal.mp (by simpa using h)
    | none =>
      have hgoogle := (hcond.resolve_left (not_not_intro hu)).resolve_left (not_not_intro hp)
      rw [namesHost, hp, metaBehind, if_pos ⟨hin, hu⟩] at h
      exact absurd ⟨⟨hin, hu⟩, t.host, h, hgoogle⟩ hmiss
  · rw [metaBehind_of_not_mem hu] at h
    exact destIs_of_namesHost h

theorem allows_of_customerPolicy (hapart : AccountsApart users now)
    (hcond : NoneInForce users now CompatUser.googleEgressHairpin ∨ TargetsUnnamed d)
    (hu : c.user ∉ probeIds users now)
    (h : customerPolicy core d users now c = .direct) : RelayAllows d users now c := by
  unfold customerPolicy at h
  split_ifs at h with hhit hexit htarget
  · exact allows_of_hairpinHit hhit
  · -- an exit principal is no hairpin principal, so nothing was sniffed from it
    have hhair : c.user ∉ hairpinPrincipals users now := fun hp =>
      (hapart.hairpin_apart hp).2 hexit.2
    rw [metaBehind_of_not_mem hhair] at h
    exact allows_of_exitVerdict hexit h
  · obtain ⟨hin, htcp, t, ht, hport, hhost⟩ := htarget
    refine .target t ht hin htcp hport (destIs_behind hin ?_ hhit hhost)
      fun hprobe => hu (mem_principalsOf.mpr hprobe)
    rcases hcond with hnone | htargets
    · rw [noneInForce_iff] at hnone
      exact .inl (by rw [hairpinPrincipals, hnone]; exact List.not_mem_nil)
    · exact .inr (htargets t ht)

/-! #### A relay with a hairpin account -/

/-- A text without a dot that is longer than each of these. -/
def freshText (ts : List String) : String :=
  String.ofList (List.replicate ((ts.map fun t => t.toList.length).sum + 1) 'a')

theorem freshText_ne {ts : List String} {t : String} (h : t ∈ ts) : freshText ts ≠ t := by
  intro heq
  have hle := List.le_sum_of_mem
    (List.mem_map_of_mem (f := fun t : String => t.toList.length) h)
  rw [← heq, freshText] at hle
  simp at hle

theorem underSuffix_freshText {ts v : List String} (h : v ⊆ ts) :
    underSuffix v (freshText ts) = false := by
  rw [underSuffix, List.any_eq_false]
  intro t ht
  have hne : (freshText ts == t) = false := beq_false_of_ne (freshText_ne (h ht))
  rw [hne, Bool.false_or, Text.endsWith, Bool.not_eq_true, Bool.eq_false_iff]
  intro hsuffix
  -- the suffix starts with a dot
  have hdot : '.' ∈ (freshText ts).toList :=
    (List.isSuffixOf_iff_suffix.mp hsuffix).subset (by simp)
  rw [freshText, String.toList_ofList] at hdot
  exact absurd (List.eq_of_mem_replicate hdot) (by decide)

/-- A name that is neither Google's nor that of a target. -/
def undeclared (d : DeploymentConfig) : String :=
  freshText (d.relayTargets.map (·.host) ++ GOOGLE_EGRESS_DOMAINS)

/-- A connection elsewhere whose first bytes carry the name of a target. -/
def misnamedConn (p : String) (dest : Dest) (t : RelayTarget) : Conn where
  inbound := REALITY_INBOUND
  user := p
  network := .tcp
  dest := dest
  port := t.port
  resolved := []
  sniff := fun _ => some t.host

theorem misnamed_reaches {p : String} {t : RelayTarget} (dest : Dest)
    (hapart : AccountsApart users now) (hp : p ∈ hairpinPrincipals users now)
    (ht : t ∈ d.relayTargets) (hname : IpAddr.parse t.host = none)
    (hgoogle : underSuffix GOOGLE_EGRESS_DOMAINS t.host = false) :
    relayPolicy sampleCore d users now (misnamedConn p dest t) = .direct := by
  obtain ⟨hprobe, hexit⟩ := hapart.hairpin_apart (d := d) hp
  have hscope : (misnamedConn p dest t).inbound = REALITY_INBOUND ∧
      (misnamedConn p dest t).user ∈ hairpinPrincipals users now := ⟨rfl, hp⟩
  have hmiss : ¬ hairpinHit sampleCore (misnamedConn p dest t) (hairpinPrincipals users now) := by
    rintro ⟨-, n, hn, hn'⟩
    obtain rfl : n = t.host := List.mem_singleton.mp hn
    rw [hgoogle] at hn'
    cases hn'
  have hhit : hitsTarget sampleCore (misnamedConn p dest t)
      (metaBehind (misnamedConn p dest t) (hairpinPrincipals users now)) d.relayTargets := by
    refine ⟨rfl, t, ht, rfl, ?_⟩
    rw [namesHost, hname, metaBehind, if_pos hscope]
    exact List.mem_singleton.mpr rfl
  rw [relayPolicy, if_neg (show (misnamedConn p dest t).user ∉ _ from hprobe), customerPolicy,
    if_neg hmiss, if_neg fun h => hexit h.2, if_pos ⟨rfl, hhit⟩]

theorem misnamed_not_allowed {p : String} {dest : Dest} {t : RelayTarget}
    (hapart : AccountsApart users now) (hp : p ∈ hairpinPrincipals users now)
    (hdest : ∀ t' ∈ d.relayTargets, ¬ (misnamedConn p dest t).destIs t'.host)
    (hgoogle : ∀ n, (misnamedConn p dest t).requested = some n ∨ n = t.host →
      underSuffix GOOGLE_EGRESS_DOMAINS n = false) :
    ¬ RelayAllows d users now (misnamedConn p dest t) := by
  obtain ⟨u, hu, hhair, hpu⟩ := mem_principalsOf.mp hp
  -- no other account has this principal, and this one has no other flag
  have hflag : ∀ flag : CompatUser → Bool, flag u = false →
      ¬ (misnamedConn p dest t).ownedBy users now flag := by
    rintro flag hnot ⟨v, hv, hflag, hpv⟩
    cases hapart.owner_unique hu hv hpu hpv
    rw [hnot] at hflag
    cases hflag
  have hprobe : u.isReservedProbe = false := by
    by_contra hprobe
    rw [(hapart.probe u hu (by simpa using hprobe)).1] at hhair
    cases hhair
  rintro (⟨t', ht', -, -, -, hhost, -⟩ | ⟨howner, -⟩ | ⟨howner, -⟩ | ⟨-, -, n, hn, hn'⟩ |
    ⟨-, howner, -⟩)
  · exact hdest t' ht' hhost
  · exact hflag _ hprobe howner
  · exact hflag _ hprobe howner
  · rw [hgoogle n (hn.imp_right fun h => (Option.some.inj h).symm)] at hn'
    cases hn'
  · exact hflag _ (hapart.hairpin u hu hhair) howner

/-- A relay forwards to its declared exits and nowhere else exactly while no hairpin account
    is in force, or no target has a name of its own.  The rules of a hairpin account sniff, and
    the name found in a connection's first bytes then counts as its destination for the
    rules of the targets as well. -/
theorem relay_fail_closed_iff (hrole : d.role = .relay)
    (h : renderServerConfigForDeployment ext d users reality hysteria now = .ok doc)
    (hapart : AccountsApart users now) :
    RelayClosed d users now doc ↔
      NoneInForce users now CompatUser.googleEgressHairpin ∨ TargetsUnnamed d := by
  have htags := relay_inboundTags hrole h
  constructor
  · intro hclosed
    by_contra hcond
    rw [not_or, noneInForce_iff] at hcond
    obtain ⟨p, hp⟩ := List.exists_mem_of_ne_nil _ hcond.1
    simp only [TargetsUnnamed, not_forall, not_or, not_not, Bool.not_eq_true] at hcond
    obtain ⟨-, t, ht, hname, hgoogle⟩ := hcond
    have hin : (misnamedConn p (.name (undeclared d)) t).inbound ∈ INBOUND_TAGS :=
      List.mem_cons_self
    have hdirect := misnamed_reaches (.name (undeclared d)) hapart hp ht hname hgoogle
    rw [← relay_decision hrole h hin] at hdirect
    rcases hclosed sampleCore _ (by rw [htags]; exact hin) with hreject | ⟨-, hallows⟩
    · rw [hdirect] at hreject
      cases hreject
    · refine misnamed_not_allowed hapart hp ?_ ?_ hallows
      · intro t' ht' hdest
        unfold Conn.destIs at hdest
        split at hdest
        · cases hdest
        · exact freshText_ne (List.mem_append_left _ (List.mem_map_of_mem ht'))
            (Dest.name.inj hdest)
      · rintro n (hn | rfl)
        · rw [← Option.some.inj hn]
          exact underSuffix_freshText (List.subset_append_right ..)
        · exact hgoogle
  · intro hcond core c hin
    rw [htags] at hin
    rw [relay_decision hrole h hin]
    rcases @relayPolicy_direct_or_reject core d users now c with hdirect | hreject
    · refine .inr ⟨hdirect, ?_⟩
      unfold relayPolicy at hdirect
      split_ifs at hdirect with hu
      · exact allows_of_probePolicy hu (fun hp => (hapart.hairpin_apart (d := d) hp).1 hu) hdirect
      · exact allows_of_customerPolicy hapart hcond hu hdirect
    · exact .inl hreject

/-- With one account that has no flag, the declared exit is forwarded and nothing else. -/
theorem relay_fail_closed_plain :
    ∃ doc, renderServerConfigForDeployment sampleExternal sampleRelay [sampleUser]
        sampleReality sampleHysteria 0 = .ok doc ∧
      decision sampleCore doc sampleConn = .direct ∧
      RelayClosed sampleRelay [sampleUser] 0 doc := by
  obtain ⟨doc, hdoc⟩ := sampleRelay_renders [sampleUser] 0 rfl
  have hapart : AccountsApart [sampleUser] 0 := ⟨by decide, by decide, by decide⟩
  have hnone : ∀ u ∈ [sampleUser], u.googleEgressHairpin = true → u.activePrincipalIds 0 = [] := by
    decide
  refine ⟨doc, hdoc, ?_, (relay_fail_closed_iff rfl hdoc hapart).mpr (.inl hnone)⟩
  rw [relay_decision rfl hdoc (by decide)]
  decide

/-- A hairpin account reaches 10.0.0.1 by naming the declared exit in its first bytes. -/
theorem relay_hairpin_forwards_misnamed :
    ∃ doc, renderServerConfigForDeployment sampleExternal sampleRelay
        [{ sampleUser with googleEgressHairpin := true }] sampleReality sampleHysteria 0 =
          .ok doc ∧
      AccountsApart [{ sampleUser with googleEgressHairpin := true }] 0 ∧
      decision sampleCore doc (misnamedConn "user_1" (.addr (.v4 0x0a000001))
        ⟨"exit.example.net", 443⟩) = .direct ∧
      ¬ RelayAllows sampleRelay [{ sampleUser with googleEgressHairpin := true }] 0
        (misnamedConn "user_1" (.addr (.v4 0x0a000001)) ⟨"exit.example.net", 443⟩) ∧
      ¬ RelayClosed sampleRelay [{ sampleUser with googleEgressHairpin := true }] 0 doc := by
  obtain ⟨doc, hdoc⟩ :=
    sampleRelay_renders [{ sampleUser with googleEgressHairpin := true }] 0 rfl
  have hapart : AccountsApart [{ sampleUser with googleEgressHairpin := true }] 0 :=
    ⟨by decide, by decide, by decide⟩
  have hp : "user_1" ∈ hairpinPrincipals [{ sampleUser with googleEgressHairpin := true }] 0 := by
    decide
  have hin : (misnamedConn "user_1" (.addr (.v4 0x0a000001)) ⟨"exit.example.net", 443⟩).inbound ∈
      inboundTags doc := by
    rw [relay_inboundTags rfl hdoc]
    exact List.mem_cons_self
  have hdirect : decision sampleCore doc (misnamedConn "user_1" (.addr (.v4 0x0a000001))
      ⟨"exit.example.net", 443⟩) = .direct := by
    rw [relay_decision rfl hdoc (by decide)]
    decide
  have hnot : ¬ RelayAllows sampleRelay [{ sampleUser with googleEgressHairpin := true }] 0
      (misnamedConn "user_1" (.addr (.v4 0x0a000001)) ⟨"exit.example.net", 443⟩) := by
    refine misnamed_not_allowed hapart hp ?_ ?_
    · rw [sampleRelay_targets]
      intro t ht hdest
      rw [List.mem_singleton.mp ht] at hdest
      cases hdest
    · rintro n (hn | rfl)
      · cases hn
      · decide
  refine ⟨doc, hdoc, hapart, hdirect, hnot, fun hclosed => ?_⟩
  rcases hclosed sampleCore _ hin with hreject | ⟨-, hallows⟩
  · rw [hdirect] at hreject
    cases hreject
  · exact hnot hallows

end FailClosed

end SingboxVpn
