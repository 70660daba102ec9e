import SingboxVpn.Core

namespace SingboxVpn

open Json (object strs lastWins)
open FirstMatch (Outcome eval eval_cons_pass eval_cons_guard eval_append_pass)

/-!
# What each block of rules does

One exact evaluation lemma for every block of rules that `Server.Rules` builds: for which
connections the block decides, with which decision, and what it passes on otherwise.  Every
policy theorem about a rendered document is derived from these.

* `eval_c16Rules` — the rejects of an exit, after its `resolve`.
* `eval_probeRules`, `act_relayLoopback`, `act_exitLoopback` — the reserved probe.
* `eval_hairpinBlocks` — the hairpin principals of a relay.
* `eval_exitPrincipalRules` — the exit principals of a relay.
* `eval_targetRules`, `act_rejectAll` — the rest of a relay.
* `eval_exitEgressRules_of_allow` — the egress policy of an exit.
-/

/-! ### Conditions on connections -/

def Conn.allAddresses (c : Conn) : List IpAddr := c.literal.toList ++ c.resolved

def c16Denied (a : IpAddr) : Bool :=
  C16_DENY_IPV4_CIDRS.any (Cidr.textContains · a) ||
    C16_DENY_IPV6_CIDRS.any (Cidr.textContains · a)

/-- A connection that every exit rejects: into a denied range, to one of the node's own
    addresses, or to the SMTP port. -/
def egressDenied (own : List IpAddr) (c : Conn) : Prop :=
  (∃ a ∈ c.allAddresses, c16Denied a = true ∨ a ∈ own) ∨
    (c.network = .tcp ∧ c.port = C16_DENY_TCP_PORT)

instance (own : List IpAddr) (c : Conn) : Decidable (egressDenied own c) :=
  inferInstanceAs (Decidable (_ ∨ _))

def googleNamed (core : Core) (c : Conn) (m : Meta) : Prop :=
  ∃ n ∈ c.hosts core m, underSuffix GOOGLE_EGRESS_DOMAINS n = true

instance (core : Core) (c : Conn) (m : Meta) : Decidable (googleNamed core c m) :=
  inferInstanceAs (Decidable (∃ n ∈ _, _))

/-- The connection names a target's host: its address, or exactly its name. -/
def namesHost (core : Core) (c : Conn) (m : Meta) (host : String) : Prop :=
  match IpAddr.parse host with
  | some ip => ip ∈ c.addresses m
  | none => host ∈ c.hosts core m

instance (core : Core) (c : Conn) (m : Meta) (host : String) :
    Decidable (namesHost core c m host) :=
  match h : IpAddr.parse host with
  | some ip => decidable_of_iff (ip ∈ c.addresses m) (by simp [namesHost, h])
  | none => decidable_of_iff (host ∈ c.hosts core m) (by simp [namesHost, h])

def hitsTarget (core : Core) (c : Conn) (m : Meta) (targets : List RelayTarget) : Prop :=
  c.network = .tcp ∧ ∃ t ∈ targets, c.port = t.port ∧ namesHost core c m t.host

instance (core : Core) (c : Conn) (m : Meta) (targets : List RelayTarget) :
    Decidable (hitsTarget core c m targets) :=
  inferInstanceAs (Decidable (_ ∧ ∃ t ∈ _, _))

@[simp] theorem network_tcp (n : Network) : n.asStr = "tcp" ↔ n = .tcp := by
  cases n <;> simp [Network.asStr]

@[simp] theorem addresses_resolved (c : Conn) (s : Option String) :
    c.addresses ⟨s, true⟩ = c.allAddresses := rfl

theorem inCidrs_iff {cidrs : List String} {as : List IpAddr} :
    inCidrs cidrs as = true ↔ ∃ a ∈ as, cidrs.any (Cidr.textContains · a) = true := by
  simp only [inCidrs, List.any_eq_true]
  constructor
  · rintro ⟨t, ht, a, ha, h⟩
    exact ⟨a, ha, t, ht, h⟩
  · rintro ⟨a, ha, t, ht, h⟩
    exact ⟨t, ht, a, ha, h⟩

theorem inCidrs_hosts (own as : List IpAddr) :
    inCidrs (own.map Cidr.hostText) as = true ↔ ∃ a ∈ as, a ∈ own := by
  simp [inCidrs_iff]

theorem targetItem_key (host : String) :
    (targetItem host).1 = "ip_cidr" ∨ (targetItem host).1 = "domain" := by
  unfold targetItem
  cases IpAddr.parse host <;> simp

theorem itemMatches_target {core : Core} {c : Conn} {m : Meta} (host : String) :
    itemMatches core c m (targetItem host).1 (targetItem host).2 = true ↔
      namesHost core c m host := by
  unfold targetItem namesHost
  cases IpAddr.parse host with
  | some ip =>
    have := inCidrs_hosts [ip] (c.addresses m)
    simpa using this
  | none => simp

/-! ### The rejects of an exit -/

section Deny

variable {core : Core} {c : Conn}

variable {m : Meta} {ins : List String} {v4 v6 : Option String}

theorem act_denyCidrs {cidrs : List String} (hin : c.inbound ∈ ins) :
    act core c m (object [("inbound", strs ins), ("ip_cidr", strs cidrs),
        ("action", .str "reject"), ("method", .str "default")]) =
      if inCidrs cidrs (c.addresses m) = true then .stop .reject else .pass m := by
  rw [act_reject (by simp [ruleAction_object, Json.lookup_cons_ite])]
  simp [ruleMatches_object, lastWins, hin]

theorem act_denySmtp (hin : c.inbound ∈ ins) :
    act core c m (object [("inbound", strs ins), ("network", .str "tcp"),
        ("port", .num C16_DENY_TCP_PORT), ("action", .str "reject"),
        ("method", .str "default")]) =
      if c.network = .tcp ∧ c.port = C16_DENY_TCP_PORT then .stop .reject else .pass m := by
  rw [act_reject (by simp [ruleAction_object, Json.lookup_cons_ite])]
  simp [ruleMatches_object, lastWins, hin]

theorem act_resolveAll (hin : c.inbound ∈ ins) :
    act core c m (object [("inbound", strs ins), ("action", .str "resolve")]) =
      .pass { m with resolved := true } := by
  rw [act_resolve (by simp [ruleAction_object])]
  simp [ruleMatches_object, lastWins, hin]

theorem eval_ownAddressDeny {host : Option String} (hin : c.inbound ∈ ins) :
    eval (act core c) m (ownAddressDenyRule ins host v4 v6).toList =
      if ∃ a ∈ c.addresses m, a ∈ ownAddresses host v4 v6 then .stop .reject else .pass m := by
  unfold ownAddressDenyRule
  by_cases hown : ownAddresses host v4 v6 = []
  · simp [hown]
  · have hne : (ownAddresses host v4 v6).isEmpty = false := by simpa using hown
    simp only [hne, Bool.false_eq_true, if_false, Option.toList_some,
      eval_cons_guard _ (act_denyCidrs hin), inCidrs_hosts, FirstMatch.eval_nil]

theorem egressDenied_iff {own : List IpAddr} :
    egressDenied own c ↔
      inCidrs C16_DENY_IPV4_CIDRS c.allAddresses = true ∨
      inCidrs C16_DENY_IPV6_CIDRS c.allAddresses = true ∨
      (c.network = .tcp ∧ c.port = C16_DENY_TCP_PORT) ∨
      ∃ a ∈ c.allAddresses, a ∈ own := by
  simp only [egressDenied, c16Denied, inCidrs_iff, Bool.or_eq_true]
  constructor
  · rintro (⟨a, ha, (hd | hd) | ho⟩ | h)
    · exact .inl ⟨a, ha, hd⟩
    · exact .inr (.inl ⟨a, ha, hd⟩)
    · exact .inr (.inr (.inr ⟨a, ha, ho⟩))
    · exact .inr (.inr (.inl h))
  · rintro (⟨a, ha, hd⟩ | ⟨a, ha, hd⟩ | h | ⟨a, ha, ho⟩)
    · exact .inl ⟨a, ha, .inl (.inl hd)⟩
    · exact .inl ⟨a, ha, .inl (.inr hd)⟩
    · exact .inr h
    · exact .inl ⟨a, ha, .inr ho⟩

theorem eval_c16Rules {host : Option String} (hin : c.inbound ∈ ins) :
    eval (act core c) m
        (c16EgressDenyRules ins ++ (ownAddressDenyRule ins host v4 v6).toList) =
      if egressDenied (ownAddresses host v4 v6) c then .stop .reject
      else .pass { m with resolved := true } := by
  simp only [c16EgressDenyRules, List.cons_append, List.nil_append]
  -- rule by rule: each reject is a guard for the rest of the list
  rw [eval_cons_pass _ (act_resolveAll hin), eval_cons_guard _ (act_denyCidrs hin),
    eval_cons_guard _ (act_denyCidrs hin), eval_cons_guard _ (act_denySmtp hin),
    eval_ownAddressDeny hin]
  simp only [addresses_resolved, if_congr egressDenied_iff rfl rfl, ite_or]
  congr

end Deny

/-! ### Reserved probes -/

section Probe

variable {core : Core} {c : Conn} {m : Meta}

/-- What the reserved probe may reach through the tunnel. -/
def probeAllowed (core : Core) (c : Conn) (m : Meta) : Prop :=
  c.network = .tcp ∧ c.port = PROBE_ALLOWED_PORT ∧
    (inCidrs PROBE_ALLOWED_IP_CIDRS (c.addresses m) = true ∨
      ∃ n ∈ c.hosts core m, n ∈ PROBE_ALLOWED_DOMAINS)

instance : Decidable (probeAllowed core c m) := inferInstanceAs (Decidable (_ ∧ _ ∧ (_ ∨ _)))

def loopbackSelftest (d : DeploymentConfig) (c : Conn) (m : Meta) : Prop :=
  c.network = .tcp ∧ c.port = d.subscription.listenPort ∧
    inCidrs ["127.0.0.1/32"] (c.addresses m) = true

instance (d : DeploymentConfig) : Decidable (loopbackSelftest d c m) :=
  inferInstanceAs (Decidable (_ ∧ _ ∧ _))

theorem eval_probeRules (ids : List String) :
    eval (act core c) m (probeConfinementRules ids) =
      if c.user ∈ ids then .stop (if probeAllowed core c m then .direct else .reject)
      else .pass m := by
  have hcidr : act core c m (object [("auth_user", strs ids), ("network", .str "tcp"),
      ("port", .num PROBE_ALLOWED_PORT), ("ip_cidr", strs PROBE_ALLOWED_IP_CIDRS),
      ("action", .str "route"), ("outbound", .str "direct")]) =
      if c.user ∈ ids ∧ c.network = .tcp ∧ c.port = PROBE_ALLOWED_PORT ∧
        inCidrs PROBE_ALLOWED_IP_CIDRS (c.addresses m) = true
      then .stop .direct else .pass m := by
    rw [act_direct (by simp [ruleAction_object, Json.lookup_cons_ite])
      (by simp [ruleOutbound_object])]
    simp [ruleMatches_object, lastWins]
  have hname : act core c m (object [("auth_user", strs ids), ("network", .str "tcp"),
      ("port", .num PROBE_ALLOWED_PORT), ("domain", strs PROBE_ALLOWED_DOMAINS),
      ("action", .str "route"), ("outbound", .str "direct")]) =
      if c.user ∈ ids ∧ c.network = .tcp ∧ c.port = PROBE_ALLOWED_PORT ∧
        ∃ n ∈ c.hosts core m, n ∈ PROBE_ALLOWED_DOMAINS
      then .stop .direct else .pass m := by
    rw [act_direct (by simp [ruleAction_object, Json.lookup_cons_ite])
      (by simp [ruleOutbound_object])]
    simp [ruleMatches_object, lastWins]
  have hrest : act core c m (object [("auth_user", strs ids), ("action", .str "reject"),
      ("method", .str "default")]) = if c.user ∈ ids then .stop .reject else .pass m := by
    rw [act_reject (by simp [ruleAction_object, Json.lookup_cons_ite])]
    simp [ruleMatches_object, lastWins]
  unfold probeConfinementRules
  rw [eval_cons_guard _ hcidr, eval_cons_guard _ hname, eval_cons_guard _ hrest,
    FirstMatch.eval_nil]
  -- for a probe principal the last rule always decides, for others none matches
  by_cases hu : c.user ∈ ids
  · by_cases ha : probeAllowed core c m
    · obtain ⟨ht, hp, hip | hn⟩ := ha
      · rw [if_pos ⟨hu, ht, hp, hip⟩, if_pos hu, if_pos ⟨ht, hp, .inl hip⟩]
      · rw [if_pos (c := _ ∧ _ ∧ _ ∧ ∃ n ∈ _, _) ⟨hu, ht, hp, hn⟩, ite_self, if_pos hu,
          if_pos ⟨ht, hp, .inr hn⟩]
    · rw [if_neg fun h => ha ⟨h.2.1, h.2.2.1, .inl h.2.2.2⟩,
        if_neg fun h => ha ⟨h.2.1, h.2.2.1, .inr h.2.2.2⟩, if_pos hu, if_pos hu, if_neg ha]
  · simp [hu]

theorem act_relayLoopback (d : DeploymentConfig) (ids : List String) :
    act core c m (relayLoopbackRule d ids) =
      if (c.inbound = REALITY_INBOUND ∧ c.user ∈ ids) ∧ loopbackSelftest d c m
      then .stop .direct else .pass m := by
  unfold relayLoopbackRule loopbackSelftest
  rw [act_direct (by simp [ruleAction_object, Json.lookup_cons_ite])
    (by simp [ruleOutbound_object])]
  simp only [ruleMatches_object, lastWins]
  congr 1
  simp
  tauto

theorem act_exitLoopback (d : DeploymentConfig) (ids : List String) :
    act core c m (exitLoopbackRule d ids) =
      if c.user ∈ ids ∧ loopbackSelftest d c m then .stop .direct else .pass m := by
  unfold exitLoopbackRule loopbackSelftest
  rw [act_direct (by simp [ruleAction_object, Json.lookup_cons_ite])
    (by simp [ruleOutbound_object])]
  simp only [ruleMatches_object, lastWins]
  congr 1
  simp
  tauto

end Probe

/-! ### Relays: hairpin principals, targets and the final reject -/

section Relay

variable {core : Core} {c : Conn} {m : Meta}

def Meta.sniff (m : Meta) (c : Conn) : Meta := { m with sniffed := m.sniffed.or (c.sniff []) }

@[simp] theorem Meta.sniff_sniff (m : Meta) (c : Conn) : (m.sniff c).sniff c = m.sniff c := by
  cases hm : m.sniffed <;> cases hs : c.sniff [] <;> simp [Meta.sniff, hm, hs]

theorem eval_hairpinRules (d : DeploymentConfig) (p : String) :
    eval (act core c) m (hairpinRules d p) =
      if c.inbound = REALITY_INBOUND ∧ c.user = p then
        (if googleNamed core c (m.sniff c) then .stop .direct else .pass (m.sniff c))
      else .pass m := by
  have hsniff : act core c m (object [("inbound", strs [REALITY_INBOUND]),
      ("auth_user", strs [p]), ("action", .str "sniff")]) =
      .pass (if c.inbound = REALITY_INBOUND ∧ c.user = p then m.sniff c else m) := by
    rw [act_sniff (by simp [ruleAction_object])]
    simp [ruleMatches_object, lastWins, Json.idx_object, Json.lookup_cons_ite, Meta.sniff]
  -- the spoof rule sets an option and lets the connection pass
  have hspoof : ∀ m' : Meta, eval (act core c) m' (hairpinSpoofRules d p) = .pass m' := by
    intro m'
    unfold hairpinSpoofRules
    cases d.googleEgressTlsSpoof with
    | none => rfl
    | some spoof =>
      refine eval_cons_pass [] (act_options ?_)
      simp [ruleAction_object, Json.lookup_cons_ite]
  have hroute : ∀ m' : Meta, act core c m' (object [("inbound", strs [REALITY_INBOUND]),
      ("auth_user", strs [p]), ("domain_suffix", strs GOOGLE_EGRESS_DOMAINS),
      ("action", .str "route"), ("outbound", .str "direct")]) =
      if c.inbound = REALITY_INBOUND ∧ c.user = p ∧ googleNamed core c m'
      then .stop .direct else .pass m' := by
    intro m'
    rw [act_direct (by simp [ruleAction_object, Json.lookup_cons_ite])
      (by simp [ruleOutbound_object])]
    exact if_congr (by simp [ruleMatches_object, lastWins, googleNamed]) rfl rfl
  unfold hairpinRules
  rw [List.append_assoc, List.singleton_append, eval_cons_pass _ hsniff,
    eval_append_pass _ (hspoof _), eval_cons_guard _ (hroute _), FirstMatch.eval_nil]
  by_cases hs : c.inbound = REALITY_INBOUND ∧ c.user = p
  · simp [hs]
  · rw [if_neg hs, if_neg hs, if_neg fun h => hs ⟨h.1, h.2.1⟩]

theorem eval_hairpinBlocks (d : DeploymentConfig) (ps : List String) :
    eval (act core c) m (ps.flatMap (hairpinRules d)) =
      if c.inbound = REALITY_INBOUND ∧ c.user ∈ ps then
        (if googleNamed core c (m.sniff c) then .stop .direct else .pass (m.sniff c))
      else .pass m := by
  -- the sniffed name is part of the state, so the state is generalized
  induction ps generalizing m with
  | nil => simp
  | cons p ps ih =>
    rw [List.flatMap_cons, FirstMatch.eval_append, eval_hairpinRules]
    by_cases hp : c.inbound = REALITY_INBOUND ∧ c.user = p
    · have hcons : c.inbound = REALITY_INBOUND ∧ c.user ∈ p :: ps := ⟨hp.1, by simp [hp.2]⟩
      rw [if_pos hp, if_pos hcons]
      by_cases hg : googleNamed core c (m.sniff c)
      · simp only [if_pos hg]
      -- a second block of the same principal sniffs again and finds the same name
      · simp only [if_neg hg, ih, Meta.sniff_sniff, ite_self]
    · rw [if_neg hp]
      simp only [ih]
      have hiff : (c.inbound = REALITY_INBOUND ∧ c.user ∈ p :: ps) ↔
          (c.inbound = REALITY_INBOUND ∧ c.user ∈ ps) := by
        rw [List.mem_cons]
        tauto
      simp only [hiff]

theorem ruleMatches_target {kvs : List (String × Json)} (host : String)
    (hcidr : "ip_cidr" ∉ kvs.map Prod.fst) (hname : "domain" ∉ kvs.map Prod.fst) :
    ruleMatches core c m ((object kvs).set (targetItem host).1 (targetItem host).2) = true ↔
      namesHost core c m host ∧ ruleMatches core c m (object kvs) = true := by
  -- the literal has no field of the target's key, so setting it adds one
  rw [ruleMatches_set, Bool.and_eq_true, itemMatches_target]
  intro p hp hk
  have hmem : (targetItem host).1 ∈ kvs.map Prod.fst := List.mem_map.mpr ⟨p, hp, hk⟩
  rcases targetItem_key host with h | h
  · exact absurd (h ▸ hmem) hcidr
  · exact absurd (h ▸ hmem) hname

theorem act_relayTarget (t : RelayTarget) :
    act core c m (relayTargetRule t) =
      if c.inbound = REALITY_INBOUND ∧ c.network = .tcp ∧ c.port = t.port ∧
        namesHost core c m t.host
      then .stop .direct else .pass m := by
  have hkey := targetItem_key t.host
  unfold relayTargetRule
  rw [act_direct]
  · refine if_congr ?_ rfl rfl
    rw [ruleMatches_target t.host (by simp) (by simp)]
    simp [ruleMatches_object, lastWins]
    tauto
  · rw [ruleAction_set (by rcases hkey with h | h <;> simp [h])]
    simp [ruleAction_object, Json.lookup_cons_ite]
  · rw [ruleOutbound_set (by rcases hkey with h | h <;> simp [h])]
    simp [ruleOutbound_object]

theorem act_peerDeny (t : RelayTarget) :
    act core c m (peerDenyRule t) =
      if c.network = .tcp ∧ c.port = t.port ∧ namesHost core c m t.host
      then .stop .reject else .pass m := by
  have hkey := targetItem_key t.host
  unfold peerDenyRule
  rw [act_reject]
  · refine if_congr ?_ rfl rfl
    rw [ruleMatches_target t.host (by simp) (by simp)]
    simp [ruleMatches_object, lastWins]
    tauto
  · rw [ruleAction_set (by rcases hkey with h | h <;> simp [h])]
    simp [ruleAction_object, Json.lookup_cons_ite]

theorem eval_targetRules (targets : List RelayTarget) :
    eval (act core c) m (targets.map relayTargetRule) =
      if c.inbound = REALITY_INBOUND ∧ hitsTarget core c m targets then .stop .direct
      else .pass m := by
  rw [FirstMatch.eval_map_uniform _ fun t _ => act_relayTarget t]
  refine if_congr ?_ rfl rfl
  constructor
  · rintro ⟨t, ht, hin, htcp, hport, hhost⟩
    exact ⟨hin, htcp, t, ht, hport, hhost⟩
  · rintro ⟨hin, htcp, t, ht, hport, hhost⟩
    exact ⟨t, ht, hin, htcp, hport, hhost⟩

theorem eval_peerDenyRules (targets : List RelayTarget) :
    eval (act core c) m (targets.map peerDenyRule) =
      if hitsTarget core c m targets then .stop .reject else .pass m := by
  rw [FirstMatch.eval_map_uniform _ fun t _ => act_peerDeny t]
  refine if_congr ?_ rfl rfl
  constructor
  · rintro ⟨t, ht, htcp, hport, hhost⟩
    exact ⟨htcp, t, ht, hport, hhost⟩
  · rintro ⟨htcp, t, ht, hport, hhost⟩
    exact ⟨t, ht, htcp, hport, hhost⟩

theorem act_rejectAll {tags : List String} (h : c.inbound ∈ tags) :
    act core c m (rejectAllRule (tags.map Json.str)) = .stop .reject := by
  unfold rejectAllRule
  rw [act_reject (by simp [ruleAction_object, Json.lookup_cons_ite])]
  have htexts : (Json.arr (tags.map Json.str)).texts = tags := Json.texts_strs tags
  simp [ruleMatches_object, lastWins, htexts, h]

end Relay

/-! ### The egress policy of a node that dials out -/

section Egress

variable {core : Core} {c : Conn} {m : Meta}

theorem eval_spoofRules (d : DeploymentConfig) :
    ∃ s, eval (act core c) m (spoofRules d) = .pass ⟨s, m.resolved⟩ := by
  unfold spoofRules
  cases d.googleEgressTlsSpoof with
  | none => exact ⟨m.sniffed, rfl⟩
  | some spoof =>
    have hact : ∀ m' : Meta, act core c m' (object [("domain_suffix", strs GOOGLE_EGRESS_DOMAINS),
        ("network", .str "tcp"), ("port", .num 443), ("protocol", .str "tls"),
        ("action", .str "route-options"), ("tls_spoof", .str spoof.sni),
        ("tls_spoof_method", .str spoof.method.asStr)]) = .pass m' := fun m' =>
      act_options (by simp [ruleAction_object, Json.lookup_cons_ite])
    rw [eval_cons_pass _ (act_sniff (by simp [ruleAction_object, Json.lookup_cons_ite])),
      eval_cons_pass _ (hact _), FirstMatch.eval_nil]
    split
    · exact ⟨_, rfl⟩
    · exact ⟨m.sniffed, rfl⟩

theorem eval_exitEgressRules_of_allow {d : DeploymentConfig} (h : ipv6Policy d false = .allow) :
    ∃ s, eval (act core c) m (exitEgressRules d false) = .pass ⟨s, m.resolved⟩ := by
  have hrules : exitEgressRules d false = spoofRules d := by
    simp [exitEgressRules, h, ipv6SniffRules, ipv6RejectRules]
  rw [hrules]
  exact eval_spoofRules d

end Egress

/-! ### The exit principals of a relay -/

section ExitPrincipals

variable {core : Core} {c : Conn} {m : Meta}

/-- A rule literal that scoping only restricts: it names no principal, and no inbound other
    than the REALITY one. -/
def Scopable (rule : Json) : Prop :=
  ∃ kvs, rule = object kvs ∧
    (∀ p ∈ kvs, p.1 = "inbound" → p.2 = strs [REALITY_INBOUND]) ∧
    ∀ p ∈ kvs, p.1 ≠ "auth_user"

theorem perform_scopeRule (ps : List String) (kvs : List (String × Json)) :
    perform c m (scopeRule ps (object kvs)) = perform c m (object kvs) := by
  have hget : ∀ k, k ≠ "inbound" → k ≠ "auth_user" →
      (scopeRule ps (object kvs)).get? k = (object kvs).get? k := by
    intro k h₁ h₂
    unfold scopeRule
    rw [Json.get?_set (by simp), if_neg h₂, Json.get?_set (by simp), if_neg h₁]
  unfold perform ruleAction ruleOutbound Json.idx
  simp only [hget "action" (by simp) (by simp), hget "outbound" (by simp) (by simp),
    hget "sniffer" (by simp) (by simp)]

variable {rule r : Json} {d : DeploymentConfig}

theorem act_scopeRule (h : Scopable rule) (ps : List String) :
    act core c m (scopeRule ps rule) =
      if c.inbound = REALITY_INBOUND ∧ c.user ∈ ps then act core c m rule else .pass m := by
  obtain ⟨kvs, rfl, hin, huser⟩ := h
  have hmatch : ruleMatches core c m (scopeRule ps (object kvs)) = true ↔
      (c.inbound = REALITY_INBOUND ∧ c.user ∈ ps) ∧
        ruleMatches core c m (object kvs) = true := by
    unfold scopeRule
    -- an `inbound` field that is already there is overwritten by the same value
    rw [Json.set_object, ruleMatches_set, ← Json.set_object, ruleMatches_set hin]
    · simp
      tauto
    · intro p hp hk
      rcases List.mem_append.mp hp with hp | hp
      · exact absurd hk (huser p hp)
      · rw [List.mem_singleton.mp hp] at hk
        simp at hk
  unfold act
  rw [perform_scopeRule]
  by_cases hs : c.inbound = REALITY_INBOUND ∧ c.user ∈ ps
  · simp only [hmatch, hs, true_and, if_true]
  · rw [if_neg hs, if_neg fun hm => hs (hmatch.mp hm).1]

theorem eval_map_scopeRule {rules : List Json} (h : ∀ r ∈ rules, Scopable r)
    (ps : List String) :
    eval (act core c) m (rules.map (scopeRule ps)) =
      if c.inbound = REALITY_INBOUND ∧ c.user ∈ ps then eval (act core c) m rules
      else .pass m := by
  by_cases hs : c.inbound = REALITY_INBOUND ∧ c.user ∈ ps
  · rw [if_pos hs]
    induction rules generalizing m with
    | nil => rfl
    | cons r rules ih =>
      have hr := @act_scopeRule core c m r (h r (List.mem_cons_self ..)) ps
      rw [List.map_cons, eval, hr, if_pos hs, eval]
      cases act core c m r with
      | pass s => exact ih fun x hx => h x (List.mem_cons_of_mem _ hx)
      | stop d => rfl
  · rw [if_neg hs]
    refine FirstMatch.eval_skip fun r hr => ?_
    obtain ⟨r', hr', rfl⟩ := List.mem_map.mp hr
    rw [act_scopeRule (h r' hr'), if_neg hs]

theorem scopable_object {kvs : List (String × Json)}
    (hin : ∀ p ∈ kvs, p.1 = "inbound" → p.2 = strs [REALITY_INBOUND])
    (huser : ∀ p ∈ kvs, p.1 ≠ "auth_user") : Scopable (object kvs) :=
  ⟨kvs, rfl, hin, huser⟩

theorem Scopable.auth_user (h : Scopable rule) : rule.get? "auth_user" = none := by
  obtain ⟨kvs, rfl, -, huser⟩ := h
  rw [Json.get?_object, List.lookup_eq_none_iff]
  intro p hp
  simpa using (huser p (List.mem_reverse.mp hp)).symm

def exitBlock (d : DeploymentConfig) : List Json :=
  (c16EgressDenyRules [REALITY_INBOUND] ++
    (ownAddressDenyRule [REALITY_INBOUND] (some d.publicHost) d.publicIpv4 d.publicIpv6).toList) ++
    (d.relayTargets.map peerDenyRule ++
      (exitEgressRules d false ++ [object [("action", .str "route"), ("outbound", .str "direct")]]))

theorem exitPrincipalRules_eq (d : DeploymentConfig) (ps : List String) :
    exitPrincipalRules d ps = if ps = [] then [] else (exitBlock d).map (scopeRule ps) := by
  unfold exitPrincipalRules exitBlock
  cases ps <;> simp

def exitBlockFront (d : DeploymentConfig) : List Json :=
  (c16EgressDenyRules [REALITY_INBOUND] ++
    (ownAddressDenyRule [REALITY_INBOUND] (some d.publicHost) d.publicIpv4 d.publicIpv6).toList) ++
    (d.relayTargets.map peerDenyRule ++ exitEgressRules d false)

theorem exitBlock_eq : exitBlock d =
    exitBlockFront d ++ [object [("action", .str "route"), ("outbound", .str "direct")]] := by
  simp [exitBlock, exitBlockFront, List.append_assoc]

def Guards (rule : Json) : Prop := Scopable rule ∧ rule.idx "action" ≠ .str "route"

theorem guards_peerDeny (t : RelayTarget) : Guards (peerDenyRule t) := by
  unfold peerDenyRule
  rw [Json.set_object]
  -- the target's own field is `ip_cidr` or `domain`
  rcases targetItem_key t.host with hkey | hkey
  · exact ⟨scopable_object (by simp [hkey]) (by simp [hkey]),
      by simp [Json.idx_object, Json.lookup_cons_ite, hkey]⟩
  · exact ⟨scopable_object (by simp [hkey]) (by simp [hkey]),
      by simp [Json.idx_object, Json.lookup_cons_ite, hkey]⟩

theorem guards_egress {active : Bool} (h : r ∈ exitEgressRules d active) : Guards r := by
  unfold exitEgressRules ipv6SniffRules ipv6RejectRules spoofRules at h
  simp only [List.mem_append] at h
  rcases h with (h | h) | h
  · -- the sniff rule of the literal-IPv6 policy
    split at h
    · rw [List.mem_singleton.mp h]
      exact ⟨scopable_object (by simp) (by simp), by simp [Json.idx_object]⟩
    · split at h
      · rw [List.mem_singleton.mp h]
        exact ⟨scopable_object (by simp) (by simp),
          by simp [Json.idx_object, Json.lookup_cons_ite]⟩
      · cases h
  · -- its reject rule, which some settings restrict further
    split at h
    · cases h
    · split at h
      · split at h <;>
        · simp only [Json.set_object, List.mem_singleton] at h
          rw [h]
          exact ⟨scopable_object (by simp) (by simp),
            by simp [Json.idx_object, Json.lookup_cons_ite]⟩
      · rw [List.mem_singleton.mp h]
        exact ⟨scopable_object (by simp) (by simp),
          by simp [Json.idx_object, Json.lookup_cons_ite]⟩
  · -- the two rules of the TLS spoof
    split at h
    · cases h
    · simp only [List.mem_cons, List.not_mem_nil, or_false] at h
      rcases h with rfl | rfl
      · exact ⟨scopable_object (by simp) (by simp),
          by simp [Json.idx_object, Json.lookup_cons_ite]⟩
      · exact ⟨scopable_object (by simp) (by simp),
          by simp [Json.idx_object, Json.lookup_cons_ite]⟩

theorem guards_exitBlockFront (h : r ∈ exitBlockFront d) : Guards r := by
  simp only [exitBlockFront, List.mem_append, List.mem_map, Option.mem_toList] at h
  rcases h with (h | h) | ⟨t, -, rfl⟩ | h
  · simp only [c16EgressDenyRules, List.mem_cons, List.not_mem_nil, or_false] at h
    rcases h with rfl | rfl | rfl | rfl <;>
      exact ⟨scopable_object (by simp) (by simp), by simp [Json.idx_object, Json.lookup_cons_ite]⟩
  · unfold ownAddressDenyRule at h
    simp only at h
    split at h
    · cases h
    · obtain rfl := Option.some.inj h
      exact ⟨scopable_object (by simp) (by simp),
        by simp [Json.idx_object, Json.lookup_cons_ite]⟩
  · exact guards_peerDeny t
  · exact guards_egress h

theorem scopable_exitBlock (h : r ∈ exitBlock d) : Scopable r := by
  rw [exitBlock_eq] at h
  rcases List.mem_append.mp h with h | h
  · exact (guards_exitBlockFront h).1
  · rw [List.mem_singleton.mp h]
    exact scopable_object (by simp) (by simp)

def exitRejected (core : Core) (d : DeploymentConfig) (c : Conn) (m : Meta) : Prop :=
  egressDenied d.ownAddresses c ∨
    hitsTarget core c { m with resolved := true } d.relayTargets

instance (d : DeploymentConfig) : Decidable (exitRejected core d c m) :=
  inferInstanceAs (Decidable (_ ∨ _))

theorem eval_exitPrincipalRules (hpolicy : ipv6Policy d false = .allow) (ps : List String) :
    eval (act core c) m (exitPrincipalRules d ps) =
      if c.inbound = REALITY_INBOUND ∧ c.user ∈ ps then
        .stop (if exitRejected core d c m then .reject else .direct)
      else .pass m := by
  rw [exitPrincipalRules_eq]
  by_cases hps : ps = []
  · simp [hps]
  rw [if_neg hps, eval_map_scopeRule fun r hr => scopable_exitBlock hr]
  by_cases hs : c.inbound = REALITY_INBOUND ∧ c.user ∈ ps
  · have hin : c.inbound ∈ [REALITY_INBOUND] := List.mem_singleton.mpr hs.1
    have hdirect : ∀ m' : Meta, act core c m' (object [("action", .str "route"),
        ("outbound", .str "direct")]) = .stop .direct := by
      intro m'
      rw [act_direct (by simp [ruleAction_object, Json.lookup_cons_ite])
        (by simp [ruleOutbound_object])]
      simp [ruleMatches_object, lastWins]
    have hrest : ∀ m' : Meta, eval (act core c) m' (exitEgressRules d false ++
        [object [("action", .str "route"), ("outbound", .str "direct")]]) = .stop .direct := by
      intro m'
      obtain ⟨s, he⟩ := @eval_exitEgressRules_of_allow core c m' d hpolicy
      rw [eval_append_pass _ he, FirstMatch.eval_cons_stop [] (hdirect _)]
    rw [if_pos hs, if_pos hs]
    unfold exitBlock
    -- the denials decide first, then the declared peers, and the rest is `direct`
    rw [FirstMatch.eval_append, eval_c16Rules hin]
    by_cases hd : egressDenied d.ownAddresses c
    · rw [if_pos (show exitRejected core d c m from .inl hd)]
      simp only [DeploymentConfig.ownAddresses] at hd
      simp only [if_pos hd]
    · have hd' : ¬ egressDenied
          (ownAddresses (some d.publicHost) d.publicIpv4 d.publicIpv6) c := hd
      simp only [if_neg hd']
      rw [FirstMatch.eval_append, eval_peerDenyRules]
      by_cases ht : hitsTarget core c { m with resolved := true } d.relayTargets
      · rw [if_pos (show exitRejected core d c m from .inr ht)]
        simp only [if_pos ht]
      · rw [if_neg (show ¬ exitRejected core d c m from fun h => h.elim hd ht)]
        simp only [if_neg ht, hrest]
  · rw [if_neg hs, if_neg hs]

end ExitPrincipals

end SingboxVpn
