import SingboxVpn.Server.Relay

namespace SingboxVpn

/-!
# What a relay isolates

A relay has three ways to `direct`, and only one of them carries the denials an exit has.
Here the relay's policy is compared with two promises about destinations: that no tunnel user
reaches a denied range or the node itself, and that an exit principal is not sent back into
the relay's own targets.  Both hold under exact conditions on accounts and declarations.

* `RelayIsolated`, `relay_isolation_iff` — denied ranges and the relay's own addresses.
* `NoLoop`, `exit_principal_no_loop_iff` — exit principals and the declared targets.
-/

/-! ### Addresses no tunnel user may reach -/

section Isolation

variable (d : DeploymentConfig) (users : List CompatUser) (now : Int) (c : Conn)

/-- The addresses the destination stands for: itself, or what its name resolves to.  A
    sniffed name does not change them. -/
def Conn.dialled : List IpAddr :=
  match c.dest with
  | .addr a => [a]
  | .name _ => c.resolved

def Conn.toTarget : Prop :=
  c.network = .tcp ∧ ∃ t ∈ d.relayTargets, c.port = t.port ∧ c.destIs t.host

/-- The self-test of a probe account: the subscription port on the loopback address. -/
def Conn.isSelftest : Prop :=
  c.ownedBy users now CompatUser.isReservedProbe ∧ c.inbound = REALITY_INBOUND ∧
    c.network = .tcp ∧ c.port = d.subscription.listenPort ∧ c.dest = .addr (.v4 0x7f000001)

/-- Apart from declared targets and the self-test, nothing reaches a denied range or one of
    the relay's own addresses. -/
def RelayIsolated (doc : Json) : Prop :=
  ∀ (core : Core) (c : Conn), c.inbound ∈ inboundTags doc →
    (∃ a ∈ c.dialled, c16Denied a = true ∨ a ∈ d.ownAddresses) →
    ¬ c.toTarget d → ¬ c.isSelftest d users now → decision core doc c ≠ .direct

/-- The destinations of the probe accounts are all declared targets, the address only if it
    is one of the relay's own. -/
def ProbesAreTargets : Prop :=
  (∀ n ∈ PROBE_ALLOWED_DOMAINS, RelayTarget.mk n PROBE_ALLOWED_PORT ∈ d.relayTargets) ∧
    (IpAddr.v4 0x01010101 ∈ d.ownAddresses →
      ∃ t ∈ d.relayTargets, t.port = PROBE_ALLOWED_PORT ∧
        IpAddr.parse t.host = some (.v4 0x01010101))

end Isolation

section IsolationProofs

variable {ext : External} {core : Core} {d : DeploymentConfig} {users : List CompatUser}
  {reality : RealityServerParams} {hysteria : Hysteria2ServerParams} {now : Int} {doc : Json}
  {c : Conn}

theorem mem_allAddresses_of_dialled {a : IpAddr} (h : a ∈ c.dialled) : a ∈ c.allAddresses := by
  unfold Conn.dialled at h
  unfold Conn.allAddresses Conn.literal
  cases hd : c.dest with
  | addr b =>
    rw [hd] at h
    simp [List.mem_singleton.mp h]
  | name n =>
    rw [hd] at h
    simpa using h

theorem egressDenied_of_dialled
    (h : ∃ a ∈ c.dialled, c16Denied a = true ∨ a ∈ d.ownAddresses) :
    egressDenied d.ownAddresses c := by
  obtain ⟨a, ha, hd⟩ := h
  exact .inl ⟨a, mem_allAddresses_of_dialled ha, hd⟩

theorem customer_isolated (hhair : hairpinPrincipals users now = [])
    (hden : egressDenied d.ownAddresses c) (hnot : ¬ c.toTarget d) :
    customerPolicy core d users now c ≠ .direct := by
  have hmeta : metaBehind c (hairpinPrincipals users now) = Meta.start :=
    metaBehind_of_not_mem (by simp [hhair])
  unfold customerPolicy
  rw [if_neg (not_hairpinHit_of_not_mem (by simp [hhair])), hmeta]
  split_ifs with hexit htarget
  · -- the exit-principal block carries the same denials as an exit
    rw [exitVerdict, if_pos (.inl hden)]
    simp
  · obtain ⟨-, htcp, t, ht, hport, hhost⟩ := htarget
    exact absurd ⟨htcp, t, ht, hport, destIs_of_namesHost hhost⟩ hnot
  · simp

theorem probe_isolated (hhair : hairpinPrincipals users now = [])
    (hprobes : ProbesAreTargets d) (hu : c.user ∈ probeIds users now)
    (hdial : ∃ a ∈ c.dialled, c16Denied a = true ∨ a ∈ d.ownAddresses)
    (hnot : ¬ c.toTarget d) (hself : ¬ c.isSelftest d users now) :
    probePolicy core d users now c ≠ .direct := by
  have hearly : earlyHairpins users now = [] := by simp [earlyHairpins, hhair]
  have hmeta : metaBehind c (earlyHairpins users now) = Meta.start :=
    metaBehind_of_not_mem (by simp [hearly])
  unfold probePolicy
  rw [if_neg (fun hloop => ?_), if_neg (not_hairpinHit_of_not_mem (by simp [hearly])), hmeta]
  · split_ifs with hexit hallow
    · rw [exitVerdict, if_pos (.inl (egressDenied_of_dialled hdial))]
      simp
    · obtain ⟨htcp, hport, hdest⟩ := hallow
      -- an allowed probe destination is a declared target by assumption
      refine absurd ⟨htcp, ?_⟩ hnot
      rcases hdest with hip | ⟨n, hn, hdom⟩
      · -- the probe address is in no denied range, so it is one of the relay's own
        have htext : PROBE_ALLOWED_IP_CIDRS = [IpAddr.v4 0x01010101].map Cidr.hostText := by
          decide
        rw [htext, inCidrs_hosts, addresses_start] at hip
        obtain ⟨a, ha, hown⟩ := hip
        rw [List.mem_singleton.mp hown] at ha
        have hd : c.dest = .addr (.v4 0x01010101) := dest_of_literal.mp (by simpa using ha)
        obtain ⟨b, hb, hdenied⟩ := hdial
        rw [Conn.dialled, hd] at hb
        rw [List.mem_singleton.mp hb] at hdenied
        have hmine := hdenied.resolve_left (by decide)
        obtain ⟨t, ht, htport, hparse⟩ := hprobes.2 hmine
        refine ⟨t, ht, by rw [hport, htport], ?_⟩
        simpa only [Conn.destIs, hparse] using hd
      · have hd : c.dest = .name n := dest_of_requested.mp (requested_of_hosts hn)
        refine ⟨_, hprobes.1 n hdom, hport, ?_⟩
        have hparse : IpAddr.parse n = none := by
          have : ∀ m ∈ PROBE_ALLOWED_DOMAINS, IpAddr.parse m = none := by decide
          exact this n hdom
        simpa only [Conn.destIs, hparse] using hd
    · simp
  · exact hself ⟨mem_principalsOf.mp hu, hloop.1, hloop.2.1, hloop.2.2.1,
      dest_of_literal.mp (loopback_literal hloop.2.2.2)⟩

/-- A datagram to a private address whose first bytes name Google. -/
def privateConn (p : String) : Conn where
  inbound := REALITY_INBOUND
  user := p
  network := .udp
  dest := .addr (.v4 0x0a000001)
  port := 443
  resolved := []
  sniff := fun _ => some "google.com"

theorem hairpin_reaches_private {p : String} {rest : List String}
    (h : hairpinPrincipals users now = p :: rest) :
    relayPolicy core d users now (privateConn p) = .direct := by
  have hgoogle : googleNamed core (privateConn p) (Meta.start.sniff (privateConn p)) := by
    refine ⟨"google.com", ?_, by decide⟩
    show "google.com" ∈ core.hosts none (some "google.com")
    simp [core.hosts_sniffed]
  unfold relayPolicy
  -- a hairpin principal that is a probe too has its rules in front of the confinement
  by_cases hu : (privateConn p).user ∈ probeIds users now
  · have hearly : p ∈ earlyHairpins users now := by
      unfold earlyHairpins
      rw [h, List.takeWhile_cons_of_pos (by simpa [privateConn] using hu)]
      exact List.mem_cons_self
    have hloop : ¬ (privateConn p).network = .tcp := by simp [privateConn]
    rw [if_pos hu, probePolicy, if_neg fun hl => hloop hl.2.1, if_pos ⟨⟨rfl, hearly⟩, hgoogle⟩]
  · have hmem : p ∈ hairpinPrincipals users now := by simp [h]
    rw [if_neg hu, customerPolicy, if_pos ⟨⟨rfl, hmem⟩, hgoogle⟩]

def probeConn (p : String) (dest : Dest) (resolved : List IpAddr) : Conn where
  inbound := "hysteria2-in"
  user := p
  network := .tcp
  dest := dest
  port := PROBE_ALLOWED_PORT
  resolved := resolved
  sniff := fun _ => none

theorem probe_reaches {p : String} {dest : Dest} {resolved : List IpAddr}
    (hu : p ∈ probeIds users now)
    (hallow : probeAllowed core (probeConn p dest resolved) Meta.start) :
    relayPolicy core d users now (probeConn p dest resolved) = .direct := by
  have hin : (probeConn p dest resolved).inbound ≠ REALITY_INBOUND := by
    show "hysteria2-in" ≠ REALITY_INBOUND
    decide
  have hmeta : metaBehind (probeConn p dest resolved) (earlyHairpins users now) = Meta.start := by
    rw [metaBehind, if_neg fun h => hin h.1]
  rw [relayPolicy, if_pos (show (probeConn p dest resolved).user ∈ _ from hu), probePolicy,
    if_neg fun h => hin h.1, if_neg fun h => hin h.1.1, if_neg fun h => hin h.2.1, hmeta,
    if_pos hallow]

theorem probesAreTargets_of_isolated (hrole : d.role = .relay)
    (h : renderServerConfigForDeployment ext d users reality hysteria now = .ok doc)
    (hiso : RelayIsolated d users now doc) {p : String} (hp : p ∈ probeIds users now) :
    ProbesAreTargets d := by
  have htags := relay_inboundTags hrole h
  have htag : "hysteria2-in" ∈ INBOUND_TAGS := by decide
  constructor
  · -- a probe name that resolves into a denied range
    intro n hn
    have hparse : ∀ m ∈ PROBE_ALLOWED_DOMAINS, IpAddr.parse m = none := by decide
    have hdirect : decision sampleCore doc
        (probeConn p (.name n) [.v4 0x0a000001]) = .direct := by
      rw [relay_decision hrole h htag]
      refine probe_reaches hp ⟨rfl, rfl, .inr ⟨n, ?_, hn⟩⟩
      show n ∈ sampleCore.hosts (some n) none
      simp [sampleCore.hosts_requested]
    by_contra hnot
    refine hiso sampleCore _ (by rw [htags]; exact htag)
      ⟨.v4 0x0a000001, List.mem_singleton.mpr rfl, .inl (by decide)⟩ ?_ ?_ hdirect
    · rintro ⟨-, t, ht, hport, hdest⟩
      apply hnot
      obtain ⟨host, port⟩ := t
      -- the name is no address, so the target is declared under this very name
      unfold Conn.destIs at hdest
      cases hp' : IpAddr.parse host with
      | some ip =>
        rw [hp'] at hdest
        cases hdest
      | none =>
        rw [hp'] at hdest
        cases hdest
        rw [show PROBE_ALLOWED_PORT = port from hport]
        exact ht
    · rintro ⟨-, -, -, -, hdest⟩
      cases hdest
  · intro hown
    have hdirect : decision sampleCore doc
        (probeConn p (.addr (.v4 0x01010101)) []) = .direct := by
      rw [relay_decision hrole h htag]
      refine probe_reaches hp ⟨rfl, rfl, .inl ?_⟩
      show inCidrs PROBE_ALLOWED_IP_CIDRS [.v4 0x01010101] = true
      decide
    by_contra hnot
    refine hiso sampleCore _ (by rw [htags]; exact htag)
      ⟨.v4 0x01010101, List.mem_singleton.mpr rfl, .inr hown⟩ ?_ ?_ hdirect
    · rintro ⟨-, t, ht, hport, hdest⟩
      refine hnot ⟨t, ht, hport.symm, ?_⟩
      unfold Conn.destIs at hdest
      cases hp' : IpAddr.parse t.host with
      | some ip =>
        rw [hp'] at hdest
        cases hdest
        rfl
      | none =>
        rw [hp'] at hdest
        cases hdest
    · rintro ⟨-, -, -, -, hdest⟩
      cases hdest

/-- A relay isolates the denied ranges and its own addresses exactly while no hairpin
    account is in force, and no probe account whose destinations are not targets anyway. -/
theorem relay_isolation_iff (hrole : d.role = .relay)
    (h : renderServerConfigForDeployment ext d users reality hysteria now = .ok doc) :
    RelayIsolated d users now doc ↔
      NoneInForce users now CompatUser.googleEgressHairpin ∧
        (NoneInForce users now CompatUser.isReservedProbe ∨ ProbesAreTargets d) := by
  have htags := relay_inboundTags hrole h
  constructor
  · intro hiso
    constructor
    · rw [noneInForce_iff]
      cases hps : principalsOf CompatUser.googleEgressHairpin users now with
      | nil => rfl
      | cons p rest =>
        have htag : (privateConn p).inbound ∈ INBOUND_TAGS := List.mem_cons_self
        have hdirect := @hairpin_reaches_private sampleCore d users now p rest hps
        rw [← relay_decision hrole h htag] at hdirect
        -- any hairpin principal gives a connection into a private range
        refine absurd hdirect (hiso sampleCore (privateConn p) (by rw [htags]; exact htag)
          ⟨.v4 0x0a000001, List.mem_singleton.mpr rfl, .inl (by decide)⟩ ?_ ?_)
        · exact fun ht => by cases ht.1
        · exact fun hs => by cases hs.2.2.1
    · by_cases hprobe : NoneInForce users now CompatUser.isReservedProbe
      · exact .inl hprobe
      · rw [noneInForce_iff] at hprobe
        obtain ⟨p, hp⟩ := List.exists_mem_of_ne_nil _ hprobe
        exact .inr (probesAreTargets_of_isolated hrole h hiso hp)
  · rintro ⟨hhair, hprobes⟩ core c hin hdial hnot hself
    rw [noneInForce_iff] at hhair
    rw [htags] at hin
    rw [relay_decision hrole h hin, relayPolicy]
    split_ifs with hu
    · refine probe_isolated hhair (hprobes.resolve_left fun hnone => ?_) hu hdial hnot hself
      rw [noneInForce_iff] at hnone
      rw [probeIds, hnone] at hu
      cases hu
    · exact customer_isolated hhair (egressDenied_of_dialled hdial) hnot

/-- A relay whose accounts carry no flag isolates. -/
theorem relay_isolation_iff_plain :
    ∃ doc, renderServerConfigForDeployment sampleExternal sampleRelay [sampleUser]
        sampleReality sampleHysteria 0 = .ok doc ∧
      RelayIsolated sampleRelay [sampleUser] 0 doc := by
  obtain ⟨doc, hdoc⟩ := sampleRelay_renders [sampleUser] 0 rfl
  have hnone : ∀ u ∈ [sampleUser], u.googleEgressHairpin = true → u.activePrincipalIds 0 = [] := by
    decide
  have hprobe : ∀ u ∈ [sampleUser], u.isReservedProbe = true → u.activePrincipalIds 0 = [] := by
    decide
  exact ⟨doc, hdoc, (relay_isolation_iff rfl hdoc).mpr ⟨hnone, .inl hprobe⟩⟩

/-- A hairpin account reaches 10.0.0.1 by naming Google in its first bytes. -/
theorem relay_hairpin_breaks_isolation :
    ∃ doc, renderServerConfigForDeployment sampleExternal sampleRelay
        [{ sampleUser with googleEgressHairpin := true }] sampleReality sampleHysteria 0 =
          .ok doc ∧
      (privateConn "user_1").dialled = [.v4 0x0a000001] ∧ c16Denied (.v4 0x0a000001) = true ∧
      decision sampleCore doc (privateConn "user_1") = .direct ∧
      ¬ RelayIsolated sampleRelay [{ sampleUser with googleEgressHairpin := true }] 0 doc := by
  obtain ⟨doc, hdoc⟩ :=
    sampleRelay_renders [{ sampleUser with googleEgressHairpin := true }] 0 rfl
  have hdirect : decision sampleCore doc (privateConn "user_1") = .direct := by
    rw [relay_decision rfl hdoc (by decide)]
    decide
  refine ⟨doc, hdoc, rfl, by decide, hdirect, fun hiso => ?_⟩
  refine hiso sampleCore (privateConn "user_1") ?_
    ⟨.v4 0x0a000001, List.mem_singleton.mpr rfl, .inl (by decide)⟩ ?_ ?_ hdirect
  · rw [relay_inboundTags rfl hdoc]
    decide
  · exact fun ht => by cases ht.1
  · exact fun hs => by cases hs.2.2.1

end IsolationProofs

/-! ### Exit principals and the relay's own targets -/

section Loop

variable (d : DeploymentConfig) (users : List CompatUser) (now : Int) (dns : String → List IpAddr)

def ExitPrincipal (p : String) : Prop :=
  d.exitPrincipalsEnabled = true ∧
    (∃ u ∈ users, u.exitPrincipal = true ∧ p ∈ u.activePrincipalIds now) ∧
    ∀ u ∈ users, p ∈ u.activePrincipalIds now →
      u.googleEgressHairpin = false ∧ u.isReservedProbe = false

def hostAddresses (host : String) : List IpAddr :=
  match IpAddr.parse host with
  | some ip => [ip]
  | none => dns host

def NoLoop (doc : Json) : Prop :=
  ∀ (core : Core) (c : Conn), c.inbound ∈ inboundTags doc → ExitPrincipal d users now c.user →
    c.network = .tcp →
    (∃ t ∈ d.relayTargets, c.port = t.port ∧ ∃ a ∈ c.dialled, a ∈ hostAddresses dns t.host) →
    decision core doc c ≠ .direct

def TargetsCovered : Prop :=
  ∀ t ∈ d.relayTargets, IpAddr.parse t.host = none → ∀ a ∈ dns t.host,
    c16Denied a = true ∨ a ∈ d.ownAddresses ∨ t.port = C16_DENY_TCP_PORT ∨
      ∃ t' ∈ d.relayTargets, t'.port = t.port ∧ IpAddr.parse t'.host = some a

end Loop

section LoopProofs

variable {ext : External} {core : Core} {d : DeploymentConfig} {users : List CompatUser}
  {reality : RealityServerParams} {hysteria : Hysteria2ServerParams} {now : Int} {doc : Json}
  {c : Conn} {dns : String → List IpAddr}

theorem relayPolicy_exitPrincipal (h : ExitPrincipal d users now c.user) :
    relayPolicy core d users now c =
      if c.inbound = REALITY_INBOUND ∧ ¬ exitRejected core d c Meta.start then .direct
      else .reject := by
  obtain ⟨henabled, ⟨u, hu, hflag, hp⟩, hother⟩ := h
  have hexit : c.user ∈ exitPrincipalIds d users now := by
    simp only [exitPrincipalIds, henabled, Bool.not_true, Bool.false_eq_true, if_false]
    refine mem_principalsOf.mpr ⟨u, hu, ?_, hp⟩
    simp [hflag, hother u hu hp]
  have hhair : c.user ∉ hairpinPrincipals users now := fun hmem => by
    obtain ⟨v, hv, hv', hpv⟩ := mem_principalsOf.mp hmem
    simp [(hother v hv hpv).1] at hv'
  have hprobe : c.user ∉ probeIds users now := fun hmem => by
    obtain ⟨v, hv, hv', hpv⟩ := mem_principalsOf.mp hmem
    simp [(hother v hv hpv).2] at hv'
  rw [relayPolicy, if_neg hprobe, customerPolicy,
    if_neg (not_hairpinHit_of_not_mem hhair), metaBehind_of_not_mem hhair]
  by_cases hin : c.inbound = REALITY_INBOUND
  · rw [if_pos (show exitScoped d users now c from ⟨hin, hexit⟩), exitVerdict]
    by_cases hr : exitRejected core d c Meta.start
    · rw [if_pos hr, if_neg fun h => h.2 hr]
    · rw [if_neg hr, if_pos ⟨hin, hr⟩]
  · rw [if_neg (fun h : exitScoped d users now c => hin h.1), if_neg fun h => hin h.1,
      if_neg fun h => hin h.1]

theorem exitRejected_of_covered (hcov : TargetsCovered d dns) (htcp : c.network = .tcp)
    (hdest : ∃ t ∈ d.relayTargets, c.port = t.port ∧
      ∃ a ∈ c.dialled, a ∈ hostAddresses dns t.host) :
    exitRejected core d c Meta.start := by
  obtain ⟨t, ht, hport, a, ha, hhost⟩ := hdest
  have hall := mem_allAddresses_of_dialled ha
  -- a target declared as this address and port is one of the peers the block rejects
  have hpeer : ∀ t' ∈ d.relayTargets, t'.port = t.port → IpAddr.parse t'.host = some a →
      exitRejected core d c Meta.start := by
    intro t' ht' hport' hparse
    refine .inr ⟨htcp, t', ht', by rw [hport, hport'], ?_⟩
    simpa only [namesHost, hparse, Conn.addresses, Conn.allAddresses, if_true] using hall
  unfold hostAddresses at hhost
  cases hp : IpAddr.parse t.host with
  | some ip =>
    rw [hp] at hhost
    exact hpeer t ht rfl (by rw [hp, List.mem_singleton.mp hhost])
  | none =>
    rw [hp] at hhost
    rcases hcov t ht hp a hhost with hden | hown | h25 | ⟨t', ht', hport', hparse⟩
    · exact .inl (.inl ⟨a, hall, .inl hden⟩)
    · exact .inl (.inl ⟨a, hall, .inr hown⟩)
    · exact .inl (.inr ⟨htcp, by rw [hport, h25]⟩)
    · exact hpeer t' ht' hport' hparse

/-- A connection straight to an address, with nothing to sniff. -/
def literalConn (p : String) (a : IpAddr) (port : Nat) : Conn where
  inbound := REALITY_INBOUND
  user := p
  network := .tcp
  dest := .addr a
  port := port
  resolved := []
  sniff := fun _ => none

theorem not_exitRejected_literal {p : String} {a : IpAddr} {port : Nat}
    (hden : c16Denied a ≠ true) (hown : a ∉ d.ownAddresses) (h25 : port ≠ C16_DENY_TCP_PORT)
    (hpeer : ∀ t ∈ d.relayTargets, t.port = port → IpAddr.parse t.host ≠ some a) :
    ¬ exitRejected core d (literalConn p a port) Meta.start := by
  rintro ((⟨b, hb, hd⟩ | ⟨-, hport⟩) | ⟨-, t, ht, hport, hhost⟩)
  · obtain rfl : b = a := List.mem_singleton.mp hb
    exact hd.elim hden hown
  · exact h25 hport
  · unfold namesHost at hhost
    cases hp : IpAddr.parse t.host with
    | some ip =>
      rw [hp] at hhost
      obtain rfl : ip = a := List.mem_singleton.mp hhost
      exact hpeer t ht hport.symm hp
    | none =>
      rw [hp] at hhost
      have hempty : (literalConn p a port).hosts core { Meta.start with resolved := true } = [] :=
        core.hosts_requested none
      rw [hempty] at hhost
      cases hhost

/-- Exit principals stay off the relay's targets exactly while there is none, or every
    address of a target declared by name is covered. -/
theorem exit_principal_no_loop_iff (hrole : d.role = .relay)
    (h : renderServerConfigForDeployment ext d users reality hysteria now = .ok doc) :
    NoLoop d users now dns doc ↔
      (∀ p, ¬ ExitPrincipal d users now p) ∨ TargetsCovered d dns := by
  have htags := relay_inboundTags hrole h
  constructor
  · intro hloop
    by_cases hp : ∃ p, ExitPrincipal d users now p
    · obtain ⟨p, hp⟩ := hp
      refine .inr fun t ht hparse a ha => ?_
      by_contra hnot
      simp only [not_or, not_exists, not_and] at hnot
      obtain ⟨hden, hown, h25, hpeer⟩ := hnot
      have hin : (literalConn p a t.port).inbound ∈ INBOUND_TAGS := List.mem_cons_self
      refine hloop sampleCore (literalConn p a t.port) (by rw [htags]; exact hin) hp rfl
        ⟨t, ht, rfl, a, List.mem_singleton.mpr rfl, by rw [hostAddresses, hparse]; exact ha⟩ ?_
      rw [relay_decision hrole h hin, relayPolicy_exitPrincipal hp,
        if_pos ⟨rfl, not_exitRejected_literal hden hown h25 hpeer⟩]
    · exact .inl fun p hp' => hp ⟨p, hp'⟩
  · rintro hcond core c hin hexit htcp hdest
    have hcov := hcond.resolve_left fun hnone => hnone _ hexit
    rw [htags] at hin
    rw [relay_decision hrole h hin, relayPolicy_exitPrincipal hexit,
      if_neg fun h => h.2 (exitRejected_of_covered hcov htcp hdest)]
    simp

/-- The declared exit resolves to 10.0.0.1, which nobody reaches. -/
theorem exit_principal_no_loop_iff_denied :
    ∃ doc, renderServerConfigForDeployment sampleExternal sampleRelay
        [{ sampleUser with exitPrincipal := true }] sampleReality sampleHysteria 0 = .ok doc ∧
      ExitPrincipal sampleRelay [{ sampleUser with exitPrincipal := true }] 0 "user_1" ∧
      NoLoop sampleRelay [{ sampleUser with exitPrincipal := true }] 0
        (fun _ => [.v4 0x0a000001]) doc := by
  obtain ⟨doc, hdoc⟩ := sampleRelay_renders [{ sampleUser with exitPrincipal := true }] 0 rfl
  have hcov : TargetsCovered sampleRelay fun _ => [.v4 0x0a000001] := by
    intro t _ _ a ha
    rw [List.mem_singleton.mp ha]
    exact .inl (by decide)
  refine ⟨doc, hdoc, ⟨rfl, ⟨_, List.mem_cons_self, rfl, by decide⟩, by decide⟩, ?_⟩
  exact (exit_principal_no_loop_iff rfl hdoc).mpr (.inr hcov)

/-- The declared exit resolves to 93.184.216.34; dialled by that address, an exit principal
    gets through. -/
theorem exit_principal_loops :
    ∃ doc, renderServerConfigForDeployment sampleExternal sampleRelay
        [{ sampleUser with exitPrincipal := true }] sampleReality sampleHysteria 0 = .ok doc ∧
      decision sampleCore doc (literalConn "user_1" (.v4 0x5db8d822) 443) = .direct ∧
      ¬ NoLoop sampleRelay [{ sampleUser with exitPrincipal := true }] 0
        (fun _ => [.v4 0x5db8d822]) doc := by
  obtain ⟨doc, hdoc⟩ := sampleRelay_renders [{ sampleUser with exitPrincipal := true }] 0 rfl
  have hdirect :
      decision sampleCore doc (literalConn "user_1" (.v4 0x5db8d822) 443) = .direct := by
    rw [relay_decision rfl hdoc (by decide)]
    decide
  refine ⟨doc, hdoc, hdirect, fun hloop => ?_⟩
  refine hloop sampleCore _ ?_ ⟨rfl, ?_, ?_⟩ rfl ?_ hdirect
  · rw [relay_inboundTags rfl hdoc]
    decide
  · exact ⟨_, List.mem_cons_self, rfl, by decide⟩
  · decide
  · rw [sampleRelay_targets]
    exact ⟨_, List.mem_cons_self, rfl, .v4 0x5db8d822, by decide, by decide⟩

end LoopProofs

end SingboxVpn
