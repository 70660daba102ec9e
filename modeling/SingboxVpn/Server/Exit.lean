import SingboxVpn.Server.Shape

namespace SingboxVpn

open Json (object strs lastWins)
open FirstMatch (Outcome eval eval_append eval_append_pass)

/-!
# What an exit forwards

An exit sends its users to the Internet through its own address, except into denied ranges,
and can send the Google domain set through a paired node instead.  `exitPolicy` says what its
document decides, and `exit_decision` that the rendered document refines it.  The keys an
exit renders from are read from a directory, and the hairpin is in use only if its
credential is there.

* `exitPolicy`, `exit_decision` — the policy and the refinement.
-/

/-! ### The key directory -/

/-- A file as a reader finds it: its text, or the system's message. -/
abbrev FileRead := Except String String

structure KeyDirectory where
  privateKey : FileRead
  publicKey : FileRead
  shortId : FileRead
  googleEgressHairpinUuid : FileRead

/-- The public key of a private key. -/
def deriveRealityPublicKey (ext : External) (privateKey : String) : Except String String := do
  let decoded ← (ext.base64UrlDecode (Text.trim privateKey)).mapError fun e =>
    "REALITY private key is not valid base64url without padding: " ++ e
  if decoded.length = 32 then .ok (ext.base64UrlEncode (ext.mulBaseClamped decoded))
  else .error ("REALITY private key decodes to " ++ toString decoded.length ++
    " bytes; X25519 requires exactly 32")

/-- A key pair is well formed and belongs together. -/
def validateRealityKeypair (ext : External) (privateKey publicKey : String) :
    Except String Unit := do
  validateRealityPublicKeyShape ext publicKey
  let derived ← deriveRealityPublicKey ext privateKey
  Check.refuseIf (derived != Text.trim publicKey)
    "REALITY public key does not correspond to private.key"

/-- Read and check the node's REALITY parameters.  The hairpin credential is optional: a file
    that cannot be read counts as absent. -/
def loadRealityParams (ext : External) (cfg : DeploymentConfig) (keys : KeyDirectory) :
    Except String RealityServerParams := do
  let privateKeyHex := Text.trim (← keys.privateKey.mapError fun _ =>
    "reality private key missing — run `vpn-admin init` first")
  let publicKeyHex := Text.trim (← keys.publicKey)
  (validateRealityKeypair ext privateKeyHex publicKeyHex).mapError fun _ =>
    "REALITY private.key/public.key coherence check failed"
  let shortId := Text.trim (← keys.shortId)
  .ok {
    privateKeyHex := privateKeyHex
    publicKeyHex := publicKeyHex
    shortIds := [shortId]
    handshakeServer := cfg.reality.handshakeServer
    handshakePort := cfg.reality.handshakePort
    googleEgressHairpinUuid := keys.googleEgressHairpinUuid.toOption.map Text.trim }

theorem hairpinUuid_of_load {ext : External} {cfg : DeploymentConfig} {keys : KeyDirectory}
    {reality : RealityServerParams} (h : loadRealityParams ext cfg keys = .ok reality) :
    reality.googleEgressHairpinUuid = keys.googleEgressHairpinUuid.toOption.map Text.trim := by
  unfold loadRealityParams at h
  -- each file but the last one ends the load if it cannot be read
  cases hpriv : keys.privateKey with
  | error e => simp [hpriv, Except.mapError, bind, Except.bind] at h
  | ok priv =>
    cases hpub : keys.publicKey with
    | error e => simp [hpriv, hpub, Except.mapError, bind, Except.bind] at h
    | ok pub =>
      cases hpair : validateRealityKeypair ext (Text.trim priv) (Text.trim pub) with
      | error e => simp [hpriv, hpub, hpair, Except.mapError, bind, Except.bind] at h
      | ok u =>
        cases hshort : keys.shortId with
        | error e => simp [hpriv, hpub, hpair, hshort, Except.mapError, bind, Except.bind] at h
        | ok short =>
          simp only [hpriv, hpub, hpair, hshort, Except.mapError, bind, Except.bind,
            Except.ok.injEq] at h
          rw [← h]

/-! ### The policy -/

section Policy

variable (core : Core) (d : DeploymentConfig) (users : List CompatUser) (now : Int)
  (active : Bool) (c : Conn)

def Conn.isIpv6Literal : Bool := c.literal.any fun a => a.isV6

/-- What is known of a connection when the literal-IPv6 policy is applied.  A hairpin sniffs
    everything, another exit only what the policy needs. -/
def egressMeta : Meta :=
  ⟨if active = true then c.sniff []
    else if ipv6Policy d active = .rejectGoogle ∧ c.isIpv6Literal = true ∧ c.port = 443 then
      c.sniff ["tls", "quic"]
    else none, true⟩

def ipv6Rejected : Prop :=
  c.isIpv6Literal = true ∧ ipv6Policy d active ≠ .allow ∧
    (ipv6Policy d active = .rejectGoogle →
      (active = true ∨ c.port = 443) ∧ googleNamed core c (egressMeta d active c))

instance : Decidable (ipv6Rejected core d active c) := inferInstanceAs (Decidable (_ ∧ _))

def exitPolicy : Decision :=
  if c.user ∈ probeIds users now then
    if loopbackSelftest d c Meta.start ∨ probeAllowed core c Meta.start then .direct else .reject
  else if egressDenied d.ownAddresses c ∨ ipv6Rejected core d active c then .reject
  else if active = true ∧ googleNamed core c (egressMeta d active c) then .route HAIRPIN_TAG
  else .direct

end Policy

/-! ### The rendered document decides by the policy -/

section Refinement

variable {core : Core} {d : DeploymentConfig} {users : List CompatUser} {now : Int}
  {active : Bool} {c : Conn} {m : Meta}

theorem eval_ipv6Sniff :
    eval (act core c) ⟨none, true⟩ (ipv6SniffRules (ipv6Policy d active) active) =
      .pass (egressMeta d active c) := by
  unfold ipv6SniffRules egressMeta
  by_cases ha : active = true
  · rw [if_pos ha, if_pos ha]
    rw [FirstMatch.eval_cons_pass [] (act_sniff (by simp [ruleAction_object]))]
    simp [ruleMatches_object, lastWins, Json.idx_object, Json.lookup_cons_ite]
  · rw [if_neg ha, if_neg ha]
    -- only the policy that looks at names sniffs, and only what it will look at
    by_cases hp : ipv6Policy d active = .rejectGoogle
    · rw [if_pos hp, FirstMatch.eval_cons_pass [] (act_sniff
        (by simp [ruleAction_object, Json.lookup_cons_ite]))]
      simp only [hp, true_and]
      have hmatch : ruleMatches core c ⟨none, true⟩ (object [("ip_version", .num 6),
          ("port", .num 443), ("action", .str "sniff"), ("sniffer", strs ["tls", "quic"]),
          ("timeout", .str "100ms")]) = true ↔ c.isIpv6Literal = true ∧ c.port = 443 := by
        simp [ruleMatches_object, lastWins, Conn.isIpv6Literal]
        omega
      by_cases hm : c.isIpv6Literal = true ∧ c.port = 443
      · rw [if_pos (hmatch.mpr hm), if_pos hm]
        simp [Json.idx_object, Json.lookup_cons_ite]
      · rw [if_neg fun h => hm (hmatch.mp h), if_neg hm]
        rfl
    · rw [if_neg hp, if_neg fun h => hp h.1]
      rfl

theorem ruleMatches_ipv6Reject :
    ruleMatches core c m (object [("ip_version", .num 6), ("action", .str "reject"),
      ("method", .str "default"), ("no_drop", .bool true)]) = true ↔ c.isIpv6Literal = true := by
  simp [ruleMatches_object, lastWins, Conn.isIpv6Literal]

theorem itemMatches_google :
    itemMatches core c m "domain_suffix" (strs GOOGLE_EGRESS_DOMAINS) = true ↔
      googleNamed core c m := by
  simp [googleNamed]

theorem eval_ipv6Reject :
    eval (act core c) (egressMeta d active c) (ipv6RejectRules (ipv6Policy d active) active) =
      if ipv6Rejected core d active c then .stop .reject
      else .pass (egressMeta d active c) := by
  unfold ipv6RejectRules
  -- the three policies in turn: none, by Google name, all literal IPv6
  by_cases hallow : ipv6Policy d active = .allow
  · rw [if_pos hallow, if_neg fun h : ipv6Rejected core d active c => h.2.1 hallow]
    rfl
  simp only [if_neg hallow]
  by_cases hg : ipv6Policy d active = .rejectGoogle
  · simp only [if_pos hg]
    by_cases ha : active = true
    · rw [if_neg (by simp [ha]), FirstMatch.eval_cons_guard [] (act_reject
        (by simp [Json.set_object, ruleAction_object, Json.lookup_cons_ite])),
        FirstMatch.eval_nil]
      refine if_congr ?_ rfl rfl
      unfold ipv6Rejected
      rw [ruleMatches_set (by simp), Bool.and_eq_true, itemMatches_google,
        ruleMatches_ipv6Reject]
      exact ⟨fun h => ⟨h.2, hallow, fun _ => ⟨.inl ha, h.1⟩⟩, fun h => ⟨(h.2.2 hg).2, h.1⟩⟩
    · have hport : itemMatches core c (egressMeta d active c) "port" (.num 443) = true ↔
          c.port = 443 := by
        simp only [itemMatches_port, Json.nums_num, List.contains_iff_mem, List.mem_singleton]
        omega
      rw [if_pos (by simpa using ha), FirstMatch.eval_cons_guard [] (act_reject
        (by simp [Json.set_object, ruleAction_object, Json.lookup_cons_ite])),
        FirstMatch.eval_nil]
      refine if_congr ?_ rfl rfl
      unfold ipv6Rejected
      rw [Json.set_object, ruleMatches_set (by simp), ← Json.set_object,
        ruleMatches_set (by simp), Bool.and_eq_true, Bool.and_eq_true, itemMatches_google,
        ruleMatches_ipv6Reject, hport]
      constructor
      · rintro ⟨hp, hn, hv6⟩
        exact ⟨hv6, hallow, fun _ => ⟨.inr hp, hn⟩⟩
      · rintro ⟨hv6, -, hboth⟩
        exact ⟨(hboth hg).1.resolve_left ha, (hboth hg).2, hv6⟩
  · simp only [if_neg hg]
    rw [FirstMatch.eval_cons_guard [] (act_reject
      (by simp [ruleAction_object, Json.lookup_cons_ite])), FirstMatch.eval_nil]
    refine if_congr ?_ rfl rfl
    unfold ipv6Rejected
    rw [ruleMatches_ipv6Reject]
    exact ⟨fun h => ⟨h, hallow, fun h' => absurd h' hg⟩, fun h => h.1⟩

theorem act_hairpinRoute :
    act core c m hairpinRouteRule =
      if googleNamed core c m then .stop (.route HAIRPIN_TAG) else .pass m := by
  unfold hairpinRouteRule
  rw [@act_route core c m _ HAIRPIN_TAG (by simp [ruleAction_object, Json.lookup_cons_ite])
    (by simp [ruleOutbound_object])]
  refine if_congr ?_ rfl rfl
  simp [ruleMatches_object, lastWins, googleNamed]

theorem eval_exitEgress
    (hspoof : active = true → d.googleEgressTlsSpoof = none) :
    (match eval (act core c) ⟨none, true⟩
        (exitEgressRules d active ++ if active then [hairpinRouteRule] else []) with
      | .stop verdict => verdict
      | .pass _ => Decision.direct) =
      if ipv6Rejected core d active c then .reject
      else if active = true ∧ googleNamed core c (egressMeta d active c) then .route HAIRPIN_TAG
      else .direct := by
  unfold exitEgressRules
  rw [List.append_assoc, List.append_assoc, eval_append_pass _ eval_ipv6Sniff, eval_append,
    eval_ipv6Reject]
  by_cases hr : ipv6Rejected core d active c
  · simp only [if_pos hr]
  simp only [if_neg hr]
  by_cases ha : active = true
  · -- a hairpin excludes the spoof rules, so what was sniffed is still known
    have hs : spoofRules d = [] := by simp [spoofRules, hspoof ha]
    rw [hs, List.nil_append, if_pos ha]
    by_cases hg : googleNamed core c (egressMeta d active c)
    · rw [FirstMatch.eval_cons_stop _ (by rw [act_hairpinRoute, if_pos hg]), if_pos ⟨ha, hg⟩]
    · rw [FirstMatch.eval_cons_pass _ (by rw [act_hairpinRoute, if_neg hg]),
        if_neg fun h => hg h.2]
      rfl
  · obtain ⟨s, hs⟩ := @eval_spoofRules core c (egressMeta d active c) d
    rw [if_neg ha, List.append_nil, hs, if_neg fun h => ha h.1]

theorem eval_probePrefix (rest : List Json) :
    eval (act core c) Meta.start
        ((if probeIds users now = [] then []
          else exitLoopbackRule d (probeIds users now) ::
            probeConfinementRules (probeIds users now)) ++ rest) =
      if c.user ∈ probeIds users now then
        .stop (if loopbackSelftest d c Meta.start ∨ probeAllowed core c Meta.start then .direct
          else .reject)
      else eval (act core c) Meta.start rest := by
  by_cases hids : probeIds users now = []
  · rw [if_pos hids, List.nil_append, if_neg]
    rw [hids]
    exact List.not_mem_nil
  rw [if_neg hids, List.cons_append, FirstMatch.eval_cons_guard _ (act_exitLoopback d _),
    eval_append, eval_probeRules]
  by_cases hu : c.user ∈ probeIds users now
  · by_cases hloop : loopbackSelftest d c Meta.start
    · rw [if_pos ⟨hu, hloop⟩, if_pos hu, if_pos (.inl hloop)]
    · simp only [hloop, and_false, if_false, false_or, if_pos hu]
  · simp only [if_neg fun h : c.user ∈ probeIds users now ∧ loopbackSelftest d c Meta.start =>
      hu h.1, if_neg hu]

theorem decideBy_exitRules (hin : c.inbound ∈ INBOUND_TAGS)
    (hspoof : active = true → d.googleEgressTlsSpoof = none) :
    decideBy core c (exitRules d users now active) "direct" =
      exitPolicy core d users now active c := by
  unfold decideBy exitRules exitPolicy
  rw [eval_probePrefix]
  -- a probe principal never gets behind its confinement
  by_cases hu : c.user ∈ probeIds users now
  · simp only [if_pos hu]
  simp only [if_neg hu]
  rw [eval_append, eval_c16Rules hin]
  by_cases hd : egressDenied d.ownAddresses c
  · rw [if_pos (Or.inl hd)]
    unfold DeploymentConfig.ownAddresses at hd
    simp only [if_pos hd]
  · have hd' := hd
    unfold DeploymentConfig.ownAddresses at hd'
    simp only [if_neg hd', hd, false_or]
    exact eval_exitEgress hspoof

end Refinement

section Rendered

variable {ext : External} {core : Core} {d : DeploymentConfig} {users : List CompatUser}
  {reality : RealityServerParams} {hysteria : Hysteria2ServerParams} {now : Int} {doc : Json}
  {c : Conn}

theorem exit_inboundTags (hrole : d.role = .exit)
    (h : renderServerConfigForDeployment ext d users reality hysteria now = .ok doc) :
    inboundTags doc = INBOUND_TAGS :=
  (tags_of_inbounds (exit_document hrole h).2.2.2 (base_tags users reality hysteria _ now)).1

theorem exit_decision (hrole : d.role = .exit)
    (h : renderServerConfigForDeployment ext d users reality hysteria now = .ok doc)
    (hin : c.inbound ∈ INBOUND_TAGS) :
    decision core doc c = exitPolicy core d users now (hairpinActive d reality) c := by
  obtain ⟨hrules, hfinal, -, -⟩ := exit_document hrole h
  have hout : finalOutbound doc = "direct" := by
    rw [finalOutbound, hfinal]
    rfl
  rw [decision, hrules, hout]
  refine decideBy_exitRules hin fun hactive => ?_
  -- the file may not combine a hairpin with the spoof
  simp only [hairpinActive, Bool.and_eq_true] at hactive
  exact DeploymentConfig.spoof_of_hairpin (render_checks h).1 hactive.1

/-- Whatever sections an exit has, nothing but a probe account reaches a denied range, the
    node itself, or the SMTP port. -/
theorem exit_isolation (hrole : d.role = .exit)
    (h : renderServerConfigForDeployment ext d users reality hysteria now = .ok doc)
    (hin : c.inbound ∈ inboundTags doc)
    (hcustomer : ∀ u ∈ users, u.isReservedProbe = true → c.user ∉ u.activePrincipalIds now)
    (hden : (∃ a ∈ c.allAddresses, c16Denied a = true ∨ a ∈ d.ownAddresses) ∨
      (c.network = .tcp ∧ c.port = 25)) :
    decision core doc c = .reject := by
  rw [exit_inboundTags hrole h] at hin
  have hu : c.user ∉ probeIds users now := fun hmem => by
    obtain ⟨u, hu, hflag, hp⟩ := mem_principalsOf.mp hmem
    exact hcustomer u hu hflag hp
  rw [exit_decision hrole h hin, exitPolicy, if_neg hu, if_pos (.inl hden)]

/-- The sample exit isolates the node it runs on. -/
theorem exit_isolation_loopback :
    ∃ doc, renderServerConfigForDeployment sampleExternal sampleExit [sampleUser] sampleReality
        sampleHysteria 0 = .ok doc ∧
      decision sampleCore doc { sampleConn with dest := .addr (.v4 0x7f000001) } = .reject := by
  obtain ⟨doc, hdoc⟩ := sampleExit_renders [sampleUser] sampleReality 0 rfl
  refine ⟨doc, hdoc, exit_isolation rfl hdoc ?_ (by decide)
    (.inl ⟨.v4 0x7f000001, List.mem_cons_self, .inl (by decide)⟩)⟩
  rw [exit_inboundTags rfl hdoc]
  decide

theorem hairpinOutbound_tag (hairpin : GoogleEgressHairpinSection) (uuid : String) :
    (hairpinOutbound hairpin uuid).idx "tag" = .str HAIRPIN_TAG := by
  simp [hairpinOutbound, Json.idx_object, Json.lookup_cons_ite]

theorem hairpinActive_of_load {keys : KeyDirectory} {text : String}
    (hsection : d.googleEgressHairpin.isSome = true)
    (hkeys : keys.googleEgressHairpinUuid = .ok text)
    (hload : loadRealityParams ext d keys = .ok reality) : hairpinActive d reality = true := by
  rw [hairpinActive, hsection, hairpinUuid_of_load hload, hkeys]
  rfl

/-- The connection asks for one name, its first bytes carry another, and the one that domain
    items compare is no Google name. -/
def Conn.Fronted (core : Core) (c : Conn) : Prop :=
  c.requested ≠ none ∧ c.sniff [] ≠ none ∧
    ∀ n ∈ core.hosts c.requested (c.sniff []), underSuffix GOOGLE_EGRESS_DOMAINS n = false

/-- A Google name that is requested or sniffed is compared, unless the connection is fronted. -/
theorem googleNamed_of_not_fronted {n : String} (hname : c.requested = some n ∨ c.sniff [] = some n)
    (hgoogle : underSuffix GOOGLE_EGRESS_DOMAINS n = true) (hfront : ¬ c.Fronted core) :
    ∃ n ∈ core.hosts c.requested (c.sniff []), underSuffix GOOGLE_EGRESS_DOMAINS n = true := by
  by_contra hnone
  simp only [not_exists, not_and, Bool.not_eq_true] at hnone
  -- a connection with one name only has that name compared
  have hone : n ∉ core.hosts c.requested (c.sniff []) := fun hn => by
    rw [hnone n hn] at hgoogle
    cases hgoogle
  refine hfront ⟨fun hr => hone ?_, fun hs => hone ?_, hnone⟩
  · rw [hr, core.hosts_sniffed, hname.resolve_left (by simp [hr])]
    exact List.mem_singleton.mpr rfl
  · rw [hs, core.hosts_requested, hname.resolve_right (by simp [hs])]
    exact List.mem_singleton.mpr rfl

def sampleKeys (uuid : FileRead) : KeyDirectory :=
  ⟨.ok samplePrivateKey, .ok samplePublicKey, .ok "ab", uuid⟩

/-- Asks for google.com, and names another site in its first bytes. -/
def frontedConn : Conn :=
  { sampleConn with dest := .name "google.com", sniff := fun _ => some "example.com" }

end Rendered

end SingboxVpn
