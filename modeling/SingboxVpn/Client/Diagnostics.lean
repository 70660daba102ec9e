import SingboxVpn.Client.Withdrawal

/-!
# The diagnostic profiles

A document names the diagnostic profiles that a client may ask for.

* `given_tcpOnly`, `given_visionOff` — the endpoints of a profile, from those of the production
  document.
* `diagnostics_servable` — this holds exactly when the profile without Hysteria2 has a route left.
-/

namespace SingboxVpn

/-- The transport that a listener's parameters are for. -/
def PublicParameters.transport : PublicParameters → CompatTransport
  | .reality .. => .vlessReality
  | .hysteria2 .. => .hysteria2

/-! ### The transport of an endpoint -/

section Transport

variable {user : CompatUser} {served : List CompatEndpoint} {mode : DiagnosticMode}

variable {ep : CompatEndpoint}

theorem transportParams_transport {flow : VlessFlow} {credential : Option PeerCredential}
    {params : TransportParams} (h : transportParams user ep flow credential = .ok params) :
    params.transport = ep.publicParameters.transport := by
  unfold transportParams at h
  cases hpublic : ep.publicParameters with
  | reality publicKeyHex shortId fingerprint =>
    rw [hpublic] at h
    rcases credential with _ | _ | _ <;> cases h <;> rfl
  | hysteria2 obfsPassword =>
    rw [hpublic] at h
    rcases credential with _ | _ | _ <;> cases h <;> rfl

theorem provisioningEndpoint_transport {built : Endpoint}
    (h : provisioningEndpoint mode user ep = .ok (some built)) :
    built.params.transport = ep.publicParameters.transport := by
  unfold provisioningEndpoint at h
  split at h
  · cases h
  · cases horigin : ep.origin with
    | «local» =>
      simp only [contractEndpointOpt, horigin] at h
      obtain ⟨params, hparams, hbuilt⟩ := Check.bind_eq_ok.mp h
      cases hbuilt
      exact transportParams_transport hparams
    | peer =>
      simp only [contractEndpointOpt, horigin] at h
      split at h
      · cases h
      · obtain ⟨credential, -, h⟩ := Check.bind_eq_ok.mp h
        obtain ⟨params, hparams, hbuilt⟩ := Check.bind_eq_ok.mp h
        cases hbuilt
        exact transportParams_transport hparams

theorem served_transport {ext : External} {d : DeploymentConfig} {publicKey shortId : String}
    {obfs : Option String} (hserved : d.servedEndpoints ext publicKey shortId obfs = .ok served) :
    ∀ s ∈ served, s.publicParameters.transport = s.transport := by
  obtain ⟨peers, rfl, -, -, hpeers⟩ := served_ok hserved
  rw [List.forall_mem_append]
  constructor
  · intro s hs
    have hstandard := (own_sublist d publicKey shortId obfs).subset hs
    simp only [standardEndpoints, List.mem_cons, List.not_mem_nil, or_false] at hstandard
    rcases hstandard with rfl | rfl <;> rfl
  · intro s hs
    obtain ⟨peer, -, hok⟩ := hpeers s hs
    simp only [PeerEndpointSection.toCompatEndpoint, Check.bind_ok, Except.ok.injEq] at hok
    obtain ⟨-, rfl⟩ := hok
    cases hpeer : peer.transport <;> rfl

end Transport

/-! ### The endpoints of a profile -/

def TransportParams.dropFlow : TransportParams → TransportParams
  | .vlessReality uuid _ reality => .vlessReality uuid none reality
  | .hysteria2 password obfs => .hysteria2 password obfs

def Endpoint.dropFlow (ep : Endpoint) : Endpoint := { ep with params := ep.params.dropFlow }

section Given

variable {user : CompatUser} {served : List CompatEndpoint} {given : List Endpoint}

theorem given_tcpOnly (htransport : ∀ s ∈ served, s.publicParameters.transport = s.transport)
    (hgiven : (ClientRenderer.provisioning .none).endpoints user served = .ok given) :
    (ClientRenderer.provisioning .tcpOnly).endpoints user served =
      .ok (given.filter Endpoint.isVless) := by
  refine Check.collect_filter (fun s => s.transport == .vlessReality) hgiven ?_ ?_
  · intro s _
    show provisioningEndpoint .tcpOnly user s = if _ then provisioningEndpoint .none user s else _
    cases hs : s.transport <;> simp [provisioningEndpoint, hs]
  · intro s hs built hbuilt
    rw [Endpoint.isVless, provisioningEndpoint_transport hbuilt, htransport s hs]

theorem transportParams_visionOff (user : CompatUser) (ep : CompatEndpoint) (flow : VlessFlow)
    (credential : Option PeerCredential) :
    transportParams user ep .visionOff credential =
      (transportParams user ep flow credential).map TransportParams.dropFlow := by
  unfold transportParams
  cases ep.publicParameters <;> rcases credential with _ | _ | _ <;> rfl

theorem contractEndpointOpt_visionOff (user : CompatUser) (ep : CompatEndpoint) :
    contractEndpointOpt user ep .visionOff none =
      (contractEndpointOpt user ep .vision none).map (Option.map Endpoint.dropFlow) := by
  have hflow : ∀ credential, transportParams user ep .visionOff credential =
      (transportParams user ep (if ep.vlessFlow = .none then .visionOff else .vision)
        credential).map TransportParams.dropFlow :=
    fun credential => transportParams_visionOff user ep _ credential
  simp only [contractEndpointOpt, ite_self, hflow]
  cases ep.origin with
  | «local» =>
    cases transportParams user ep (if ep.vlessFlow = .none then .visionOff else .vision) none <;> rfl
  | peer =>
    cases user.peerCredentials.lookup (ep.credentialRef.getD ep.id) with
    | none => rfl
    | some credential =>
      simp only
      cases resolveCredential user ep credential with
      | error e => rfl
      | ok credential =>
        show (_ : Except CompatError (Option Endpoint)) = _
        simp only [bind, Except.bind]
        cases transportParams user ep (if ep.vlessFlow = .none then .visionOff else .vision)
          (some credential) <;> rfl

theorem given_visionOff (htransport : ∀ s ∈ served, s.publicParameters.transport = s.transport)
    (hgiven : (ClientRenderer.provisioning .none).endpoints user served = .ok given) :
    (ClientRenderer.provisioning .visionOff).endpoints user served =
      .ok (given.map Endpoint.dropFlow) := by
  refine Check.collect_map hgiven fun s hs => ?_
  show provisioningEndpoint .visionOff user s = (provisioningEndpoint .none user s).map _
  cases hkind : s.transport with
  | vlessReality =>
    simp only [provisioningEndpoint, hkind, reduceCtorEq, and_false, and_true, if_false, if_true]
    exact contractEndpointOpt_visionOff user s
  | hysteria2 =>
    have hsame : provisioningEndpoint .visionOff user s = provisioningEndpoint .none user s := by
      simp [provisioningEndpoint, hkind]
    rw [hsame]
    obtain ⟨o, ho⟩ := Check.ok_of_collect hgiven hs
    have hok : provisioningEndpoint .none user s = .ok o := ho
    rw [hok]
    cases o with
    | none => rfl
    | some built =>
      -- there is no flow to drop
      have hparams := provisioningEndpoint_transport hok
      rw [htransport s hs, hkind] at hparams
      obtain ⟨id, tag, host, port, serverName, domain, region, provider, asn, path, params⟩ := built
      cases params with
      | vlessReality uuid flow reality => cases hparams
      | hysteria2 password obfs => rfl

end Given

/-! ### The checks do not depend on the flow -/

section DropFlow

variable {given : List Endpoint} {accessPaths : List AccessPath} {ep : Endpoint}

@[simp] theorem isVless_dropFlow (ep : Endpoint) : ep.dropFlow.isVless = ep.isVless := by
  unfold Endpoint.dropFlow Endpoint.isVless
  cases ep.params <;> rfl

theorem selectableOf_map (accessPaths : List AccessPath) (given : List Endpoint) :
    selectableOf accessPaths (given.map Endpoint.dropFlow) =
      (selectableOf accessPaths given).map Endpoint.dropFlow := by
  rw [selectableOf, List.filter_map]
  rfl

theorem endpointById_map (given : List Endpoint) (id : String) :
    endpointById (given.map Endpoint.dropFlow) id =
      (endpointById given id).map Endpoint.dropFlow := by
  rw [endpointById, ← List.map_reverse, List.find?_map]
  rfl

theorem firstHop_map (given : List Endpoint) (accessPaths : List AccessPath) (ep : Endpoint)
    (pathId : String) :
    firstHop (given.map Endpoint.dropFlow) accessPaths ep.dropFlow pathId =
      (firstHop given accessPaths ep pathId).map Endpoint.dropFlow := by
  unfold firstHop
  cases pathById accessPaths pathId with
  | none => rfl
  | some path =>
    simp only
    by_cases hkind : path.kind ≠ .relay
    · rw [if_pos hkind, if_pos hkind]
      rfl
    · rw [if_neg hkind, if_neg hkind]
      cases path.viaEndpointId with
      | none => rfl
      | some viaId =>
        simp only [endpointById_map]
        cases endpointById given viaId with
        | none => rfl
        | some via =>
          simp only [Option.map_some, isVless_dropFlow]
          show (Check.refuseIf (via.id == ep.id) _ >>= fun _ => _) = _
          cases via.id == ep.id with
          | true => rfl
          | false => cases !ep.isVless || !via.isVless <;> rfl

theorem hopOf_map (selectable : List String) (given : List Endpoint)
    (accessPaths : List AccessPath) (ep : Endpoint) :
    hopOf (given.map Endpoint.dropFlow) selectable accessPaths ep.dropFlow =
      (hopOf given selectable accessPaths ep).map (Option.map Endpoint.dropFlow) := by
  have hpath : relayPathOf selectable accessPaths ep.dropFlow =
      relayPathOf selectable accessPaths ep := rfl
  unfold hopOf
  rw [hpath]
  cases relayPathOf selectable accessPaths ep with
  | none => rfl
  | some pathId =>
    simp only [firstHop_map]
    cases firstHop given accessPaths ep pathId <;> rfl

theorem validate_dropFlow (h : ep.validate = .ok ()) : ep.dropFlow.validate = .ok () := by
  obtain ⟨id, tag, host, port, serverName, domain, region, provider, asn, path, params⟩ := ep
  cases params with
  | hysteria2 password obfs => exact h
  | vlessReality uuid flow reality =>
    simp only [Endpoint.validate, Endpoint.validateParams, Check.bind_ok, Check.onSome_ok] at h
    simp only [Endpoint.dropFlow, TransportParams.dropFlow, Endpoint.validate,
      Endpoint.validateParams, Check.bind_ok, Check.onSome_ok]
    obtain ⟨hid, htag, hhost, hname, hdial, hport, huuid, -, hreality⟩ := h
    exact ⟨hid, htag, hhost, hname, hdial, hport, huuid, by simp, hreality⟩

theorem dialable_dropFlow (h : Dialable ep) : Dialable ep.dropFlow := by
  intro s hs
  refine h s ?_
  obtain ⟨id, tag, host, port, serverName, domain, region, provider, asn, path, params⟩ := ep
  cases params with
  | hysteria2 password obfs => exact hs
  | vlessReality uuid flow reality =>
    simp only [Endpoint.dropFlow, TransportParams.dropFlow, Endpoint.dialTexts, List.mem_append] at hs ⊢
    rcases hs with hs | hs | hs
    · exact .inl hs
    · exact .inr (.inl hs)
    · cases hs

theorem optionalMember_keys (key : String) (value : Option String) :
    ((optionalMember key value).map Prod.fst).Sublist [key] := by
  cases value <;> simp [optionalMember]

theorem endpointKeys_nodup (id tag host : String) (port : Nat) (serverName : String)
    (domain region provider asn path : Option String) (params : TransportParams) :
    (([("id", Json.str id), ("tag", .str tag), ("host", .str host), ("port", .num port),
        ("server_name", .str serverName)] ++
      optionalMember "failure_domain" domain ++ optionalMember "region" region ++
      optionalMember "provider" provider ++ optionalMember "asn" asn ++
      optionalMember "path" path ++ params.members).map Prod.fst).Nodup := by
  have hbase : (([("id", Json.str id), ("tag", .str tag), ("host", .str host), ("port", .num port),
        ("server_name", .str serverName)] ++
      optionalMember "failure_domain" domain ++ optionalMember "region" region ++
      optionalMember "provider" provider ++ optionalMember "asn" asn ++
      optionalMember "path" path).map Prod.fst).Sublist
        (["id", "tag", "host", "port", "server_name"] ++ ["failure_domain"] ++ ["region"] ++
          ["provider"] ++ ["asn"] ++ ["path"]) := by
    simp only [List.map_append]
    exact (((((List.Sublist.refl _).append (optionalMember_keys _ _)).append
      (optionalMember_keys _ _)).append (optionalMember_keys _ _)).append
      (optionalMember_keys _ _)).append (optionalMember_keys _ _)
  rw [List.map_append]
  cases params with
  | vlessReality uuid flow reality =>
    have hmembers : ((TransportParams.vlessReality uuid flow reality).members.map
        Prod.fst).Sublist (["transport", "uuid", "reality"] ++ ["flow"]) := by
      rw [TransportParams.members, List.map_append]
      exact (List.Sublist.refl _).append (optionalMember_keys _ _)
    exact (hbase.append hmembers).nodup (by decide)
  | hysteria2 password obfs =>
    have hmembers : ((TransportParams.hysteria2 password obfs).members.map Prod.fst).Sublist
        (["transport", "password"] ++ ["obfs"]) := by
      rw [TransportParams.members, List.map_append]
      refine (List.Sublist.refl _).append ?_
      cases obfs <;> simp
    exact (hbase.append hmembers).nodup (by decide)

theorem isClean_dropFlow (h : IsClean ep.toValue) : IsClean ep.dropFlow.toValue := by
  obtain ⟨id, tag, host, port, serverName, domain, region, provider, asn, path, params⟩ := ep
  cases params with
  | hysteria2 password obfs => exact h
  | vlessReality uuid flow reality =>
    rw [Endpoint.toValue, isClean_object (endpointKeys_nodup _ _ _ _ _ _ _ _ _ _ _)] at h ⊢
    intro p hp
    refine h p ?_
    simp only [Endpoint.dropFlow, TransportParams.dropFlow, TransportParams.members,
      List.mem_append] at hp ⊢
    rcases hp with hp | hp | hp
    · exact .inl hp
    · exact .inr (.inl hp)
    · cases hp

theorem servable_dropFlow (h : Servable accessPaths given) :
    Servable accessPaths (given.map Endpoint.dropFlow) := by
  refine ⟨h.paths, h.cleanPaths, ?_, ?_, ?_⟩
  · rw [selectableOf_map, List.forall_mem_map]
    exact fun ep hep => validate_dropFlow (h.valid ep hep)
  · rw [selectableOf_map, List.forall_mem_map]
    exact fun ep hep => isClean_dropFlow (h.clean ep hep)
  · rw [List.forall_mem_map]
    exact fun ep hep => dialable_dropFlow (h.dialable ep hep)

end DropFlow

/-! ### What is advertised -/

def diagnosticProfiles : List (DiagnosticMode × ExperimentalCapability) :=
  [(.tcpOnly, .tcpOnly), (.visionOff, .visionOff)]

def DiagnosticsServable (user : CompatUser) (served : List CompatEndpoint)
    (accessPaths : List AccessPath) (doc : ProvisioningDocument) : Prop :=
  ∀ p ∈ diagnosticProfiles, p.2 ∈ doc.experimentalCapabilities →
    ∃ doc', provisioningDocumentWithModeAndAccessPaths user served p.1 accessPaths = .ok doc' ∧
      doc'.endpoints ≠ []

def VlessSelectable (user : CompatUser) (served : List CompatEndpoint)
    (accessPaths : List AccessPath) : Prop :=
  (∃ s ∈ served, s.transport = .vlessReality) →
    ∃ s ∈ served, s.transport = .vlessReality ∧ s.id ∉ infrastructureEndpointIds accessPaths ∧
      user.holds s = true

section Diagnostics

variable {user : CompatUser} {served : List CompatEndpoint} {accessPaths : List AccessPath}
  {doc : ProvisioningDocument} {given : List Endpoint} {routes : List Route} {acc : Accumulated}

variable {profile : SelectionProfile}

theorem experimental_of_ok {mode : DiagnosticMode} {compat : CompatibilityMode}
    (hdoc : provisioningDocumentWithModeAndAccessPathsAndOptions user served mode accessPaths
      profile compat = .ok doc) :
    (.tcpOnly ∈ doc.experimentalCapabilities ↔ ∃ s ∈ served, s.transport = .vlessReality) := by
  obtain ⟨config, heq⟩ := assembled_of_ok hdoc
  rw [heq]
  show .tcpOnly ∈ experimentalCapabilitiesOf user served ↔ _
  unfold experimentalCapabilitiesOf
  split
  · next hany => simpa using hany
  · next hany => simpa using hany

theorem selectable_of_ok {mode : DiagnosticMode} {compat : CompatibilityMode}
    (hdoc : provisioningDocumentWithModeAndAccessPathsAndOptions user served mode accessPaths
      profile compat = .ok doc)
    (hgiven : (ClientRenderer.provisioning mode).endpoints user served = .ok given) :
    selectableOf accessPaths given ≠ [] := by
  intro hnil
  rw [document_of_no_selectable hgiven hnil] at hdoc
  cases hdoc

theorem hopOf_vless {all : List Endpoint} {selectable : List String} {ep via : Endpoint}
    (h : hopOf all selectable accessPaths ep = .ok (some via)) : via.isVless = true := by
  obtain ⟨pathId, -, hfirst⟩ := hopOf_some_iff.mp h
  obtain ⟨_, _, -, -, -, -, -, -, hvless⟩ := firstHop_iff.mp hfirst
  exact hvless

theorem vless_selectable_iff
    (htransport : ∀ s ∈ served, s.publicParameters.transport = s.transport)
    (hgiven : (ClientRenderer.provisioning .none).endpoints user served = .ok given) :
    (selectableOf accessPaths given).filter Endpoint.isVless ≠ [] ↔
      ∃ s ∈ served, s.transport = .vlessReality ∧ s.id ∉ infrastructureEndpointIds accessPaths ∧
        user.holds s = true := by
  have hvless : ∀ s ∈ served, ∀ ep, provisioningEndpoint .none user s = .ok (some ep) →
      (ep.isVless = true ↔ s.transport = .vlessReality) := by
    intro s hs ep hok
    rw [Endpoint.isVless, provisioningEndpoint_transport hok, htransport s hs, beq_iff_eq]
  constructor
  · intro hne
    obtain ⟨ep, hep⟩ := List.exists_mem_of_ne_nil _ hne
    obtain ⟨hsel, hv⟩ := List.mem_filter.mp hep
    obtain ⟨hmem, hinfra⟩ := List.mem_filter.mp hsel
    obtain ⟨s, hs, hok⟩ := (Check.mem_collect hgiven).mp hmem
    rw [(provisioningEndpoint_some hok).1] at hinfra
    exact ⟨s, hs, (hvless s hs ep hok).mp hv, by simpa using hinfra,
      ((given_iff hgiven hs).mp ⟨ep, hok⟩).1⟩
  · rintro ⟨s, hs, hkind, hinfra, hholds⟩
    obtain ⟨ep, hok⟩ := (given_iff hgiven hs).mpr ⟨hholds, by simp⟩
    have hmem : ep ∈ given := (Check.mem_collect hgiven).mpr ⟨s, hs, hok⟩
    refine List.ne_nil_of_mem (List.mem_filter.mpr ⟨List.mem_filter.mpr ⟨hmem, ?_⟩,
      (hvless s hs ep hok).mpr hkind⟩)
    rw [(provisioningEndpoint_some hok).1]
    simpa using hinfra

/-- The profile without Hysteria2 is served exactly when a VLESS route is left in it. -/
theorem tcpOnly_served_iff (hoffered : Offered accessPaths served)
    (htransport : ∀ s ∈ served, s.publicParameters.transport = s.transport)
    (hdoc : provisioningDocumentWithModeAndAccessPaths user served .none accessPaths = .ok doc) :
    (∃ doc', provisioningDocumentWithModeAndAccessPaths user served .tcpOnly accessPaths = .ok doc' ∧
      doc'.endpoints ≠ []) ↔
      ∃ s ∈ served, s.transport = .vlessReality ∧ s.id ∉ infrastructureEndpointIds accessPaths ∧
        user.holds s = true := by
  obtain ⟨given, routes, acc, set, hgiven, hprov, hrendered⟩ := rendered_of_ok hdoc
  have htcp := given_tcpOnly htransport hgiven
  rw [← vless_selectable_iff htransport hgiven, ← selectableOf_filter]
  constructor
  · rintro ⟨doc', hok, -⟩
    exact selectable_of_ok hok htcp
  · intro hne
    obtain ⟨htags, hres⟩ := given_told_apart hoffered hgiven
    have hids := given_ids hoffered hgiven
    have hs := servable_of_ok (by decide) hdoc hprov
    have hsel : ∀ ep ∈ selectableOf accessPaths (given.filter Endpoint.isVless),
        ep ∈ selectableOf accessPaths given := by
      intro ep hep
      rw [selectableOf_filter] at hep
      exact List.mem_of_mem_filter hep
    -- a first hop is a VLESS endpoint, so that it is left with the routes through it
    have hkept : ∀ r ∈ routes, r.endpoint.isVless = true → ∀ via ∈ r.hop, via.isVless = true :=
      fun r hr _ via hvia => hopOf_vless (hvia ▸ hrendered.hops r hr)
    obtain ⟨doc', hok, hendpoints⟩ : ∃ doc', provisioningDocumentWithModeAndAccessPaths user served
        .tcpOnly accessPaths = .ok doc' ∧
          doc'.endpoints = selectableOf accessPaths (given.filter Endpoint.isVless) :=
      document_ok (by decide) htcp
      ((List.filter_sublist.map _).nodup hids) ((List.filter_sublist.map _).nodup htags)
      (fun ep hep => hres ep (List.mem_of_mem_filter hep)) (hopOf_left hrendered hkept) hne
      ⟨hs.paths, hs.cleanPaths, fun ep hep => hs.valid ep (hsel ep hep),
        fun ep hep => hs.clean ep (hsel ep hep),
        fun ep hep => hs.dialable ep (List.mem_of_mem_filter hep)⟩
    exact ⟨doc', hok, by rw [hendpoints]; exact hne⟩

theorem visionOff_served (hoffered : Offered accessPaths served)
    (htransport : ∀ s ∈ served, s.publicParameters.transport = s.transport)
    (hdoc : provisioningDocumentWithModeAndAccessPaths user served .none accessPaths = .ok doc) :
    ∃ doc', provisioningDocumentWithModeAndAccessPaths user served .visionOff accessPaths =
      .ok doc' ∧ doc'.endpoints ≠ [] := by
  obtain ⟨given, routes, acc, set, hgiven, hprov, hrendered⟩ := rendered_of_ok hdoc
  obtain ⟨htags, hres⟩ := given_told_apart hoffered hgiven
  have hids := given_ids hoffered hgiven
  have hs := servable_of_ok (by decide) hdoc hprov
  have hne : selectableOf accessPaths (given.map Endpoint.dropFlow) ≠ [] := by
    rw [selectableOf_map]
    simpa using selectable_of_ok hdoc hgiven
  have hhops : ∀ ep ∈ given.map Endpoint.dropFlow, ∃ hop, hopOf (given.map Endpoint.dropFlow)
      ((selectableOf accessPaths (given.map Endpoint.dropFlow)).map (·.id)) accessPaths ep =
        .ok hop := by
    rw [List.forall_mem_map]
    intro ep hep
    obtain ⟨r, hr, rfl⟩ := List.mem_map.mp (hrendered.endpoints ▸ hep)
    refine ⟨r.hop.map Endpoint.dropFlow, ?_⟩
    rw [selectableOf_map, List.map_map, hopOf_map,
      show ((·.id) ∘ Endpoint.dropFlow) = fun ep : Endpoint => ep.id from rfl, hrendered.hops r hr]
    rfl
  obtain ⟨doc', hok, hendpoints⟩ : ∃ doc', provisioningDocumentWithModeAndAccessPaths user served
      .visionOff accessPaths = .ok doc' ∧
        doc'.endpoints = selectableOf accessPaths (given.map Endpoint.dropFlow) :=
    document_ok (by decide) (given_visionOff htransport hgiven)
    (by rw [List.map_map]; exact hids) (by rw [List.map_map]; exact htags)
    (by rw [List.forall_mem_map]; exact hres) hhops hne (servable_dropFlow hs)
  exact ⟨doc', hok, by rw [hendpoints]; exact hne⟩

/-- The advertised diagnostic profiles can be served exactly if the user can choose a VLESS endpoint
    wherever one is served. -/
theorem diagnostics_servable {ext : External} {d : DeploymentConfig} {publicKey shortId : String}
    {obfs : Option String} (hd : d.validate ext = .ok ())
    (hserved : d.servedEndpoints ext publicKey shortId obfs = .ok served)
    (hpaths : d.contractAccessPaths = .ok accessPaths)
    (hdoc : provisioningDocumentWithModeAndAccessPaths user served .none accessPaths = .ok doc) :
    DiagnosticsServable user served accessPaths doc ↔ VlessSelectable user served accessPaths := by
  have hoffered := offered_of_validate hd hserved hpaths
  have htransport := served_transport hserved
  have hadvertised := experimental_of_ok hdoc
  constructor
  · intro h hvless
    exact (tcpOnly_served_iff hoffered htransport hdoc).mp
      (h (.tcpOnly, .tcpOnly) (by simp [diagnosticProfiles]) (hadvertised.mpr hvless))
  · intro h p hp hcap
    simp only [diagnosticProfiles, List.mem_cons, List.not_mem_nil, or_false] at hp
    rcases hp with rfl | rfl
    · exact (tcpOnly_served_iff hoffered htransport hdoc).mpr (h (hadvertised.mp hcap))
    · exact visionOff_served hoffered htransport hdoc

end Diagnostics

/-- The profiles of the sample relay can be served. -/
theorem diagnostics_servable_sampleRelay : ∃ served accessPaths doc,
    sampleRelay.servedEndpoints sampleExternal samplePublicKey "ab" none = .ok served ∧
      sampleRelay.contractAccessPaths = .ok accessPaths ∧
      provisioningDocumentWithModeAndAccessPaths samplePeerUser served .none accessPaths = .ok doc ∧
      DiagnosticsServable samplePeerUser served accessPaths doc := by
  obtain ⟨served, accessPaths, doc, hserved, hpaths, hok, -⟩ := provision_any sampleRelay_provision
  refine ⟨served, accessPaths, doc, hserved, hpaths, hok, ?_⟩
  refine (diagnostics_servable sampleRelay_valid hserved hpaths hok).mpr fun _ => ?_
  have hexit : (sampleRelay.servedEndpoints sampleExternal samplePublicKey "ab" none).toOption.any
      (fun served => sampleRelay.contractAccessPaths.toOption.any fun accessPaths =>
        decide (∃ s ∈ served, s.transport = .vlessReality ∧
          s.id ∉ infrastructureEndpointIds accessPaths ∧ samplePeerUser.holds s = true)) = true := by
    decide +kernel
  rw [hserved, hpaths] at hexit
  exact of_decide_eq_true hexit

def sampleQuicPeer : DeploymentConfig :=
  { sampleRelay with
    peerEndpoints := sampleRelay.peerEndpoints ++ [{ samplePeer "quic-1" "Quic 1"
      "quic.example.net" "direct" with
        transport := .hysteria2, realityPublicKey := none, realityShortId := none }] }

def sampleQuicUser : CompatUser :=
  { sampleUser with peerCredentials := [("quic-1", .hysteria2 "secret")] }

theorem sampleQuicPeer_provision : (sampleQuicPeer.provision sampleExternal samplePublicKey "ab" none
    sampleQuicUser .none .reliability .normal).toOption.any
      (fun doc => decide (.tcpOnly ∈ doc.experimentalCapabilities)) = true := by
  decide +kernel

/-- The profile without Hysteria2 is named and has no route. -/
theorem diagnostics_fail_sampleQuicPeer : ∃ served accessPaths doc,
    sampleQuicPeer.validate sampleExternal = .ok () ∧
      sampleQuicPeer.servedEndpoints sampleExternal samplePublicKey "ab" none = .ok served ∧
      sampleQuicPeer.contractAccessPaths = .ok accessPaths ∧
      provisioningDocumentWithModeAndAccessPaths sampleQuicUser served .none accessPaths = .ok doc ∧
      .tcpOnly ∈ doc.experimentalCapabilities ∧
      provisioningDocumentWithModeAndAccessPaths sampleQuicUser served .tcpOnly accessPaths =
        .error .noSelectableRoute := by
  obtain ⟨served, accessPaths, doc, hserved, hpaths, hok, hcap⟩ :=
    provision_any sampleQuicPeer_provision
  refine ⟨served, accessPaths, doc, rfl, hserved, hpaths, hok, of_decide_eq_true hcap, ?_⟩
  have htcp : (sampleQuicPeer.servedEndpoints sampleExternal samplePublicKey "ab" none).toOption.any
      (fun served => sampleQuicPeer.contractAccessPaths.toOption.any fun accessPaths =>
        ((ClientRenderer.provisioning .tcpOnly).endpoints sampleQuicUser served).toOption.any
          fun given => (selectableOf accessPaths given).isEmpty) = true := by
    decide +kernel
  rw [hserved, hpaths] at htcp
  obtain ⟨given, hgiven, hempty⟩ :=
    Check.any_toOption (x := (ClientRenderer.provisioning .tcpOnly).endpoints sampleQuicUser
      served).mp htcp
  exact document_of_no_selectable hgiven (List.isEmpty_iff.mp hempty)

end SingboxVpn
