import SingboxVpn.Client.Render

/-!
# Building the provisioning document

`crates/compat-config/src/contract.rs`: the catalog of one user and the configuration rendered from
the same endpoints.

* `Provisioned`, `provisioned_of_ok` — what a document that is served consists of.
* `Offered`, `offered_of_validate` — what an accepted file makes of the served endpoints.
-/

namespace SingboxVpn

open Text (debug)

/-- The version that this server reports. -/
def SERVER_VERSION : String := "1.4.0"

/-- A mode from its name; unknown ones are refused. -/
def DiagnosticMode.parse (s : String) : Option DiagnosticMode :=
  if s = "none" then some .none
  else if s = "tcp-only" ∨ s = "diag-tcp-only" then some .tcpOnly
  else if s = "vision-off" ∨ s = "diag-vision-off" then some .visionOff
  else none

/-! ### The document -/

/-- A relayed VLESS outbound may carry application UDP again. -/
def restoreOutbound (ob : Json) : Json :=
  if (ob.get? "type").bind Json.asStr = some "vless" ∧ (detourOf ob).isSome = true then
    ob.remove "network"
  else ob

/-- In the pinned mode relayed VLESS outbounds carry UDP again. -/
def restoreApplicationUdpOnRelayedVless (config : Json) (compat : CompatibilityMode) :
    Except CompatError Json :=
  if compat ≠ .hiddifyPinned then .ok config
  else match (config.get? "outbounds").bind Json.asArray with
  | none => .error (.parse "rendered sing-box config has no outbounds array")
  | some outbounds => .ok (config.set "outbounds" (.arr (outbounds.map restoreOutbound)))

def capabilitiesOf (endpoints : List Endpoint) : List Capability :=
  endpoints.foldl
    (fun capabilities ep =>
      let cap := Capability.forTransport ep.transport
      if capabilities.contains cap then capabilities else capabilities ++ [cap])
    []

def experimentalCapabilitiesOf (user : CompatUser) (endpoints : List CompatEndpoint) :
    List ExperimentalCapability :=
  if endpoints.any fun ep => ep.transport == .vlessReality then
    .tcpOnly :: if user.visionOffExperiment then [.visionOff] else []
  else []

def catalogOf (compat : CompatibilityMode) (config : Json) (selectable : List Endpoint) :
    List Endpoint :=
  if compat = .hiddifyPinned then
    selectable.filter fun ep =>
      (config.idx "outbounds").asArray.any fun outbounds =>
        outbounds.any fun ob => tagOf ob == some ep.tag
  else selectable

/-- The document for a diagnostic mode, a selection profile and a compatibility mode. -/
def provisioningDocumentWithModeAndAccessPathsAndOptions (user : CompatUser)
    (endpoints : List CompatEndpoint) (mode : DiagnosticMode) (accessPaths : List AccessPath)
    (profile : SelectionProfile) (compat : CompatibilityMode) :
    Except CompatError ProvisioningDocument := do
  let contractEndpoints ← (ClientRenderer.provisioning mode).endpoints user endpoints
  let infrastructureIds := infrastructureEndpointIds accessPaths
  let selectable := contractEndpoints.filter fun ep => !infrastructureIds.contains ep.id
  Check.refuseIf (selectable.isEmpty && !infrastructureIds.isEmpty) .noSelectableRoute
  let rendered ← renderSingboxConfigFromContractWithAccessPaths contractEndpoints
    (selectable.map (·.id)) accessPaths profile compat
  let config ← restoreApplicationUdpOnRelayedVless rendered compat
  let catalog := catalogOf compat config selectable
  let doc : ProvisioningDocument := {
    schemaVersion := SCHEMA_VERSION
    server := .current SERVER_VERSION
    capabilities := capabilitiesOf catalog
    experimentalCapabilities := experimentalCapabilitiesOf user endpoints
    accessPaths := accessPaths
    endpoints := catalog
    singboxConfig := some config }
  Check.mapError .contract doc.validate
  .ok doc

def DiagnosticMode.compat : DiagnosticMode → CompatibilityMode
  | .tcpOnly => .tcpOnly
  | .visionOff => .visionOff
  | .none => .normal

/-- The document of the first-party route. -/
def provisioningDocumentWithModeAndAccessPaths (user : CompatUser)
    (endpoints : List CompatEndpoint) (mode : DiagnosticMode) (accessPaths : List AccessPath) :
    Except CompatError ProvisioningDocument :=
  provisioningDocumentWithModeAndAccessPathsAndOptions user endpoints mode accessPaths
    .reliability mode.compat

/-! ### What a document consists of -/

/-- The outbounds of the rendered routes in a document, after everything that is done to them. -/
def servedOutbounds (compat : CompatibilityMode) (set : RouteSet) : List Json :=
  if compat = .hiddifyPinned then set.outbounds.map restoreOutbound else set.outbounds

@[simp] theorem get?_config_outbounds (set : RouteSet) (compat : CompatibilityMode) :
    (set.config compat).get? "outbounds" = some (.arr set.allOutbounds) := by
  simp [RouteSet.config, Json.get?_object, Json.lookup_cons_ite]

theorem restore_config {compat : CompatibilityMode} {set : RouteSet} {config : Json}
    (h : restoreApplicationUdpOnRelayedVless (set.config compat) compat = .ok config) :
    config = RouteSet.config { set with outbounds := servedOutbounds compat set } compat := by
  unfold restoreApplicationUdpOnRelayedVless at h
  unfold servedOutbounds
  by_cases hc : compat = .hiddifyPinned
  · rw [if_neg (not_not.mpr hc)] at h
    simp only [get?_config_outbounds, Option.bind_some, Json.asArray_arr, Except.ok.injEq] at h
    -- the groups and the direct outbound are not VLESS, so only the routes change
    have hgroups : set.allOutbounds.map restoreOutbound = set.outbounds.map restoreOutbound ++
        [set.automaticGroup, set.selectorGroup, RouteSet.directOutbound] := by
      simp [RouteSet.allOutbounds, restoreOutbound, RouteSet.automaticGroup,
        RouteSet.selectorGroup, RouteSet.directOutbound, Json.get?_object, Json.lookup_cons_ite]
    rw [← h, hgroups, if_pos hc, RouteSet.config, Json.set_object]
    apply Json.object_eq_of_perm
    exact List.Perm.swap _ _ _
  · rw [if_pos hc] at h
    rw [← Except.ok.inj h, if_neg hc]

theorem Carries.restore {compat : CompatibilityMode} {shown : String → String} {r : Route}
    {ob : Json} (h : Carries compat shown r ob) : Carries compat shown r (restoreOutbound ob) := by
  unfold restoreOutbound
  split
  · have hobj : (ob.remove "network").isObject = true := by
      have := h.isObject
      cases ob <;> simp_all [Json.isObject, Json.remove]
    refine ⟨hobj, ?_, ?_, ?_⟩
    · rw [Json.get?_remove, if_neg (by decide), h.tag]
    · rw [Json.get?_remove, if_neg (by decide), h.detour]
    · intro k hk
      rw [Json.get?_remove, if_neg (by rintro rfl; simp at hk), h.fields k hk]
  · exact h

def selectableOf (accessPaths : List AccessPath) (given : List Endpoint) : List Endpoint :=
  given.filter fun ep => !(infrastructureEndpointIds accessPaths).contains ep.id

structure Provisioned (given : List Endpoint) (accessPaths : List AccessPath)
    (profile : SelectionProfile) (compat : CompatibilityMode) (doc : ProvisioningDocument)
    (routes : List Route) (acc : Accumulated) (set : RouteSet) : Prop where
  endpoints : routes.map Route.endpoint = given
  hops : ∀ r ∈ routes, hopOf given ((selectableOf accessPaths given).map (·.id)) accessPaths
    r.endpoint = .ok r.hop
  built : Built ((selectableOf accessPaths given).map (·.id)) compat routes acc
  groups : pinFor compat (acc.routeSet profile compat) = .ok set
  config : doc.singboxConfig =
    some (RouteSet.config { set with outbounds := servedOutbounds compat set } compat)
  catalog : doc.endpoints = catalogOf compat
    (RouteSet.config { set with outbounds := servedOutbounds compat set } compat)
    (selectableOf accessPaths given)
  accessPaths_eq : doc.accessPaths = accessPaths
  valid : doc.validate = .ok ()

section Document

variable {user : CompatUser} {eps : List CompatEndpoint} {mode : DiagnosticMode}
  {accessPaths : List AccessPath} {profile : SelectionProfile} {compat : CompatibilityMode}
  {doc : ProvisioningDocument} {given : List Endpoint} {routes : List Route} {acc : Accumulated}
  {set : RouteSet}

theorem isDialled_given {ep : Endpoint} (hep : ep ∈ given) :
    isDialled ((selectableOf accessPaths given).map (·.id)) accessPaths ep = true := by
  rw [isDialled, Bool.or_eq_true, List.contains_iff_mem, List.contains_iff_mem]
  by_cases hinfra : ep.id ∈ infrastructureEndpointIds accessPaths
  · exact .inr hinfra
  · exact .inl (List.mem_map_of_mem (List.mem_filter.mpr ⟨hep, by simpa using hinfra⟩))

theorem provisioned_of_ok (h : provisioningDocumentWithModeAndAccessPathsAndOptions user eps mode
    accessPaths profile compat = .ok doc) :
    ∃ given, (ClientRenderer.provisioning mode).endpoints user eps = .ok given ∧
      ∃ routes acc set, Provisioned given accessPaths profile compat doc routes acc set := by
  simp only [provisioningDocumentWithModeAndAccessPathsAndOptions, Check.bind_eq_ok] at h
  obtain ⟨given, hgiven, _, -, rendered, hrendered, config, hconfig, _, hvalid, hdoc⟩ := h
  obtain ⟨routes, acc, set, hbuilt, hmap, hhops, hgroups, rfl⟩ := render_ok hrendered
  obtain rfl := restore_config hconfig
  cases hdoc
  refine ⟨given, hgiven, routes, acc, set, ?_, hhops, hbuilt, hgroups, rfl, rfl, rfl, ?_⟩
  · rw [hmap, List.filter_eq_self]
    exact fun ep hep => isDialled_given hep
  · exact Check.mapError_ok.mp hvalid

end Document

/-! ### The endpoints of a deployment -/

/-- A declared access path in the contract. -/
def AccessPathSection.toContractAccessPath (path : AccessPathSection) :
    Except CompatError AccessPath := do
  path.validate
  .ok {
    id := path.id
    kind := .fromWire path.kind
    viaEndpointId := path.viaEndpointId
    failureDomain := path.failureDomain
    region := path.region
    provider := path.provider
    capabilities := path.capabilities }

/-- The access paths of a deployment file, validated. -/
def DeploymentConfig.contractAccessPaths (d : DeploymentConfig) :
    Except CompatError (List AccessPath) :=
  Check.collect (fun path => path.toContractAccessPath.map some) d.accessPaths

/-- The endpoints that a deployment serves are told apart by ids and labels, no label is the tag of
    a group, and a first hop is reached directly. -/
structure Offered (accessPaths : List AccessPath) (served : List CompatEndpoint) : Prop where
  ids : (served.map CompatEndpoint.id).Nodup
  labels : (served.map CompatEndpoint.label).Nodup
  unreserved : ∀ ep ∈ served, ep.label ∉ ["auto", "select", "direct"]
  infrastructure : ∀ ep ∈ served, ep.id ∈ infrastructureEndpointIds accessPaths →
    ep.path = none ∨ ep.path = some "direct"

section Deployment

variable {ext : External} {d : DeploymentConfig} {publicKey shortId : String}
  {obfs : Option String} {served : List CompatEndpoint} {accessPaths : List AccessPath}

theorem toCompatEndpoint_ok {peer : PeerEndpointSection} {ep : CompatEndpoint}
    (h : peer.toCompatEndpoint ext = .ok ep) :
    ep.id = peer.id ∧ ep.label = peer.tag ∧ ep.path = some peer.path := by
  simp only [PeerEndpointSection.toCompatEndpoint, Check.bind_ok, Except.ok.injEq] at h
  obtain ⟨-, rfl⟩ := h
  exact ⟨rfl, rfl, rfl⟩

theorem served_ok (h : d.servedEndpoints ext publicKey shortId obfs = .ok served) :
    ∃ peers, served = d.ownEndpoints publicKey shortId obfs ++ peers ∧
      (peers.map CompatEndpoint.id).Sublist (d.peerEndpoints.map PeerEndpointSection.id) ∧
      (peers.map CompatEndpoint.label).Sublist (d.peerEndpoints.map PeerEndpointSection.tag) ∧
      ∀ ep ∈ peers, ∃ peer ∈ d.peerEndpoints, peer.toCompatEndpoint ext = .ok ep := by
  obtain ⟨peers, hpeers, hok⟩ := Check.bind_eq_ok.mp h
  cases hok
  -- a peer that is collected is the endpoint it is translated to
  obtain ⟨collected, hpeers, hone⟩ : ∃ collected : PeerEndpointSection → _,
      Check.collect collected d.peerEndpoints = .ok peers ∧
        ∀ peer ep, collected peer = .ok (some ep) → peer.toCompatEndpoint ext = .ok ep := by
    refine ⟨_, hpeers, fun peer ep heq => ?_⟩
    split at heq
    · next endpoint hendpoint =>
      cases heq
      exact hendpoint
    · cases heq
  refine ⟨peers, rfl, ?_, ?_, ?_⟩
  · exact Check.collect_sublist hpeers fun peer ep hep => (toCompatEndpoint_ok (hone peer ep hep)).1
  · exact Check.collect_sublist hpeers fun peer ep hep =>
      (toCompatEndpoint_ok (hone peer ep hep)).2.1
  · intro ep hep
    obtain ⟨peer, hpeer, heq⟩ := (Check.mem_collect hpeers).mp hep
    exact ⟨peer, hpeer, hone peer ep heq⟩

theorem own_sublist (d : DeploymentConfig) (publicKey shortId : String) (obfs : Option String) :
    (d.ownEndpoints publicKey shortId obfs).Sublist
      (standardEndpoints d.publicHost d.reality.listenPort d.hysteria2.listenPort publicKey shortId
        d.reality.handshakeServer obfs) := by
  unfold DeploymentConfig.ownEndpoints
  split
  · exact List.filter_sublist
  · exact List.Sublist.refl _

theorem own_cases {ep : CompatEndpoint} (h : ep ∈ d.ownEndpoints publicKey shortId obfs) :
    ep.id ∈ LOCAL_ENDPOINT_IDS ∧ ep.label ∈ ["Reality", "Hysteria2"] ∧ ep.path = none := by
  have hstandard := (own_sublist d publicKey shortId obfs).subset h
  simp only [standardEndpoints, List.mem_cons, List.not_mem_nil, or_false] at hstandard
  rcases hstandard with rfl | rfl
  · simp [LOCAL_ENDPOINT_IDS, LOCAL_REALITY_ENDPOINT_ID]
  · simp [LOCAL_ENDPOINT_IDS]

theorem accessPath_of_mem (h : d.contractAccessPaths = .ok accessPaths) {path : AccessPath}
    (hpath : path ∈ accessPaths) : ∃ s ∈ d.accessPaths, path.id = s.id ∧
      path.kind = .fromWire s.kind ∧ path.viaEndpointId = s.viaEndpointId := by
  obtain ⟨s, hs, heq⟩ := (Check.mem_collect h).mp hpath
  refine ⟨s, hs, ?_⟩
  cases hcontract : s.toContractAccessPath with
  | error e =>
    rw [hcontract] at heq
    cases heq
  | ok path' =>
    rw [hcontract] at heq
    cases heq
    simp only [AccessPathSection.toContractAccessPath, Check.bind_ok, Except.ok.injEq] at hcontract
    obtain ⟨-, rfl⟩ := hcontract
    exact ⟨rfl, rfl, rfl⟩

/-- The declared first hop of an accepted file is a direct peer, or the node's own listener. -/
theorem direct_of_firstHop (hd : d.validate ext = .ok ()) {s : AccessPathSection}
    (hs : s ∈ d.accessPaths) {peer : PeerEndpointSection} (hpeer : peer ∈ d.peerEndpoints)
    (hvia : s.viaEndpointId = some peer.id) : peer.path = "direct" := by
  obtain ⟨hpeers, hids, -⟩ := DeploymentConfig.peers_of_validate hd
  rcases DeploymentConfig.firstHop_of_validate hd hs hvia with ⟨hown, -⟩ | ⟨hop, hhop, hid, -, h, -⟩
  · exact absurd (by simp [hown, LOCAL_ENDPOINT_IDS, LOCAL_REALITY_ENDPOINT_ID]) (hpeers peer hpeer).id
  · rwa [List.inj_on_of_nodup_map hids hpeer hhop hid.symm]

theorem told_apart_of_validate (hd : d.validate ext = .ok ())
    (hserved : d.servedEndpoints ext publicKey shortId obfs = .ok served) :
    (served.map CompatEndpoint.id).Nodup ∧ (served.map CompatEndpoint.label).Nodup := by
  obtain ⟨haccepted, hids, htags⟩ := DeploymentConfig.peers_of_validate hd
  obtain ⟨peers, rfl, hsubIds, hsubTags, hpeer⟩ := served_ok hserved
  have hown := own_sublist d publicKey shortId obfs
  constructor
  · rw [List.map_append, List.nodup_append]
    refine ⟨(hown.map CompatEndpoint.id).nodup (by simp [standardEndpoints,
      LOCAL_REALITY_ENDPOINT_ID]), hsubIds.nodup hids, ?_⟩
    rintro _ hid _ hid' rfl
    obtain ⟨own, hmem, hidOwn⟩ := List.mem_map.mp hid
    obtain ⟨peer, hmem', hidPeer⟩ := List.mem_map.mp (hsubIds.subset hid')
    exact (haccepted peer hmem').id (hidPeer ▸ hidOwn ▸ (own_cases hmem).1)
  · rw [List.map_append, List.nodup_append]
    refine ⟨(hown.map CompatEndpoint.label).nodup (by simp [standardEndpoints]),
      hsubTags.nodup htags, ?_⟩
    rintro _ hlabel _ hlabel' rfl
    obtain ⟨own, hmem, hlabelOwn⟩ := List.mem_map.mp hlabel
    obtain ⟨peer, hmem', htagPeer⟩ := List.mem_map.mp (hsubTags.subset hlabel')
    have hreserved := (haccepted peer hmem').tag
    have hlocal := (own_cases hmem).2.1
    rw [hlabelOwn, ← htagPeer] at hlocal
    exact hreserved (by simp [RESERVED_ENDPOINT_TAGS] at hlocal ⊢; tauto)

theorem offered_of_validate (hd : d.validate ext = .ok ())
    (hserved : d.servedEndpoints ext publicKey shortId obfs = .ok served)
    (hpaths : d.contractAccessPaths = .ok accessPaths) : Offered accessPaths served := by
  obtain ⟨haccepted, -, -⟩ := DeploymentConfig.peers_of_validate hd
  obtain ⟨hids, hlabels⟩ := told_apart_of_validate hd hserved
  obtain ⟨peers, rfl, -, -, hpeer⟩ := served_ok hserved
  refine ⟨hids, hlabels, ?_, ?_⟩
  · intro ep hep
    rcases List.mem_append.mp hep with hep | hep
    · have hlocal := (own_cases hep).2.1
      simp only [List.mem_cons, List.not_mem_nil, or_false] at hlocal
      rcases hlocal with h | h <;> rw [h] <;> decide
    · obtain ⟨peer, hmem, hok⟩ := hpeer ep hep
      have hreserved := (haccepted peer hmem).tag
      rw [← (toCompatEndpoint_ok hok).2.1] at hreserved
      intro hmem'
      exact hreserved (by simp [RESERVED_ENDPOINT_TAGS] at hmem' ⊢; tauto)
  · intro ep hep hinfra
    rcases List.mem_append.mp hep with hep | hep
    · exact .inl (own_cases hep).2.2
    · obtain ⟨peer, hmem, hok⟩ := hpeer ep hep
      obtain ⟨hid, -, hpath⟩ := toCompatEndpoint_ok hok
      obtain ⟨path, hrelay, hvia⟩ := List.mem_filterMap.mp hinfra
      obtain ⟨s, hs, -, -, hviaEq⟩ := accessPath_of_mem hpaths (List.mem_of_mem_filter hrelay)
      rw [hviaEq, hid] at hvia
      exact .inr (by rw [hpath, direct_of_firstHop hd hs hmem hvia])

/-- The document of a request, for the file that the service was started with. -/
def DeploymentConfig.provision (ext : External) (d : DeploymentConfig) (publicKey shortId : String)
    (obfs : Option String) (user : CompatUser) (mode : DiagnosticMode) (profile : SelectionProfile)
    (compat : CompatibilityMode) : Except CompatError ProvisioningDocument := do
  let served ← d.servedEndpoints ext publicKey shortId obfs
  let accessPaths ← d.contractAccessPaths
  provisioningDocumentWithModeAndAccessPathsAndOptions user served mode accessPaths profile compat

theorem provision_any {user : CompatUser} {mode : DiagnosticMode} {profile : SelectionProfile}
    {compat : CompatibilityMode} {p : ProvisioningDocument → Bool}
    (h : (d.provision ext publicKey shortId obfs user mode profile compat).toOption.any p = true) :
    ∃ served accessPaths doc, d.servedEndpoints ext publicKey shortId obfs = .ok served ∧
      d.contractAccessPaths = .ok accessPaths ∧
      provisioningDocumentWithModeAndAccessPathsAndOptions user served mode accessPaths profile
        compat = .ok doc ∧ p doc = true := by
  obtain ⟨doc, hdoc, hp⟩ := Check.any_toOption.mp h
  obtain ⟨served, hserved, hrest⟩ := Check.bind_eq_ok.mp hdoc
  obtain ⟨accessPaths, hpaths, hok⟩ := Check.bind_eq_ok.mp hrest
  exact ⟨served, accessPaths, doc, hserved, hpaths, hok, hp⟩

end Deployment

def samplePeerUser : CompatUser :=
  { sampleUser with
    peerCredentials := [("exit-1", .vlessReality "00000000-0000-4000-8000-000000000002")] }

theorem sampleRelay_provision : (sampleRelay.provision sampleExternal samplePublicKey "ab" none
    samplePeerUser .none .reliability .normal).toOption.any
      (fun doc => doc.endpoints.any doc.isRelayed) = true := by
  decide +kernel

end SingboxVpn
