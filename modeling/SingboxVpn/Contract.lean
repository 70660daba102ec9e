import SingboxVpn.Deployment

namespace SingboxVpn

open Text (debug)

/-!
# What a client receives

The credential material that a client gets for a user and a listener is decided in one
place, `contractEndpointOpt`; the provisioning document, the native subscription and the
share links only choose which listeners to offer and under which profile.
-/

/-! ### Listeners -/

/-- Client-safe parameters of a listener. -/
inductive PublicParameters where
  | reality (publicKeyHex shortId fingerprint : String)
  | hysteria2 (obfsPassword : Option String)
deriving DecidableEq, Repr

/-- Whose credential a user presents to a listener. -/
inductive EndpointOrigin where
  | local
  | peer
deriving DecidableEq, Repr

/-- A listener that clients are given. -/
structure CompatEndpoint where
  id : String
  transport : CompatTransport
  host : String
  port : Nat
  serverName : Option String
  label : String
  publicParameters : PublicParameters
  origin : EndpointOrigin := .local
  failureDomain : Option String := none
  region : Option String := none
  provider : Option String := none
  asn : Option String := none
  path : Option String := none
  credentialRef : Option String := none
  vlessFlow : EndpointVlessFlow := .vision
deriving DecidableEq, Repr

/-! ### The contract -/

/-- The Vision flow. -/
def VLESS_FLOW_VISION : String := "xtls-rprx-vision"

/-- The public REALITY parameters. -/
structure RealityParams where
  publicKey : String
  shortId : String
  fingerprint : String
deriving DecidableEq, Repr

/-- The obfuscation of a listener that has one. -/
structure Hysteria2Obfs where
  obfsType : String
  password : String
deriving DecidableEq, Repr

/-- The only obfuscation there is. -/
def Hysteria2Obfs.salamander (password : String) : Hysteria2Obfs := ⟨"salamander", password⟩

/-- Transport parameters with the secret that the client presents. -/
inductive TransportParams where
  | vlessReality (uuid : String) (flow : Option String) (reality : RealityParams)
  | hysteria2 (password : String) (obfs : Option Hysteria2Obfs)
deriving DecidableEq, Repr

/-- How traffic reaches an endpoint. -/
inductive PathType where
  | direct
  | other (s : String)
deriving DecidableEq, Repr

/-- A path from its name. -/
def PathType.fromWire (s : String) : PathType := if s = "direct" then .direct else .other s

/-- One listener as a client sees it. -/
structure Endpoint where
  id : String
  tag : String
  host : String
  port : Nat
  serverName : String
  failureDomain : Option String
  region : Option String
  provider : Option String
  asn : Option String
  path : Option PathType
  params : TransportParams
deriving DecidableEq, Repr

/-- Whether a client is told to use the Vision flow. -/
inductive VlessFlow where
  | vision
  | visionOff
deriving DecidableEq, Repr

def VlessFlow.wire : VlessFlow → Option String
  | .vision => some VLESS_FLOW_VISION
  | .visionOff => none

/-- The transport that a credential is for. -/
def PeerCredential.transport : PeerCredential → CompatTransport
  | .vlessReality _ => .vlessReality
  | .hysteria2 _ => .hysteria2

/-- The credential for a peer's listener; the account's own is never used there. -/
def resolveCredential (user : CompatUser) (endpoint : CompatEndpoint)
    (credential : PeerCredential) : Except CompatError PeerCredential :=
  if credential.transport ≠ endpoint.transport then
    .error (.parse ("user " ++ user.id ++ ": peer credential for " ++ debug endpoint.id ++
      " is a " ++ credential.transport.asStr ++ " credential but that endpoint is " ++
      endpoint.transport.asStr ++ "; a credential is never coerced across transports"))
  else .ok credential

def wrongCredential (user : CompatUser) (endpoint : CompatEndpoint) (needs : String)
    (credential : PeerCredential) : CompatError :=
  .parse ("user " ++ user.id ++ ": endpoint " ++ debug endpoint.id ++ " needs a " ++ needs ++
    " credential, got " ++ credential.transport.asStr)

/-- The parameters of a listener with the secret of one user. -/
def transportParams (user : CompatUser) (endpoint : CompatEndpoint) (flow : VlessFlow)
    (credential : Option PeerCredential) : Except CompatError TransportParams :=
  match endpoint.publicParameters with
  | .reality publicKeyHex shortId fingerprint => do
    let uuid ← match credential with
      | none => Except.ok user.vlessUuid
      | some (.vlessReality uuid) => .ok uuid
      | some other => .error (wrongCredential user endpoint "vless-reality" other)
    .ok (.vlessReality uuid flow.wire ⟨publicKeyHex, shortId, fingerprint⟩)
  | .hysteria2 obfsPassword => do
    let password ← match credential with
      | none => Except.ok user.hysteria2Password
      | some (.hysteria2 password) => .ok password
      | some other => .error (wrongCredential user endpoint "hysteria2" other)
    .ok (.hysteria2 password (obfsPassword.map .salamander))

/-- What a user gets for a listener; nothing for a peer without a credential. -/
def contractEndpointOpt (user : CompatUser) (endpoint : CompatEndpoint) (flow : VlessFlow)
    (tagOverride : Option String) : Except CompatError (Option Endpoint) :=
  -- a route declared without Vision loses it in every profile
  let flow := if endpoint.vlessFlow = .none then .visionOff else flow
  let shaped (credential : Option PeerCredential) : Except CompatError (Option Endpoint) := do
    let params ← transportParams user endpoint flow credential
    .ok (some {
      id := endpoint.id
      tag := tagOverride.getD endpoint.label
      host := endpoint.host
      port := endpoint.port
      serverName := endpoint.serverName.getD endpoint.host
      failureDomain := endpoint.failureDomain
      region := endpoint.region
      provider := endpoint.provider
      asn := endpoint.asn
      path := endpoint.path.map .fromWire
      params := params })
  match endpoint.origin with
  -- the node's own listener: the account's secrets
  | .local => shaped none
  | .peer =>
    match user.peerCredentials.lookup (endpoint.credentialRef.getD endpoint.id) with
    -- a peer this user has no access to is left out, never filled in
    | none => .ok none
    | some credential => do shaped (some (← resolveCredential user endpoint credential))

variable {user : CompatUser} {ep : CompatEndpoint} {tagOverride : Option String}

theorem contractEndpointOpt_some {flow : VlessFlow} {built : Endpoint}
    (h : contractEndpointOpt user ep flow tagOverride = .ok (some built)) :
    built.id = ep.id ∧ built.tag = tagOverride.getD ep.label ∧
      built.path = ep.path.map PathType.fromWire := by
  cases horigin : ep.origin with
  | «local» =>
    simp only [contractEndpointOpt, horigin] at h
    obtain ⟨params, -, hbuilt⟩ := Check.bind_eq_ok.mp h
    cases hbuilt
    exact ⟨rfl, rfl, rfl⟩
  | peer =>
    simp only [contractEndpointOpt, horigin] at h
    split at h
    · cases h
    · obtain ⟨credential, -, h⟩ := Check.bind_eq_ok.mp h
      obtain ⟨params, -, hbuilt⟩ := Check.bind_eq_ok.mp h
      cases hbuilt
      exact ⟨rfl, rfl, rfl⟩

def CompatUser.holds (user : CompatUser) (ep : CompatEndpoint) : Bool :=
  ep.origin == .local || (user.peerCredentials.lookup (ep.credentialRef.getD ep.id)).isSome

theorem contractEndpointOpt_none {flow : VlessFlow} :
    contractEndpointOpt user ep flow tagOverride = .ok none ↔ user.holds ep = false := by
  cases horigin : ep.origin with
  | «local» =>
    simp [contractEndpointOpt, CompatUser.holds, horigin, Check.bind_eq_ok]
  | peer =>
    cases hcred : user.peerCredentials.lookup (ep.credentialRef.getD ep.id) with
    | none => simp [contractEndpointOpt, CompatUser.holds, horigin, hcred]
    | some credential =>
      simp [contractEndpointOpt, CompatUser.holds, horigin, hcred, Check.bind_eq_ok]

/-- The same where a missing peer credential is an error. -/
def contractEndpoint (user : CompatUser) (endpoint : CompatEndpoint) (flow : VlessFlow)
    (tagOverride : Option String) : Except CompatError Endpoint := do
  match ← contractEndpointOpt user endpoint flow tagOverride with
  | some built => .ok built
  | none => .error (.parse ("user " ++ user.id ++ " has no credential for peer endpoint " ++
      debug endpoint.id ++ "; this server cannot mint one because it does not control that " ++
      "server (see `vpn-admin user peer set`)"))

/-! ### The listeners of a deployment -/

/-- This node's own two listeners. -/
def standardEndpoints (publicHost : String) (realityPort hysteriaPort : Nat)
    (realityPublicKeyHex realityShortId handshakeServer : String)
    (hysteriaObfsPassword : Option String) : List CompatEndpoint :=
  [{ id := LOCAL_REALITY_ENDPOINT_ID
     transport := .vlessReality
     host := publicHost
     port := realityPort
     serverName := some handshakeServer
     label := "Reality"
     publicParameters := .reality realityPublicKeyHex realityShortId "chrome" },
   { id := "hysteria2-1"
     transport := .hysteria2
     host := publicHost
     port := hysteriaPort
     serverName := some publicHost
     label := "Hysteria2"
     publicParameters := .hysteria2 hysteriaObfsPassword }]

/-- A declared peer as a listener. -/
def PeerEndpointSection.toCompatEndpoint (ext : External) (peer : PeerEndpointSection) :
    Except CompatError CompatEndpoint := do
  peer.validate ext
  .ok {
    id := peer.id
    transport := peer.transport
    host := peer.host
    port := peer.port
    serverName := some (peer.serverName.getD peer.host)
    label := peer.tag
    publicParameters := match peer.transport with
      | .vlessReality => .reality (peer.realityPublicKey.getD "") (peer.realityShortId.getD "")
          peer.realityFingerprint
      | .hysteria2 => .hysteria2 peer.obfsPassword
    origin := .peer
    failureDomain := some peer.failureDomain
    region := peer.region
    provider := peer.provider
    asn := peer.asn
    path := some peer.path
    credentialRef := peer.credentialRef
    vlessFlow := peer.vlessFlow }

/-- The own listeners that clients are told about; a relay's Hysteria2 listener is not. -/
def DeploymentConfig.ownEndpoints (d : DeploymentConfig)
    (realityPublicKeyHex realityShortId : String) (hysteriaObfsPassword : Option String) :
    List CompatEndpoint :=
  let endpoints := standardEndpoints d.publicHost d.reality.listenPort d.hysteria2.listenPort
    realityPublicKeyHex realityShortId d.reality.handshakeServer hysteriaObfsPassword
  if d.role = .relay then endpoints.filter (·.id == LOCAL_REALITY_ENDPOINT_ID) else endpoints

def ContractError.display : ContractError → String
  | .unsupportedSchemaVersion requested supported =>
    "unsupported schema_version " ++ toString requested ++ " (this server implements " ++
      toString supported ++ ") — refusing to emit or accept a document whose semantics it " ++
      "does not know"
  | .empty field => field ++ " must not be empty"
  | .invalid field reason => field ++ " contains an invalid value: " ++ reason
  | .malformedUuid endpointId got =>
    "endpoint " ++ endpointId ++ ": malformed VLESS client id (uuid) — expected an " ++
      "8-4-4-4-12 hex UUID, got " ++ debug got
  | .missingRealityParameter endpointId missing =>
    "endpoint " ++ endpointId ++ ": transport vless-reality requires a REALITY " ++ missing ++
      "; it is missing or empty, so no client could ever complete a handshake with this endpoint"
  | .emptyHysteria2Password endpointId =>
    "endpoint " ++ endpointId ++ ": hysteria2 auth password must not be empty"
  | .emptyObfsPassword endpointId =>
    "endpoint " ++ endpointId ++ ": hysteria2 obfuscation is present but its password is " ++
      "empty — a salamander obfuscator with no password is not a valid configuration"
  | .capabilityWithoutEndpoint capability =>
    "capability " ++ debug capability ++ " is advertised but no endpoint provides it — a " ++
      "client would negotiate a transport this server cannot actually serve"
  | .endpointWithoutCapability endpointId transport =>
    "endpoint " ++ endpointId ++ " provides transport " ++ debug transport ++ " but that " ++
      "capability is not advertised — the capability list must reflect what is actually configured"
  | .duplicateEndpointId id => "duplicate endpoint id " ++ debug id
  | .duplicateAccessPathId id => "duplicate access path id " ++ debug id
  | .unknownAccessPathReference endpointId pathId =>
    "endpoint " ++ endpointId ++ " references access path " ++ debug pathId ++ ", but no " ++
      "matching `access_paths` entry exists in this document"
  | .experimentalInProductionCapabilities capability =>
    "experimental capability " ++ debug capability ++ " appears in `capabilities` — diagnostic " ++
      "and experimental capabilities belong in `experimental_capabilities` and must never take " ++
      "part in normal production capability negotiation"
  | .experimentalCapabilityMisnamed capability start =>
    "experimental capability " ++ debug capability ++ " must be named with the `" ++ start ++
      "` prefix so no consumer can mistake it for a production capability"
  | .forbiddenContent found reason =>
    "the serialized document contains the forbidden key or value " ++ debug found ++ " (" ++
      reason ++ ") — this contract must never carry server-private material or client-owned policy"
  | .embeddedConfigInvalid reason => "embedded singbox_config is not servable: " ++ reason
  | .endpointTagMissingOutbound endpointId tag =>
    "endpoint " ++ endpointId ++ " has tag " ++ debug tag ++ " but the embedded " ++
      "singbox_config renders no outbound with that tag — the client could name an endpoint " ++
      "Core has never heard of"
  | .selectorOptionsMismatch selector expected found =>
    "the embedded singbox_config's " ++ debug selector ++ " group advertises " ++
      Text.debugList found ++ " but this document's endpoints require exactly " ++
      Text.debugList expected ++ " — a mismatch means the client's catalog and Core's " ++
      "selectable set disagree"
  | .routeFinalMismatch selector found =>
    "the embedded singbox_config routes `final` to " ++ debug found ++ " rather than the " ++
      "selector group " ++ debug selector ++ " — selecting an endpoint would then not change " ++
      "what is routed"
  | .relayedEndpointNotChained tag =>
    "the embedded singbox_config renders relayed endpoint " ++ debug tag ++ " without a " ++
      "`detour` — a route the catalog describes as relayed would dial its exit directly"
  | .automaticGroupCrossesPrivacyClass group member =>
    "the embedded singbox_config's automatic group " ++ debug group ++ " probes " ++
      debug member ++ ", which is not a relayed route — a health check would connect the " ++
      "client straight to an exit that a relayed route must hide it from"

def CompatError.display : CompatError → String
  | .io msg => "io error: " ++ msg
  | .parse msg => "parse error: " ++ msg
  | .configValidationFailed msg => "config validation failed: " ++ msg
  | .wrongTransportForEndpoint =>
    "endpoint's public_parameters do not match the requested transport"
  | .userNotFound => "user not found"
  | .noSelectableRoute =>
    "no selectable endpoints remain after reserving relay first-hop infrastructure; pair an " ++
      "exit and give this user a credential for it before provisioning"
  | .contract violation => "provisioning contract violation: " ++ violation.display
  | .unsupportedSchema what found maxSupported =>
    what ++ " schema version " ++ toString found ++ " is newer than this vpn-admin supports " ++
      "(max " ++ toString maxSupported ++ ") — refusing to load it: an older binary cannot " ++
      "safely assume it still understands every field. Upgrade vpn-admin, or restore a " ++
      "compatible backup."

/-- The endpoint set that the subscription service serves: this node's own listeners, then
    the declared peers in order. -/
def DeploymentConfig.servedEndpoints (ext : External) (d : DeploymentConfig)
    (realityPublicKeyHex realityShortId : String) (hysteriaObfsPassword : Option String) :
    Except CompatError (List CompatEndpoint) := do
  let peers ← Check.collect
    (fun peer : PeerEndpointSection => match peer.toCompatEndpoint ext with
      | .ok endpoint => .ok (some endpoint)
      | .error e => .error (.parse ("invalid [[peer_endpoints]] entry " ++ debug peer.id ++ ": " ++
          e.display)))
    d.peerEndpoints
  .ok (d.ownEndpoints realityPublicKeyHex realityShortId hysteriaObfsPassword ++ peers)

/-! ### The client-facing renderers -/

/-- The profile that a document is for. -/
inductive DiagnosticMode where
  | none
  | tcpOnly
  | visionOff
deriving DecidableEq, Repr

/-- The compatibility mode of a configuration. -/
inductive CompatibilityMode where
  | normal
  | tcpOnly
  | quicReject
  | visionOff
  | hiddifyPinned
  | youTubeDirect
deriving DecidableEq, Repr

/-- The mark of an endpoint without the Vision flow. -/
def VISION_OFF_LABEL_SUFFIX : String := " (EXPERIMENTAL Vision-off)"

def provisioningEndpoint (mode : DiagnosticMode) (user : CompatUser) (ep : CompatEndpoint) :
    Except CompatError (Option Endpoint) :=
  if mode = .tcpOnly ∧ ep.transport = .hysteria2 then .ok none
  else
    let visionOff := mode = .visionOff ∧ ep.transport = .vlessReality
    contractEndpointOpt user ep (if visionOff then .visionOff else .vision) none

def subscriptionEndpoint (mode : CompatibilityMode) (user : CompatUser) (ep : CompatEndpoint) :
    Except CompatError (Option Endpoint) :=
  if mode = .tcpOnly ∧ ep.transport = .hysteria2 then .ok none
  else do
    let visionOff := mode = .visionOff ∧ ep.transport = .vlessReality
    let tag := if visionOff then some (ep.label ++ VISION_OFF_LABEL_SUFFIX) else none
    let built ← contractEndpoint user ep (if visionOff then .visionOff else .vision) tag
    .ok (some built)

/-- The transport that the parameters are for. -/
def TransportParams.transport : TransportParams → CompatTransport
  | .vlessReality .. => .vlessReality
  | .hysteria2 .. => .hysteria2

def shareLinkEndpoint (visionOff : Bool) (user : CompatUser) (ep : CompatEndpoint) :
    Except CompatError (Option Endpoint) :=
  if ep.path.any (· != "direct") then .ok none
  else do
    let built ← match ep.transport with
      | .vlessReality =>
        if visionOff then
          contractEndpointOpt user ep .visionOff (some (ep.label ++ VISION_OFF_LABEL_SUFFIX))
        else contractEndpointOpt user ep .vision none
      | .hysteria2 => contractEndpointOpt user ep .vision none
    -- the link is written for the listener's transport
    Check.refuseIf (built.any fun b => b.params.transport != ep.transport)
      .wrongTransportForEndpoint
    .ok built

inductive ClientRenderer where
  | provisioning (mode : DiagnosticMode)
  | subscription (mode : CompatibilityMode)
  | shareLinks (visionOff : Bool)
deriving DecidableEq, Repr

namespace ClientRenderer

/-- What a renderer makes of a listener for a user. -/
def endpoint : ClientRenderer → CompatUser → CompatEndpoint → Except CompatError (Option Endpoint)
  | .provisioning mode => provisioningEndpoint mode
  | .subscription mode => subscriptionEndpoint mode
  | .shareLinks visionOff => shareLinkEndpoint visionOff

def endpoints (r : ClientRenderer) (user : CompatUser) (eps : List CompatEndpoint) :
    Except CompatError (List Endpoint) :=
  Check.collect (r.endpoint user) eps

def isVisionOff : ClientRenderer → Bool
  | .provisioning mode => mode = .visionOff
  | .subscription mode => mode = .visionOff
  | .shareLinks visionOff => visionOff

def isTcpOnly : ClientRenderer → Bool
  | .provisioning mode => mode = .tcpOnly
  | .subscription mode => mode = .tcpOnly
  | .shareLinks _ => false

end ClientRenderer

/-! ### What a user is given for the node's own listeners -/

section Own

variable {user : CompatUser} {host handshake publicKey shortId : String} {rport hport : Nat}
  {obfs : Option String}

def GivesOwnSecrets (user : CompatUser) (b : Endpoint) : Prop :=
  (∃ reality, b.params = .vlessReality user.vlessUuid (some VLESS_FLOW_VISION) reality) ∨
    ∃ obfs, b.params = .hysteria2 user.hysteria2Password obfs

/-- Every renderer gives the account's own secrets for the node's own listeners, for both of
    them unless the profile drops Hysteria2. -/
theorem standard_given {r : ClientRenderer} (hr : r.isVisionOff = false) :
    ∃ given, r.endpoints user
        (standardEndpoints host rport hport publicKey shortId handshake obfs) = .ok given ∧
      given.map Endpoint.id = (if r.isTcpOnly then [LOCAL_REALITY_ENDPOINT_ID]
        else [LOCAL_REALITY_ENDPOINT_ID, "hysteria2-1"]) ∧
      ∀ b ∈ given, GivesOwnSecrets user b := by
  cases r with
  | provisioning mode =>
    cases mode with
    | visionOff => cases hr
    | none => exact ⟨_, rfl, rfl, by simp [GivesOwnSecrets, VlessFlow.wire]⟩
    | tcpOnly => exact ⟨_, rfl, rfl, by simp [GivesOwnSecrets, VlessFlow.wire]⟩
  | subscription mode =>
    cases mode with
    | visionOff => cases hr
    | tcpOnly => exact ⟨_, rfl, rfl, by simp [GivesOwnSecrets, VlessFlow.wire]⟩
    | _ => exact ⟨_, rfl, rfl, by simp [GivesOwnSecrets, VlessFlow.wire]⟩
  | shareLinks visionOff =>
    cases hr
    exact ⟨_, rfl, rfl, by simp [GivesOwnSecrets, VlessFlow.wire]⟩

end Own

end SingboxVpn
