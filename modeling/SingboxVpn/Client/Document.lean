import SingboxVpn.Contract

/-!
# The provisioning document

`crates/provisioning-contract/src/lib.rs`: the catalog of endpoints that a client receives with the
sing-box configuration embedded beside it, and the checks that both must pass before they are sent.

* `CrossChecked`, `crossChecked_of_validate` — what a document that passes satisfies.
-/

namespace SingboxVpn

open Text (debug isBlank)
open Json (object strs)

/-- The version of the contract that is served. -/
def SCHEMA_VERSION : Nat := 1

/-- The versions that can be asked for. -/
def SUPPORTED_SCHEMA_VERSIONS : List Nat := [SCHEMA_VERSION]

/-- Whether a version can be served. -/
def isSupportedSchemaVersion (v : Nat) : Bool := SUPPORTED_SCHEMA_VERSIONS.contains v

/-- The product that a document names. -/
def PRODUCT : String := "singbox-vpn"

/-- The oldest client that a document is for. -/
def MINIMUM_CLIENT_VERSION : String := "0.1.0"

/-- How the names of experimental capabilities start. -/
def EXPERIMENTAL_CAPABILITY_PREFIX : String := "diag-"

/-- The tag of the selector group. -/
def SELECTOR_GROUP_TAG : String := "select"

/-- The tag of the `urltest` group. -/
def AUTO_GROUP_TAG : String := "auto"

/-! ### Capabilities and access paths -/

/-- The transport of an endpoint; unknown ones are kept. -/
inductive Transport where
  | vlessReality
  | hysteria2
  | other (s : String)
deriving DecidableEq, Repr

/-- The name of a transport on the wire. -/
def Transport.asStr : Transport → String
  | .vlessReality => "vless-reality"
  | .hysteria2 => "hysteria2"
  | .other s => s

/-- The transport that the parameters are for. -/
def Endpoint.transport (ep : Endpoint) : Transport :=
  match ep.params with
  | .vlessReality .. => .vlessReality
  | .hysteria2 .. => .hysteria2

/-- A transport that the document offers; unknown ones are kept. -/
inductive Capability where
  | vlessReality
  | hysteria2
  | other (s : String)
deriving DecidableEq, Repr

/-- The name of a capability on the wire. -/
def Capability.asStr : Capability → String
  | .vlessReality => "vless-reality"
  | .hysteria2 => "hysteria2"
  | .other s => s

/-- The capability that a transport needs. -/
def Capability.forTransport : Transport → Capability
  | .vlessReality => .vlessReality
  | .hysteria2 => .hysteria2
  | .other s => .other s

/-- A diagnostic profile that the user may ask for. -/
structure ExperimentalCapability where
  name : String
deriving DecidableEq, Repr

/-- The profile without what is carried over UDP. -/
def ExperimentalCapability.tcpOnly : ExperimentalCapability := ⟨"diag-tcp-only"⟩

/-- The profile without the Vision flow. -/
def ExperimentalCapability.visionOff : ExperimentalCapability := ⟨"diag-vision-off"⟩

/-- The kind of an access path; unknown ones are kept. -/
inductive AccessPathKind where
  | direct
  | relay
  | other (s : String)
deriving DecidableEq, Repr

/-- The name of a kind on the wire. -/
def AccessPathKind.asStr : AccessPathKind → String
  | .direct => "direct"
  | .relay => "relay"
  | .other s => s

/-- A kind from its name. -/
def AccessPathKind.fromWire (s : String) : AccessPathKind :=
  if s = "direct" then .direct else if s = "relay" then .relay else .other s

/-- The name of a path on the wire. -/
def PathType.asStr : PathType → String
  | .direct => "direct"
  | .other s => s

/-- The first hop of a route, without its secrets. -/
structure AccessPath where
  id : String
  kind : AccessPathKind
  viaEndpointId : Option String
  failureDomain : Option String
  region : Option String
  provider : Option String
  capabilities : List String
deriving DecidableEq, Repr

/-- The first hops: listeners that are dialled on the way and never offered. -/
def infrastructureEndpointIds (accessPaths : List AccessPath) : List String :=
  (accessPaths.filter fun path => path.kind == .relay).filterMap (·.viaEndpointId)

/-- Who serves a document. -/
structure ServerInfo where
  product : String
  version : String
  minimumClientVersion : String
deriving DecidableEq, Repr

/-- This server, in its version. -/
def ServerInfo.current (version : String) : ServerInfo := ⟨PRODUCT, version, MINIMUM_CLIENT_VERSION⟩

/-- The provisioning document. -/
structure ProvisioningDocument where
  schemaVersion : Nat
  server : ServerInfo
  capabilities : List Capability
  experimentalCapabilities : List ExperimentalCapability
  accessPaths : List AccessPath
  endpoints : List Endpoint
  singboxConfig : Option Json
deriving DecidableEq

/-! ### The parts of a document -/

/-- A field that is blank is refused. -/
def nonEmpty (field value : String) : Except ContractError Unit :=
  Check.refuseIf (isBlank value) (.empty field)

namespace AccessPath

/-- The checks of one access path. -/
def validate (path : AccessPath) : Except ContractError Unit := do
  nonEmpty "access_paths[].id" path.id
  nonEmpty "access_paths[].kind" path.kind.asStr
  Check.onSome (nonEmpty "access_paths[].via_endpoint_id") path.viaEndpointId
  Check.refuseIf path.capabilities.isEmpty
    (.invalid "access_paths[].capabilities"
      ("access path " ++ debug path.id ++ " declares no capabilities"))
  Check.eachSeen
    (fun seen capability => do
      nonEmpty "access_paths[].capabilities[]" capability
      Check.refuseIf (seen.contains capability)
        (.invalid "access_paths[].capabilities"
          ("access path " ++ debug path.id ++ " repeats capability " ++ debug capability)))
    [] path.capabilities
  Check.each (fun p : String × Option String => Check.onSome (nonEmpty p.1) p.2)
    [("access_paths[].failure_domain", path.failureDomain),
      ("access_paths[].region", path.region), ("access_paths[].provider", path.provider)]

end AccessPath

/-- Groups of 8, 4, 4, 4 and 12 hexadecimal digits. -/
def isUuid (s : String) : Bool :=
  let groups := Text.split '-' s
  groups.length == 5 && (groups.zip [8, 4, 4, 4, 12]).all fun p =>
    Text.len p.1 == p.2 && p.1.toList.all Text.isAsciiHexdigit

namespace Endpoint

def validateReality (ep : Endpoint) (reality : RealityParams) : Except ContractError Unit := do
  Check.each
    (fun p : String × String =>
      Check.refuseIf (isBlank p.2) (.missingRealityParameter ep.id p.1))
    [("public_key", reality.publicKey), ("short_id", reality.shortId),
      ("fingerprint", reality.fingerprint)]
  Check.refuseIf
    (!reality.shortId.toList.all Text.isAsciiHexdigit || Text.len reality.shortId % 2 != 0 ||
      16 < Text.len reality.shortId)
    (.invalid "endpoint.reality.short_id"
      (debug reality.shortId ++ " is not an even-length hex string of at most 16 characters"))

def validateParams (ep : Endpoint) : Except ContractError Unit :=
  match ep.params with
  | .vlessReality uuid flow reality => do
    Check.refuseIf (!isUuid uuid) (.malformedUuid ep.id uuid)
    Check.onSome
      (fun flow => Check.refuseIf (flow != VLESS_FLOW_VISION)
        (.invalid "endpoint.flow"
          (debug flow ++ " is not a flow this server provisions (expected " ++
            debug VLESS_FLOW_VISION ++ ", or absent for the diag-vision-off profile)")))
      flow
    ep.validateReality reality
  | .hysteria2 password obfs => do
    Check.refuseIf (isBlank password) (.emptyHysteria2Password ep.id)
    Check.onSome
      (fun obfs => do
        Check.refuseIf (isBlank obfs.password) (.emptyObfsPassword ep.id)
        Check.refuseIf (obfs.obfsType != "salamander")
          (.invalid "endpoint.obfs.type"
            (debug obfs.obfsType ++ " is not an obfuscator this server configures (expected " ++
              "\"salamander\")")))
      obfs

/-- The checks of one endpoint. -/
def validate (ep : Endpoint) : Except ContractError Unit := do
  nonEmpty "endpoint.id" ep.id
  nonEmpty "endpoint.tag" ep.tag
  nonEmpty "endpoint.host" ep.host
  nonEmpty "endpoint.server_name" ep.serverName
  Check.refuseIf (ep.host.toList.any fun c => Text.isWhitespace c || c == '/')
    (.invalid "endpoint.host" (debug ep.host ++ " is not a dialable host"))
  Check.refuseIf (ep.port == 0) (.invalid "endpoint.port" "port 0 is not dialable")
  ep.validateParams

end Endpoint

/-! ### The serialized form -/

def optionalMember (key : String) (value : Option String) : List (String × Json) :=
  value.toList.map fun v => (key, .str v)

def AccessPath.toValue (path : AccessPath) : Json :=
  object ([("id", .str path.id), ("kind", .str path.kind.asStr),
      ("capabilities", strs path.capabilities)] ++
    optionalMember "via_endpoint_id" path.viaEndpointId ++
    optionalMember "failure_domain" path.failureDomain ++ optionalMember "region" path.region ++
    optionalMember "provider" path.provider)

/-- The members that the parameters add to an endpoint, with the transport as their tag. -/
def TransportParams.members : TransportParams → List (String × Json)
  | .vlessReality uuid flow reality =>
    [("transport", .str "vless-reality"), ("uuid", .str uuid),
      ("reality", object [("public_key", .str reality.publicKey),
        ("short_id", .str reality.shortId), ("fingerprint", .str reality.fingerprint)])] ++
      optionalMember "flow" flow
  | .hysteria2 password obfs =>
    [("transport", .str "hysteria2"), ("password", .str password)] ++
      obfs.toList.map fun o =>
        ("obfs", object [("type", .str o.obfsType), ("password", .str o.password)])

def Endpoint.toValue (ep : Endpoint) : Json :=
  object ([("id", .str ep.id), ("tag", .str ep.tag), ("host", .str ep.host),
      ("port", .num ep.port), ("server_name", .str ep.serverName)] ++
    optionalMember "failure_domain" ep.failureDomain ++ optionalMember "region" ep.region ++
    optionalMember "provider" ep.provider ++ optionalMember "asn" ep.asn ++
    optionalMember "path" (ep.path.map PathType.asStr) ++ ep.params.members)

def ProvisioningDocument.toValue (doc : ProvisioningDocument) : Json :=
  object ([("schema_version", .num doc.schemaVersion),
      ("server", object [("product", .str doc.server.product), ("version", .str doc.server.version),
        ("minimum_client_version", .str doc.server.minimumClientVersion)]),
      ("capabilities", strs (doc.capabilities.map Capability.asStr)),
      ("experimental_capabilities", strs (doc.experimentalCapabilities.map (·.name))),
      ("endpoints", .arr (doc.endpoints.map Endpoint.toValue))] ++
    (if doc.accessPaths.isEmpty then []
      else [("access_paths", .arr (doc.accessPaths.map AccessPath.toValue))]) ++
    doc.singboxConfig.toList.map fun config => ("singbox_config", config))

/-! ### The audits -/

/-- Texts that no document may have, with the reasons. -/
def FORBIDDEN_CONTENT : List (String × String) := [
  ("private_key", "server-private key material"),
  ("privatekey", "server-private key material"),
  ("private-key", "server-private key material"),
  ("-----BEGIN", "PEM-encoded key or certificate"),
  (".pem", "TLS/server filesystem path"),
  ("/etc/", "server filesystem path"),
  ("/var/", "server filesystem path"),
  ("/opt/", "server filesystem path"),
  ("insecure", "certificate-verification opt-out"),
  ("\"dns\"", "client-owned DNS policy"),
  ("\"mtu\"", "client-owned MTU"),
  ("\"tun\"", "client-owned TUN configuration"),
  ("auto_route", "client-owned routing policy"),
  ("strict_route", "client-owned routing policy"),
  ("kill_switch", "client-owned kill switch"),
  ("kill-switch", "client-owned kill switch"),
  ("\"inbounds\"", "client-owned listener configuration"),
  ("ipv6_", "client-owned IP-family policy"),
  ("\"ipv4\"", "client-owned IP-family policy"),
  ("\"ipv6\"", "client-owned IP-family policy")]

/-- The keys that an embedded configuration may have. -/
def EMBEDDED_CONFIG_TOP_LEVEL_ALLOWED : List String := ["outbounds", "route"]

/-- The keys that its `route` may have. -/
def EMBEDDED_CONFIG_ROUTE_ALLOWED : List String := ["final", "rules"]

/-- Keys that it may have at no depth. -/
def EMBEDDED_CONFIG_FORBIDDEN_KEYS : List String := ["private_key", "privatekey", "private-key"]

/-- Texts that none of its values may have. -/
def EMBEDDED_CONFIG_FORBIDDEN_VALUES : List String :=
  ["-----begin", ".pem", "/etc/", "/var/", "/opt/"]

def auditEmbeddedMember (key : String) (child : Json) : Except ContractError Unit := do
  let lowered := Text.toAsciiLowercase key
  Check.refuseIf (EMBEDDED_CONFIG_FORBIDDEN_KEYS.any fun k => Text.contains k lowered)
    (.embeddedConfigInvalid ("key " ++ debug key ++ " looks like server-private key material, " ++
      "which must never reach a client"))
  Check.refuseIf (lowered == "insecure" && child != .bool false)
    (.embeddedConfigInvalid ("`insecure` must be exactly false (certificate verification on); " ++
      "found " ++ child.text))

mutual

/-- Private keys, server paths and the certificate opt-out, at any depth. -/
def auditEmbeddedValue : Json → Except ContractError Unit
  | .obj fields => auditEmbeddedFields fields
  | .arr items => auditEmbeddedItems items
  | .str s =>
    Check.each
      (fun needle => Check.refuseIf (Text.contains needle (Text.toAsciiLowercase s))
        (.embeddedConfigInvalid ("value contains " ++ debug needle ++
          ", which is server-side material")))
      EMBEDDED_CONFIG_FORBIDDEN_VALUES
  | _ => .ok ()

def auditEmbeddedFields : List (String × Json) → Except ContractError Unit
  | [] => .ok ()
  | (key, child) :: rest => do
    auditEmbeddedMember key child
    auditEmbeddedValue child
    auditEmbeddedFields rest

def auditEmbeddedItems : List Json → Except ContractError Unit
  | [] => .ok ()
  | item :: rest => do
    auditEmbeddedValue item
    auditEmbeddedItems rest

end

def tagOf (ob : Json) : Option String := (ob.get? "tag").bind Json.asStr

def detourOf (ob : Json) : Option String := (ob.get? "detour").bind Json.asStr

namespace ProvisioningDocument

/-- Everything but the embedded configuration is a text in which nothing forbidden occurs. -/
def auditSerialized (doc : ProvisioningDocument) : Except ContractError Unit :=
  let lowered := (doc.toValue.remove "singbox_config").chars.map Char.toLower
  Check.each
    (fun p : String × String =>
      Check.refuseIf (Text.occurs (p.1.toList.map Char.toLower) lowered)
        (.forbiddenContent p.1 p.2))
    FORBIDDEN_CONTENT

def auditRoute (route : Json) : Except ContractError Unit :=
  match route with
  | .obj fields =>
    Check.each
      (fun key => Check.refuseIf (!EMBEDDED_CONFIG_ROUTE_ALLOWED.contains key)
        (.embeddedConfigInvalid ("route key " ++ debug key ++ " is not permitted; only " ++
          Text.debugList EMBEDDED_CONFIG_ROUTE_ALLOWED ++ " are rendered, and routing policy " ++
          "beyond them is client-owned")))
      (fields.map Prod.fst)
  | _ => .error (.embeddedConfigInvalid "route must be a JSON object")

/-- Allowed keys at the top, and nothing forbidden at any depth. -/
def auditEmbeddedConfig (doc : ProvisioningDocument) : Except ContractError Unit :=
  match doc.singboxConfig with
  | none => .ok ()
  | some (.obj fields) => do
    Check.each
      (fun key => Check.refuseIf (!EMBEDDED_CONFIG_TOP_LEVEL_ALLOWED.contains key)
        (.embeddedConfigInvalid ("top-level key " ++ debug key ++ " is not permitted; this " ++
          "contract renders only " ++ Text.debugList EMBEDDED_CONFIG_TOP_LEVEL_ALLOWED ++
          " and never client-owned policy (DNS, TUN, inbounds, logging)")))
      (fields.map Prod.fst)
    Check.onSome auditRoute (fields.lookup "route")
    auditEmbeddedValue (.obj fields)
  | some _ => .error (.embeddedConfigInvalid "expected a JSON object")

def isRelayed (doc : ProvisioningDocument) (ep : Endpoint) : Bool :=
  match ep.path with
  | some (.other pathId) => doc.accessPaths.any fun path => path.id == pathId && path.kind == .relay
  | _ => false

def relayedTags (doc : ProvisioningDocument) : List String :=
  (doc.endpoints.filter doc.isRelayed).map (·.tag)

def validateOutbound (relayedTags : List String) (ob : Json) : Except ContractError Unit := do
  let tag := (tagOf ob).getD ""
  Check.refuseIf (relayedTags.contains tag && (detourOf ob).isNone) (.relayedEndpointNotChained tag)
  if (ob.get? "type").bind Json.asStr = some "urltest" then
    Check.each
      (fun member => Check.refuseIf (!relayedTags.contains member)
        (.automaticGroupCrossesPrivacyClass tag member))
      ((((ob.get? "outbounds").bind Json.asArray).getD []).map fun m => m.asStr.getD "")
  else .ok ()

/-- (C): the selector offers the endpoints and the automatic group, in any order. -/
def validateSelector (doc : ProvisioningDocument) (outbounds : List Json) :
    Except ContractError Unit :=
  match outbounds.find? fun ob => tagOf ob == some SELECTOR_GROUP_TAG with
  | none => .error (.embeddedConfigInvalid ("no outbound tagged " ++ debug SELECTOR_GROUP_TAG))
  | some selector =>
    match (selector.get? "outbounds").bind Json.asArray with
    | none =>
      .error (.embeddedConfigInvalid (debug SELECTOR_GROUP_TAG ++ " has no outbounds array"))
    | some options =>
      let found := (options.filterMap Json.asStr).insertionSort (· ≤ ·)
      let expected := (doc.endpoints.map (·.tag) ++ [AUTO_GROUP_TAG]).insertionSort (· ≤ ·)
      Check.refuseIf (expected != found)
        (.selectorOptionsMismatch SELECTOR_GROUP_TAG expected found)

/-- The catalog and the embedded configuration describe the same routes. -/
def crossValidateEmbeddedConfig (doc : ProvisioningDocument) : Except ContractError Unit :=
  match doc.singboxConfig with
  | none => .ok ()
  | some config =>
    match (config.get? "outbounds").bind Json.asArray with
    | none => .error (.embeddedConfigInvalid "missing an `outbounds` array")
    | some outbounds => do
      let renderedTags := outbounds.filterMap tagOf
      -- (B)
      Check.each
        (fun ep => Check.refuseIf (!renderedTags.contains ep.tag)
          (.endpointTagMissingOutbound ep.id ep.tag))
        doc.endpoints
      doc.validateSelector outbounds
      -- (D)
      let finalTag := (((config.get? "route").bind (·.get? "final")).bind Json.asStr).getD ""
      Check.refuseIf (finalTag != SELECTOR_GROUP_TAG)
        (.routeFinalMismatch SELECTOR_GROUP_TAG finalTag)
      if doc.relayedTags.isEmpty then .ok ()
      else Check.each (validateOutbound doc.relayedTags) outbounds

def validateCapabilityNames (doc : ProvisioningDocument) : Except ContractError Unit := do
  Check.each
    (fun cap => do
      Check.refuseIf (Text.startsWith EXPERIMENTAL_CAPABILITY_PREFIX cap.asStr)
        (.experimentalInProductionCapabilities cap.asStr)
      nonEmpty "capabilities[]" cap.asStr)
    doc.capabilities
  Check.each
    (fun cap => Check.refuseIf (!Text.startsWith EXPERIMENTAL_CAPABILITY_PREFIX cap.name)
      (.experimentalCapabilityMisnamed cap.name EXPERIMENTAL_CAPABILITY_PREFIX))
    doc.experimentalCapabilities

def validateEndpoint (doc : ProvisioningDocument) (seen : List Endpoint) (ep : Endpoint) :
    Except ContractError Unit := do
  ep.validate
  Check.refuseIf (seen.any fun e => e.id == ep.id) (.duplicateEndpointId ep.id)
  -- without a list of access paths a path is an opaque label
  if !doc.accessPaths.isEmpty then
    match ep.path with
    | some (.other pathId) =>
      Check.refuseIf (!doc.accessPaths.any fun path => path.id == pathId)
        (.unknownAccessPathReference ep.id pathId)
    | _ => .ok ()
  else .ok ()
  Check.refuseIf (!doc.capabilities.contains (Capability.forTransport ep.transport))
    (.endpointWithoutCapability ep.id ep.transport.asStr)

/-- The checks of a document. -/
def validate (doc : ProvisioningDocument) : Except ContractError Unit := do
  Check.refuseIf (!isSupportedSchemaVersion doc.schemaVersion)
    (.unsupportedSchemaVersion doc.schemaVersion SUPPORTED_SCHEMA_VERSIONS)
  nonEmpty "server.product" doc.server.product
  nonEmpty "server.version" doc.server.version
  nonEmpty "server.minimum_client_version" doc.server.minimumClientVersion
  doc.validateCapabilityNames
  Check.eachSeen
    (fun seen path => do
      path.validate
      Check.refuseIf (seen.any fun p => p.id == path.id) (.duplicateAccessPathId path.id))
    [] doc.accessPaths
  Check.eachSeen doc.validateEndpoint [] doc.endpoints
  Check.each
    (fun cap => Check.refuseIf
      (!doc.endpoints.any fun ep => Capability.forTransport ep.transport == cap)
      (.capabilityWithoutEndpoint cap.asStr))
    doc.capabilities
  doc.auditSerialized
  doc.auditEmbeddedConfig
  doc.crossValidateEmbeddedConfig

end ProvisioningDocument

/-! ### What a checked document satisfies -/

structure CrossChecked (doc : ProvisioningDocument) (config : Json) (outbounds : List Json) :
    Prop where
  rendered : ∀ ep ∈ doc.endpoints, ∃ ob ∈ outbounds, tagOf ob = some ep.tag
  /-- The selector offers the endpoints and the automatic group. -/
  options : ∃ selector ∈ outbounds, tagOf selector = some SELECTOR_GROUP_TAG ∧
    ∃ options, (selector.get? "outbounds").bind Json.asArray = some options ∧
      (options.filterMap Json.asStr).Perm (doc.endpoints.map (·.tag) ++ [AUTO_GROUP_TAG])
  final : ((config.get? "route").bind (·.get? "final")).bind Json.asStr = some SELECTOR_GROUP_TAG
  chained : ∀ ep ∈ doc.endpoints, doc.isRelayed ep = true →
    ∀ ob ∈ outbounds, tagOf ob = some ep.tag → (detourOf ob).isSome = true
  automatic : ∀ ep ∈ doc.endpoints, doc.isRelayed ep = true →
    ∀ ob ∈ outbounds, (ob.get? "type").bind Json.asStr = some "urltest" →
      ∀ m ∈ ((ob.get? "outbounds").bind Json.asArray).getD [], m.asStr.getD "" ∈ doc.relayedTags

section Checked

variable {doc : ProvisioningDocument} {config : Json} {outbounds : List Json}

theorem mem_relayedTags {ep : Endpoint} (hep : ep ∈ doc.endpoints) (h : doc.isRelayed ep = true) :
    ep.tag ∈ doc.relayedTags :=
  List.mem_map.mpr ⟨ep, List.mem_filter.mpr ⟨hep, h⟩, rfl⟩

theorem options_of_selector (h : doc.validateSelector outbounds = .ok ()) :
    ∃ selector ∈ outbounds, tagOf selector = some SELECTOR_GROUP_TAG ∧
      ∃ options, (selector.get? "outbounds").bind Json.asArray = some options ∧
        (options.filterMap Json.asStr).Perm (doc.endpoints.map (·.tag) ++ [AUTO_GROUP_TAG]) := by
  unfold ProvisioningDocument.validateSelector at h
  split at h
  · cases h
  · next selector hfind =>
    split at h
    · cases h
    · next options hoptions =>
      simp only [Check.refuseIf_ok, bne_eq_false_iff_eq] at h
      refine ⟨selector, List.mem_of_find?_eq_some hfind, by simpa using List.find?_some hfind,
        options, hoptions, ?_⟩
      -- two lists that sort to the same list are rearrangements of each other
      have hfound := List.perm_insertionSort (· ≤ ·) (options.filterMap Json.asStr)
      rw [← h] at hfound
      exact hfound.symm.trans (List.perm_insertionSort _ _)

theorem chained_of_outbound {tags : List String} {ob : Json} {tag : String}
    (h : ProvisioningDocument.validateOutbound tags ob = .ok ()) (htag : tag ∈ tags)
    (hob : tagOf ob = some tag) : (detourOf ob).isSome = true := by
  simp only [ProvisioningDocument.validateOutbound, Check.bind_ok, Check.refuseIf_ok, hob,
    Option.getD_some] at h
  have hchained := h.1
  rw [Bool.and_eq_false_iff] at hchained
  rcases hchained with hnot | hsome
  · simp [htag] at hnot
  · simpa [Option.isSome_iff_ne_none] using hsome

theorem automatic_of_outbound {tags : List String} {ob m : Json}
    (h : ProvisioningDocument.validateOutbound tags ob = .ok ())
    (htype : (ob.get? "type").bind Json.asStr = some "urltest")
    (hm : m ∈ ((ob.get? "outbounds").bind Json.asArray).getD []) : m.asStr.getD "" ∈ tags := by
  simp only [ProvisioningDocument.validateOutbound, Check.bind_ok, if_pos htype, Check.each_ok] at h
  have hmember := h.2 _ (List.mem_map_of_mem hm)
  simpa using hmember

theorem crossChecked_of_validate (h : doc.validate = .ok ()) (hc : doc.singboxConfig = some config)
    (ho : (config.get? "outbounds").bind Json.asArray = some outbounds) :
    CrossChecked doc config outbounds := by
  simp only [ProvisioningDocument.validate, Check.bind_ok] at h
  obtain ⟨-, -, -, -, -, -, -, -, -, -, hcross⟩ := h
  simp only [ProvisioningDocument.crossValidateEmbeddedConfig, hc, ho, Check.bind_ok,
    Check.each_ok, Check.refuseIf_ok, bne_eq_false_iff_eq] at hcross
  obtain ⟨hrendered, hselector, hfinal, hprivacy⟩ := hcross
  have houtbound : ∀ ep ∈ doc.endpoints, doc.isRelayed ep = true → ∀ ob ∈ outbounds,
      ProvisioningDocument.validateOutbound doc.relayedTags ob = .ok () := by
    intro ep hep hrel
    have hne : doc.relayedTags.isEmpty = false := by
      rw [List.isEmpty_eq_false_iff]
      exact List.ne_nil_of_mem (mem_relayedTags hep hrel)
    simpa [hne] using hprivacy
  refine ⟨?_, options_of_selector hselector, ?_, ?_, ?_⟩
  · intro ep hep
    have hmem := hrendered ep hep
    simp only [Bool.not_eq_false', List.contains_iff_mem, List.mem_filterMap] at hmem
    exact hmem
  · cases hf : ((config.get? "route").bind (·.get? "final")).bind Json.asStr with
    | none =>
      rw [hf] at hfinal
      exact absurd hfinal (by decide)
    | some tag =>
      rw [hf] at hfinal
      exact congrArg some hfinal
  · intro ep hep hrel ob hob htag
    exact chained_of_outbound (houtbound ep hep hrel ob hob) (mem_relayedTags hep hrel) htag
  · intro ep hep hrel ob hob htype m hm
    exact automatic_of_outbound (houtbound ep hep hrel ob hob) htype hm

end Checked

end SingboxVpn
