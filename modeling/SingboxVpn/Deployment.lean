import SingboxVpn.Authorization

namespace SingboxVpn

open Text (debug isBlank)

/-!
# The deployment file

The declarations of `deployment.toml` that rendering and routing read, and the structural
validation that every load and every render repeats.

* `DeploymentConfig.egress_of_relay`, `spoof_of_hairpin` — how the
  optional sections of an accepted file exclude each other.
-/

/-! ### Third-party functions -/

/-- Library code outside the repository that the modelled functions call. -/
structure External where
  /-- Base64 (URL alphabet, no padding): the decoded bytes, or the decoder's message. -/
  base64UrlDecode : String → Except String (List UInt8)
  base64UrlEncode : List UInt8 → String
  /-- The X25519 base point times a clamped scalar of 32 bytes. -/
  mulBaseClamped : List UInt8 → List UInt8

/-! ### Constants -/

/-- The schema version of a deployment file. -/
def DEPLOYMENT_SCHEMA_VERSION : Nat := 2

/-- The id of the node's own VLESS listener. -/
def LOCAL_REALITY_ENDPOINT_ID : String := "reality-1"

/-- The id of the node's own Hysteria2 listener. -/
def LOCAL_HYSTERIA2_ENDPOINT_ID : String := "hysteria2-1"

/-- The ids that no peer may have. -/
def LOCAL_ENDPOINT_IDS : List String := ["reality-1", "hysteria2-1"]

/-- The kind of a path with a first hop. -/
def RELAY_ACCESS_PATH_KIND : String := "relay"

/-- The longest node id. -/
def NODE_ID_MAX_LEN : Nat := 63

/-- The tags that no peer may have. -/
def RESERVED_ENDPOINT_TAGS : List String := ["Reality", "Hysteria2", "auto", "select", "direct"]

/-- The longest profile title, in characters. -/
def MAX_PROFILE_TITLE_CHARS : Nat := 64

/-! ### Sections -/

/-- What a node does with client traffic. -/
inductive NodeRole where
  | exit
  | relay
deriving DecidableEq, Repr, Inhabited

/-- The name of a role in the file. -/
def NodeRole.asStr : NodeRole → String
  | .exit => "exit"
  | .relay => "relay"

/-- A destination a relay may dial; ordered by host and then port. -/
structure RelayTarget where
  host : String
  port : Nat
deriving DecidableEq, Repr, Inhabited

/-- What an exit does with IPv6 literals. -/
inductive Ipv6LiteralPolicy where
  | allow
  | rejectGoogle
  | rejectAll
deriving DecidableEq, Repr, Inhabited

/-- How a forged segment is made unacceptable. -/
inductive TlsSpoofMethod where
  | wrongSequence
  | wrongChecksum
  | wrongAck
  | wrongMd5
  | wrongTimestamp
deriving DecidableEq, Repr, Inhabited

/-- The name of a method in the file. -/
def TlsSpoofMethod.asStr : TlsSpoofMethod → String
  | .wrongSequence => "wrong-sequence"
  | .wrongChecksum => "wrong-checksum"
  | .wrongAck => "wrong-ack"
  | .wrongMd5 => "wrong-md5"
  | .wrongTimestamp => "wrong-timestamp"

/-- The `[exit_principals]` section. -/
structure ExitPrincipalsSection where
  enabled : Bool
deriving DecidableEq, Repr

/-- The `[google_egress_tls_spoof]` section. -/
structure TlsSpoofSection where
  sni : String
  method : TlsSpoofMethod
deriving DecidableEq, Repr

/-- The `[egress]` section. -/
structure EgressSection where
  ipv6Literal : Ipv6LiteralPolicy
deriving DecidableEq, Repr

/-- The `[google_egress_hairpin]` section. -/
structure GoogleEgressHairpinSection where
  relayHost : String
  relayPort : Nat
  relayServerName : String
  relayRealityPublicKey : String
  relayRealityShortId : String
deriving DecidableEq, Repr

/-- One `[[access_paths]]` entry; `extra` holds the keys that are no field, in order. -/
structure AccessPathSection where
  id : String
  kind : String
  viaEndpointId : Option String
  failureDomain : Option String
  region : Option String
  provider : Option String
  capabilities : List String
  extra : List String
deriving DecidableEq, Repr

/-- One `[[peer_endpoints]]` entry. -/
structure PeerEndpointSection where
  id : String
  tag : String
  host : String
  port : Nat
  transport : CompatTransport
  serverName : Option String
  realityPublicKey : Option String
  realityShortId : Option String
  realityFingerprint : String
  obfsPassword : Option String
  failureDomain : String
  region : Option String
  provider : Option String
  asn : Option String
  path : String
  credentialRef : Option String
  vlessFlow : EndpointVlessFlow
  extra : List String
deriving DecidableEq, Repr

/-- The `[reality]` section. -/
structure RealitySection where
  listenPort : Nat
  handshakeServer : String
  handshakePort : Nat
deriving DecidableEq, Repr

/-- The `[hysteria2]` section. -/
structure Hysteria2Section where
  listenPort : Nat
  upMbps : Option Nat
  downMbps : Option Nat
deriving DecidableEq, Repr

/-- The `[subscription]` section. -/
structure SubscriptionSection where
  listenPort : Nat
  profileTitle : String
deriving DecidableEq, Repr

/-- A deployment file, as far as the checks and renderers read it. -/
structure DeploymentConfig where
  schemaVersion : Nat
  nodeId : String
  role : NodeRole
  publicHost : String
  reality : RealitySection
  hysteria2 : Hysteria2Section
  subscription : SubscriptionSection
  accessPaths : List AccessPathSection
  peerEndpoints : List PeerEndpointSection
  googleEgressHairpin : Option GoogleEgressHairpinSection
  egress : Option EgressSection
  googleEgressTlsSpoof : Option TlsSpoofSection
  exitPrincipals : Option ExitPrincipalsSection
  publicIpv4 : Option String
  publicIpv6 : Option String
deriving DecidableEq, Repr

/-! ### Node identity and the profile title -/

/-- One to 63 ASCII letters, digits, `-`, `_`, `.`, starting with a letter or digit. -/
def validateNodeId (nodeId : String) : Except CompatError Unit := do
  Check.refuseIf nodeId.isEmpty (.parse "node_id is empty")
  Check.refuseIf (NODE_ID_MAX_LEN < Text.len nodeId)
    (.parse ("node_id " ++ debug nodeId ++ " is longer than " ++ toString NODE_ID_MAX_LEN ++
      " characters"))
  Check.refuseIf (!nodeId.toList.head?.any Char.isAlphanum)
    (.parse ("node_id " ++ debug nodeId ++ " must start with an ASCII letter or digit"))
  Check.refuseIf
    (!nodeId.toList.all fun c => c.isAlphanum || c == '-' || c == '_' || c == '.')
    (.parse ("node_id " ++ debug nodeId ++ " contains unsupported characters (allowed: " ++
      "ASCII letters, digits, '-', '_', '.')"))

/-- A title that a client can show. -/
def validateProfileTitle (title : String) : Except CompatError Unit := do
  Check.refuseIf (isBlank title || Text.trim title != title)
    (.parse ("[subscription] profile_title must be non-empty with no leading/trailing " ++
      "whitespace"))
  Check.refuseIf (MAX_PROFILE_TITLE_CHARS < title.toList.length)
    (.parse ("[subscription] profile_title must be at most " ++
      toString MAX_PROFILE_TITLE_CHARS ++ " characters"))
  Check.refuseIf (title.toList.any Text.isControl)
    (.parse "[subscription] profile_title must not contain control characters")

/-! ### Relay destinations -/

/-- Why an IPv4 address may not be a relay destination, if it may not. -/
def classifyV4 (a : BitVec 32) : Option String :=
  let o := IpAddr.octets a
  let o0 := o.getD 0 0
  let o1 := o.getD 1 0
  let o2 := o.getD 2 0
  if o = [169, 254, 169, 254] then some "metadata service"
  else if o = [0, 0, 0, 0] then some "unspecified"
  else if o = [255, 255, 255, 255] then some "broadcast"
  else if o0 = 127 then some "loopback"
  else if o0 = 10 ∨ (o0 = 172 ∧ 16 ≤ o1 ∧ o1 ≤ 31) ∨ (o0 = 192 ∧ o1 = 168) then
    some "private-use (RFC1918)"
  else if o0 = 169 ∧ o1 = 254 then some "link-local"
  else if 224 ≤ o0 ∧ o0 ≤ 239 then some "multicast"
  else if (o0 = 192 ∧ o1 = 0 ∧ o2 = 2) ∨ (o0 = 198 ∧ o1 = 51 ∧ o2 = 100) ∨
      (o0 = 203 ∧ o1 = 0 ∧ o2 = 113) then some "documentation"
  else if o0 = 100 ∧ 64 ≤ o1 ∧ o1 ≤ 127 then some "carrier-grade NAT (RFC6598)"
  else if o0 = 198 ∧ (o1 = 18 ∨ o1 = 19) then some "benchmarking (RFC2544)"
  else if o0 = 0 then some "reserved"
  else none

/-- Why an IPv6 address may not be a relay destination, if it may not. -/
def classifyV6 (a : BitVec 128) : Option String :=
  let seg0 := (IpAddr.groupsOf a).getD 0 0
  let seg1 := (IpAddr.groupsOf a).getD 1 0
  if a.toNat = 0 then some "unspecified"
  else if a.toNat = 1 then some "loopback"
  else if seg0 / 256 = 0xff then some "multicast"
  -- `seg0 & 0xffc0 == 0xfe80` and `seg0 & 0xfe00 == 0xfc00`
  else if seg0 / 64 = 0xfe80 / 64 then some "link-local"
  else if seg0 / 512 = 0xfc00 / 512 then some "unique-local (ULA)"
  else if seg0 = 0x2001 ∧ seg1 = 0x0db8 then some "documentation"
  else none

/-- The reason to refuse an IP literal as a relay destination; an IPv4-mapped address is
    judged by the address it embeds first. -/
def classifyRelayTargetDenied : IpAddr → Option String
  | .v4 a => classifyV4 a
  | .v6 a =>
    (if IpAddr.isMapped (IpAddr.groupsOf a) then classifyV4 (BitVec.ofNat 32 a.toNat)
      else none).or (classifyV6 a)

/-- One label of a DNS name that a `domain` rule can match exactly. -/
def validDnsLabel (label : String) : Bool :=
  !label.isEmpty && Text.len label ≤ 63 && !Text.startsWith "-" label &&
    !Text.endsWith "-" label && label.toList.all fun c => c.isLower || c.isDigit || c == '-'

/-- A relay destination is an ordinary public address or a lower-case DNS name. -/
def validateRelayTargetHost (host : String) : Except String Unit :=
  match IpAddr.parse host with
  | some ip =>
    Check.onSome
      (fun reason => .error (debug host ++ " is not a dialable relay destination (" ++ reason ++
        ")"))
      (classifyRelayTargetDenied ip)
  | none => do
    Check.refuseIf (253 < Text.len host || Text.endsWith "." host)
      (debug host ++ " is not a valid DNS name")
    Check.refuseIf (!(Text.split '.' host).all validDnsLabel)
      (debug host ++ " is not a lowercase DNS name or IP literal; relay forwarding rules " ++
        "match the destination exactly, so it must be written exactly as clients dial it")

/-! ### The optional sections -/

def underSuffix (suffixes : List String) (name : String) : Bool :=
  suffixes.any fun d => name == d || Text.endsWith ("." ++ d) name

namespace TlsSpoofSection

def okLabel (l : String) : Bool :=
  !l.isEmpty && Text.len l ≤ 63 && !Text.startsWith "-" l && !Text.endsWith "-" l &&
    l.toList.all fun c => c.isAlphanum || c == '-'

/-- The checks of the section. -/
def validate (spoof : TlsSpoofSection) : Except CompatError Unit := do
  Check.refuseIf
    (253 < Text.len spoof.sni || !spoof.sni.toList.contains '.' ||
      !(Text.split '.' spoof.sni).all okLabel)
    (.parse ("[google_egress_tls_spoof]: sni must be a plain host name (letters, digits, " ++
      "'-', '.')"))
  Check.refuseIf (underSuffix GOOGLE_EGRESS_DOMAINS (Text.toAsciiLowercase spoof.sni))
    (.parse "[google_egress_tls_spoof]: sni must not be a Google/YouTube name")

end TlsSpoofSection

namespace GoogleEgressHairpinSection

/-- The checks of the section. -/
def validate (hairpin : GoogleEgressHairpinSection) : Except CompatError Unit := do
  Check.each
    (fun p : String × String => Check.refuseIf (isBlank p.2)
      (.parse ("[google_egress_hairpin]: " ++ p.1 ++ " is empty")))
    [("relay_host", hairpin.relayHost), ("relay_server_name", hairpin.relayServerName),
      ("relay_reality_public_key", hairpin.relayRealityPublicKey),
      ("relay_reality_short_id", hairpin.relayRealityShortId)]
  Check.refuseIf (hairpin.relayPort == 0)
    (.parse "[google_egress_hairpin]: relay_port must not be 0")

end GoogleEgressHairpinSection

/-! ### Access paths and peers -/

namespace AccessPathSection

/-- How errors name an access path. -/
def label (path : AccessPathSection) : String := "[[access_paths]] " ++ path.id ++ ": "

def validateCapabilities (path : AccessPathSection) : Except CompatError Unit :=
  Check.eachSeen
    (fun seen capability => do
      Check.refuseIf (isBlank capability) (.parse (path.label ++ "capability is empty"))
      Check.refuseIf (seen.contains capability)
        (.parse (path.label ++ "duplicate capability " ++ debug capability)))
    [] path.capabilities

/-- The checks of one entry. -/
def validate (path : AccessPathSection) : Except CompatError Unit := do
  let credentialBearing := path.extra.find? fun key =>
    ["private", "secret", "password", "token", "credential", "key"].any fun needle =>
      Text.contains needle (Text.toAsciiLowercase key)
  Check.onSome (fun key => .error (.parse (path.label ++ "key " ++ debug key ++
      " looks credential-bearing. Access-path metadata must never contain relay secrets or " ++
      "proxy configuration."))) credentialBearing
  Check.onSome (fun key => .error (.parse (path.label ++ "unknown key " ++ debug key ++
      "; unknown keys are refused rather than silently ignored"))) path.extra.head?
  Check.refuseIf (isBlank path.id) (.parse "[[access_paths]] id is empty")
  Check.refuseIf (isBlank path.kind) (.parse (path.label ++ "kind is empty"))
  Check.refuseIf (path.viaEndpointId.any isBlank)
    (.parse (path.label ++ "via_endpoint_id is empty"))
  Check.each
    (fun p : String × Option String => Check.refuseIf (p.2.any isBlank)
      (.parse (path.label ++ p.1 ++ " is empty")))
    [("failure_domain", path.failureDomain), ("region", path.region),
      ("provider", path.provider)]
  Check.refuseIf path.capabilities.isEmpty (.parse (path.label ++ "capabilities is empty"))
  path.validateCapabilities

end AccessPathSection

/-- The encoding of a REALITY public key: base64url without padding, 32 bytes. -/
def validateRealityPublicKeyShape (ext : External) (publicKey : String) :
    Except String Unit := do
  Check.refuseIf (isBlank publicKey) "REALITY public key is empty"
  match ext.base64UrlDecode (Text.trim publicKey) with
  | .error e =>
    .error ("REALITY public key is not valid base64url without padding: " ++ e)
  | .ok decoded =>
    Check.refuseIf (decoded.length != 32)
      ("REALITY public key decodes to " ++ toString decoded.length ++
        " bytes; X25519 requires exactly 32")

namespace PeerEndpointSection

/-- How errors name a peer. -/
def label (peer : PeerEndpointSection) : String := "[[peer_endpoints]] " ++ peer.id ++ ": "

def validateTransport (ext : External) (peer : PeerEndpointSection) :
    Except CompatError Unit :=
  match peer.transport with
  | .vlessReality => do
    Check.mapError (fun e => .parse (peer.label ++ "reality_public_key: " ++ e))
      (validateRealityPublicKeyShape ext (peer.realityPublicKey.getD ""))
    let sid := peer.realityShortId.getD ""
    Check.refuseIf
      (sid.isEmpty || Text.len sid % 2 != 0 || 16 < Text.len sid ||
        !sid.toList.all Text.isAsciiHexdigit)
      (.parse (peer.label ++ "reality_short_id " ++ debug sid ++ " is not an even-length " ++
        "hex string of at most 16 characters"))
  | .hysteria2 =>
    Check.refuseIf (peer.realityPublicKey.isSome || peer.realityShortId.isSome)
      (.parse (peer.label ++ "REALITY parameters do not apply to a hysteria2 endpoint"))

def validateFlow (peer : PeerEndpointSection) : Except CompatError Unit :=
  if peer.vlessFlow = .none then do
    Check.refuseIf (peer.transport != .vlessReality)
      (.parse (peer.label ++ "vless_flow applies to vless_reality only"))
    Check.refuseIf (peer.path == "direct")
      (.parse (peer.label ++ "vless_flow = \"none\" is only for a relayed route (path " ++
        "other than \"direct\"); a direct exit connection keeps Vision"))
  else .ok ()

/-- The checks of one entry. -/
def validate (ext : External) (peer : PeerEndpointSection) : Except CompatError Unit := do
  let keyMaterial := peer.extra.find? fun key =>
    let l := Text.toAsciiLowercase key
    Text.contains "private" l || Text.contains "secret" l
  Check.onSome (fun key => .error (.parse (peer.label ++ "key " ++ debug key ++
      " looks like private key material. This server has no use for a peer's private key " ++
      "and must never hold one — it never leaves the peer server. Remove the key from " ++
      "deployment.toml."))) keyMaterial
  Check.onSome (fun key => .error (.parse (peer.label ++ "unknown key " ++ debug key ++
      ". Unknown keys are refused rather than ignored, because a silently-dropped key " ++
      "produces an endpoint no client can use."))) peer.extra.head?
  Check.refuseIf (isBlank peer.id) (.parse "[[peer_endpoints]] id is empty")
  Check.refuseIf (isBlank peer.tag) (.parse (peer.label ++ "tag is empty"))
  Check.refuseIf (isBlank peer.failureDomain)
    (.parse (peer.label ++ "failure_domain is empty. A peer exists to fail independently; " ++
      "say which domain it belongs to."))
  Check.refuseIf (isBlank peer.path) (.parse (peer.label ++ "path is empty"))
  Check.refuseIf (peer.credentialRef.any isBlank)
    (.parse (peer.label ++ "credential_ref is empty"))
  Check.refuseIf (isBlank peer.host || peer.host.toList.any fun c => Text.isWhitespace c || c == '/')
    (.parse (peer.label ++ "host " ++ debug peer.host ++ " is not dialable"))
  Check.refuseIf (peer.port == 0) (.parse (peer.label ++ "port 0 is not dialable"))
  peer.validateFlow
  peer.validateTransport ext

end PeerEndpointSection

/-! ### The whole file -/

def RelayTarget.le (a b : RelayTarget) : Prop :=
  a.host < b.host ∨ (a.host = b.host ∧ a.port ≤ b.port)

instance : DecidableRel RelayTarget.le := fun a b =>
  inferInstanceAs (Decidable (a.host < b.host ∨ (a.host = b.host ∧ a.port ≤ b.port)))

def dedupAdjacent {α : Type} [DecidableEq α] : List α → List α
  | [] => []
  | [a] => [a]
  | a :: b :: l => if a = b then dedupAdjacent (b :: l) else a :: dedupAdjacent (b :: l)

theorem mem_dedupAdjacent {α : Type} [DecidableEq α] {x : α} {l : List α} :
    x ∈ dedupAdjacent l ↔ x ∈ l := by
  induction l using dedupAdjacent.induct with
  | case1 => rfl
  | case2 a => rfl
  | case3 b l ih => simp [dedupAdjacent, ih]
  | case4 a b l h ih => simp [dedupAdjacent, h, ih]

namespace DeploymentConfig

/-- This node is a relay that also serves as another relay's exit. -/
def exitPrincipalsEnabled (d : DeploymentConfig) : Bool :=
  d.role == .relay && d.exitPrincipals.any (·.enabled)

/-- The relay access path with this id. -/
def relayPath (d : DeploymentConfig) (id : String) : Option AccessPathSection :=
  d.accessPaths.find? fun path => path.id == id && path.kind == RELAY_ACCESS_PATH_KIND

/-- Whether a peer is reached through this node's own REALITY listener as first hop. -/
def viaOwnListener (d : DeploymentConfig) (peer : PeerEndpointSection) : Bool :=
  (d.relayPath peer.path).any fun path => path.viaEndpointId == some LOCAL_REALITY_ENDPOINT_ID

/-- The destinations this node may dial as a relay, sorted and without duplicates. -/
def relayTargets (d : DeploymentConfig) : List RelayTarget :=
  if d.role != .relay then []
  else
    dedupAdjacent
      (((d.peerEndpoints.filter d.viaOwnListener).map fun peer =>
        RelayTarget.mk peer.host peer.port).insertionSort RelayTarget.le)

/-- A declared first hop is a real, TCP-capable, direct endpoint. -/
def validateFirstHop (d : DeploymentConfig) (path : AccessPathSection) (via : String) :
    Except CompatError Unit := do
  Check.refuseIf (path.kind != RELAY_ACCESS_PATH_KIND)
    (.parse (path.label ++ "via_endpoint_id is only meaningful for kind = \"relay\" (found " ++
      "kind " ++ debug path.kind ++ ")"))
  Check.refuseIf (via == LOCAL_HYSTERIA2_ENDPOINT_ID)
    (.parse (path.label ++ "via_endpoint_id " ++ debug via ++ " is the local Hysteria2 " ++
      "listener; relay chaining is TCP/VLESS+REALITY-only and UDP relay is not implemented"))
  if via = LOCAL_REALITY_ENDPOINT_ID then
    Check.refuseIf (d.role != .relay)
      (.parse (path.label ++ "via_endpoint_id " ++ debug via ++ " makes this node's own " ++
        "listener a relay first hop, which requires role = \"relay\" (this node is " ++
        debug d.role.asStr ++ "). An exit must never be advertised as relay infrastructure."))
  else
    match d.peerEndpoints.find? fun candidate => candidate.id == via with
    | none => .error (.parse (path.label ++ "via_endpoint_id " ++ debug via ++
        " is neither local " ++ LOCAL_REALITY_ENDPOINT_ID ++ " nor a declared peer endpoint"))
    | some firstHop => do
      Check.refuseIf (firstHop.transport != .vlessReality)
        (.parse (path.label ++ "via_endpoint_id " ++ debug via ++ " is not VLESS+REALITY; " ++
          "relay chaining is TCP/VLESS-only in this MVP"))
      Check.refuseIf (firstHop.path != "direct" || firstHop.credentialRef.isSome)
        (.parse (path.label ++ "first hop " ++ debug via ++ " must itself be a direct " ++
          "endpoint with its own credential; chains longer than two hops are not supported"))
  Check.onSome (fun capability => .error (.parse (path.label ++ "capability " ++
      debug capability ++ " is not implemented for relay paths (only \"tcp\"); advertise " ++
      "only capabilities actually enforced")))
    (path.capabilities.find? (· != "tcp"))

/-- Every declared first hop is an endpoint that can be one. -/
def validateAccessPathFirstHops (d : DeploymentConfig) : Except CompatError Unit :=
  Check.each (fun path => Check.onSome (d.validateFirstHop path) path.viaEndpointId)
    d.accessPaths

/-- A route alias reuses the credential of a direct endpoint of the same server. -/
def validateCredentialRef (d : DeploymentConfig) (peer : PeerEndpointSection)
    (credentialRef : String) : Except CompatError Unit := do
  let named := peer.label ++ "credential_ref " ++ debug credentialRef
  Check.refuseIf (credentialRef == peer.id)
    (.parse (peer.label ++ "credential_ref points at itself"))
  match d.peerEndpoints.find? fun candidate => candidate.id == credentialRef with
  | none => .error (.parse (named ++ " does not name a declared peer endpoint"))
  | some target => do
    Check.refuseIf (target.transport != peer.transport)
      (.parse (named ++ " is " ++ target.transport.asStr ++ ", but this alias is " ++
        peer.transport.asStr ++ "; credentials cannot cross transports"))
    Check.refuseIf (target.credentialRef.isSome || target.path != "direct")
      (.parse (named ++ " must name a direct endpoint that owns its credential, not another " ++
        "alias"))
    Check.refuseIf (target.vlessFlow != peer.vlessFlow)
      (.parse (named ++ " shares one exit credential, so both routes need the same " ++
        "vless_flow (the exit renders that credential with a single flow). Give this route " ++
        "its own credential (no credential_ref) instead."))
    Check.refuseIf (target.host != peer.host || target.port != peer.port ||
        target.realityPublicKey != peer.realityPublicKey)
      (.parse (named ++ " names a different server (host/port/REALITY public key differ); a " ++
        "credential issued by one exit cannot authenticate to another"))

/-- A credential is reused only on the same exit server. -/
def validateCredentialRefs (d : DeploymentConfig) : Except CompatError Unit :=
  Check.each (fun peer => Check.onSome (d.validateCredentialRef peer) peer.credentialRef)
    d.peerEndpoints

/-- A relayed route is VLESS+REALITY, never through itself, and its destination can be
    matched exactly when this node is the first hop. -/
def validateRelayRoute (d : DeploymentConfig) (peer : PeerEndpointSection) :
    Except CompatError Unit :=
  if peer.path = "direct" then .ok ()
  else
    match d.relayPath peer.path with
    | none => .ok ()
    | some path => do
      Check.refuseIf (peer.transport != .vlessReality)
        (.parse (peer.label ++ "relay path " ++ debug peer.path ++ " is TCP/VLESS-only in " ++
          "the current MVP; hysteria2-over-relay is not implemented"))
      match path.viaEndpointId with
      | none => .error (.parse (peer.label ++ "relay path " ++ debug peer.path ++ " has no " ++
          "via_endpoint_id; refusing to silently render it as a direct route"))
      | some via => do
        Check.refuseIf (via == peer.id)
          (.parse (peer.label ++ "relay path " ++ debug peer.path ++ " points back to itself"))
        if via = LOCAL_REALITY_ENDPOINT_ID then
          Check.mapError
            (fun reason => .parse (peer.label ++ "invalid relay destination: " ++ reason))
            (validateRelayTargetHost peer.host)
        else .ok ()

/-- Routes through a relay: VLESS, and never through themselves. -/
def validateRelayRoutes (d : DeploymentConfig) : Except CompatError Unit :=
  Check.each d.validateRelayRoute d.peerEndpoints

/-- A relay declares its own listener as first-hop infrastructure. -/
def validateRole (d : DeploymentConfig) : Except CompatError Unit :=
  Check.refuseIf
    (d.role == .relay && !d.accessPaths.any fun path =>
      path.kind == RELAY_ACCESS_PATH_KIND &&
        path.viaEndpointId == some LOCAL_REALITY_ENDPOINT_ID)
    (.parse ("role = \"relay\" requires an [[access_paths]] entry with kind = \"relay\" " ++
      "and via_endpoint_id = \"" ++ LOCAL_REALITY_ENDPOINT_ID ++ "\". It marks this node's " ++
      "own listener as first-hop infrastructure so it is never offered as a final exit."))

def validateIdentity (d : DeploymentConfig) : Except CompatError Unit := do
  Check.refuseIf (DEPLOYMENT_SCHEMA_VERSION < d.schemaVersion)
    (.unsupportedSchema "deployment.toml" d.schemaVersion DEPLOYMENT_SCHEMA_VERSION)
  Check.refuseIf (2 ≤ d.schemaVersion && isBlank d.nodeId)
    (.parse "schema-v2 deployment.toml requires a non-empty node_id")
  if !d.nodeId.isEmpty then validateNodeId d.nodeId else .ok ()
  validateProfileTitle d.subscription.profileTitle

def validateAccessPaths (d : DeploymentConfig) : Except CompatError Unit :=
  Check.eachSeen
    (fun seen path => do
      path.validate
      Check.refuseIf (seen.any fun p => p.id == path.id)
        (.parse ("duplicate [[access_paths]] id " ++ debug path.id)))
    [] d.accessPaths

def validatePeers (ext : External) (d : DeploymentConfig) : Except CompatError Unit :=
  Check.eachSeen
    (fun seen peer => do
      peer.validate ext
      Check.refuseIf (LOCAL_ENDPOINT_IDS.contains peer.id)
        (.parse ("[[peer_endpoints]] id " ++ debug peer.id ++ " collides with an endpoint id " ++
          "this server generates for its own listeners (" ++ Text.debugList LOCAL_ENDPOINT_IDS ++
          "). Both would end up in one document and a client could not tell them apart."))
      Check.refuseIf (seen.any fun p => p.id == peer.id)
        (.parse ("duplicate [[peer_endpoints]] id " ++ debug peer.id))
      Check.refuseIf (RESERVED_ENDPOINT_TAGS.contains peer.tag || seen.any fun p => p.tag == peer.tag)
        (.parse (peer.label ++ "tag " ++ debug peer.tag ++ " is reserved or already used by " ++
          "another endpoint; tags become Core outbound tags and must be unique"))
      Check.refuseIf (!d.accessPaths.isEmpty && peer.path != "direct" &&
          !d.accessPaths.any fun path => path.id == peer.path)
        (.parse (peer.label ++ "path " ++ debug peer.path ++ " has no matching " ++
          "[[access_paths]] declaration")))
    [] d.peerEndpoints

/-- The literal-IPv6 policy is for exits, and cannot switch off what a hairpin needs. -/
def validateEgress (d : DeploymentConfig) : Except CompatError Unit :=
  Check.onSome (fun egress => do
      Check.refuseIf (d.role != .exit) (.parse "[egress] is exit-only")
      Check.refuseIf (d.googleEgressHairpin.isSome && egress.ipv6Literal == .allow)
        (.parse ("[egress] allow cannot disable the hairpin's literal-IPv6 protection; clear " ++
          "the hairpin first")))
    d.egress

def validateSpoof (d : DeploymentConfig) : Except CompatError Unit :=
  Check.onSome (fun spoof => do
      Check.refuseIf d.googleEgressHairpin.isSome
        (.parse ("[google_egress_tls_spoof] cannot be combined with [google_egress_hairpin]: " ++
          "the spoof belongs on the node that dials Google"))
      spoof.validate)
    d.googleEgressTlsSpoof

def validateOwnAddress (field family : String) (isV6 : Bool) (value : Option String) :
    Except CompatError Unit :=
  Check.onSome (fun ip =>
      Check.refuseIf (!(IpAddr.parse ip).any fun a => a.isV6 == isV6)
        (.parse (field ++ " " ++ debug ip ++ " is not a valid " ++ family ++ " literal")))
    (value.filter fun v => !v.isEmpty)

/-- The structural checks of a deployment file. -/
def validate (ext : External) (d : DeploymentConfig) : Except CompatError Unit := do
  d.validateIdentity
  d.validateAccessPaths
  d.validatePeers ext
  d.validateAccessPathFirstHops
  d.validateCredentialRefs
  d.validateRelayRoutes
  d.validateEgress
  d.validateRole
  Check.refuseIf (d.exitPrincipals.isSome && d.role != .relay)
    (.parse ("[exit_principals] is for relay nodes only: an exit already serves every user " ++
      "directly"))
  d.validateSpoof
  Check.onSome GoogleEgressHairpinSection.validate d.googleEgressHairpin
  Check.refuseIf (d.hysteria2.upMbps.isSome != d.hysteria2.downMbps.isSome)
    (.parse ("[hysteria2] up_mbps and down_mbps must be set together (both, or neither) — see " ++
      "docs/PERFORMANCE_OPTIMIZATION_PLAN.md"))
  validateOwnAddress "public_ipv4" "IPv4" false d.publicIpv4
  validateOwnAddress "public_ipv6" "IPv6" true d.publicIpv6

/-! ### What an accepted file satisfies -/

section Accepted

variable {ext : External} {d : DeploymentConfig}

theorem egress_of_relay (h : d.validate ext = .ok ()) (hr : d.role = .relay) :
    d.egress = none := by
  simp only [validate, Check.bind_ok] at h
  obtain ⟨-, -, -, -, -, -, hegress, -⟩ := h
  simp only [validateEgress, Check.onSome_ok] at hegress
  cases he : d.egress with
  | none => rfl
  | some e =>
    have := hegress e he
    simp [hr] at this

theorem spoof_of_hairpin (h : d.validate ext = .ok ())
    (hh : d.googleEgressHairpin.isSome = true) : d.googleEgressTlsSpoof = none := by
  simp only [validate, Check.bind_ok] at h
  obtain ⟨-, -, -, -, -, -, -, -, -, hspoof, -⟩ := h
  simp only [validateSpoof, Check.onSome_ok] at hspoof
  cases hs : d.googleEgressTlsSpoof with
  | none => rfl
  | some s =>
    have := hspoof s hs
    simp [hh] at this

structure PeerAccepted (ext : External) (d : DeploymentConfig) (peer : PeerEndpointSection) :
    Prop where
  valid : peer.validate ext = .ok ()
  id : peer.id ∉ LOCAL_ENDPOINT_IDS
  tag : peer.tag ∉ RESERVED_ENDPOINT_TAGS
  /-- Once there are access paths, a path that is not direct is one of them. -/
  path : d.accessPaths ≠ [] → peer.path ≠ "direct" → ∃ path ∈ d.accessPaths, path.id = peer.path

theorem peers_of_validate (h : d.validate ext = .ok ()) :
    (∀ peer ∈ d.peerEndpoints, PeerAccepted ext d peer) ∧
      (d.peerEndpoints.map PeerEndpointSection.id).Nodup ∧
      (d.peerEndpoints.map PeerEndpointSection.tag).Nodup := by
  simp only [validate, Check.bind_ok] at h
  obtain ⟨-, -, hpeers, -⟩ := h
  unfold validatePeers at hpeers
  rw [Check.eachSeen_ok (PeerAccepted ext d) fun a b => a.id ≠ b.id ∧ a.tag ≠ b.tag] at hpeers
  · obtain ⟨hall, hapart, -⟩ := hpeers
    refine ⟨hall, List.pairwise_map.mpr (hapart.imp And.left),
      List.pairwise_map.mpr (hapart.imp And.right)⟩
  · intro seen peer
    have hdeclared : (!d.accessPaths.isEmpty && peer.path != "direct" &&
        !d.accessPaths.any fun path => path.id == peer.path) = false ↔
        (d.accessPaths ≠ [] → peer.path ≠ "direct" →
          ∃ path ∈ d.accessPaths, path.id = peer.path) := by
      rw [← Bool.not_eq_true]
      simp
    simp only [Check.bind_ok, Check.refuseIf_ok, Bool.or_eq_false_iff, List.contains_eq_mem,
      decide_eq_false_iff_not, List.any_eq_false, beq_iff_eq, hdeclared]
    constructor
    · rintro ⟨hvalid, hid, hids, ⟨htag, htags⟩, hpath⟩
      exact ⟨⟨hvalid, hid, htag, hpath⟩, fun b hb => ⟨hids b hb, htags b hb⟩⟩
    · rintro ⟨⟨hvalid, hid, htag, hpath⟩, hseen⟩
      exact ⟨hvalid, hid, fun b hb => (hseen b hb).1, ⟨htag, fun b hb => (hseen b hb).2⟩, hpath⟩

variable {path : AccessPathSection} {peer : PeerEndpointSection}

theorem firstHop_of_validate (h : d.validate ext = .ok ()) (hpath : path ∈ d.accessPaths)
    {via : String} (hvia : path.viaEndpointId = some via) :
    (via = LOCAL_REALITY_ENDPOINT_ID ∧ d.role = .relay) ∨
      ∃ hop ∈ d.peerEndpoints, hop.id = via ∧ hop.transport = .vlessReality ∧
        hop.path = "direct" ∧ hop.credentialRef = none := by
  simp only [validate, Check.bind_ok] at h
  obtain ⟨-, -, -, hhops, -⟩ := h
  simp only [validateAccessPathFirstHops, Check.each_ok, Check.onSome_ok] at hhops
  have hhop := hhops path hpath via hvia
  by_cases hown : via = LOCAL_REALITY_ENDPOINT_ID
  · simp only [validateFirstHop, Check.bind_ok, if_pos hown, Check.refuseIf_ok,
      bne_eq_false_iff_eq] at hhop
    exact .inl ⟨hown, hhop.2.2.1⟩
  · refine .inr ?_
    simp only [validateFirstHop, Check.bind_ok, if_neg hown] at hhop
    obtain ⟨-, -, hfound⟩ := hhop
    split at hfound
    · simp at hfound
    · next hop hfind =>
      simp only [Check.bind_ok, Check.refuseIf_ok, Bool.or_eq_false_iff, bne_eq_false_iff_eq,
        Option.isSome_eq_false_iff, Option.isNone_iff_eq_none] at hfound
      exact ⟨hop, List.mem_of_find?_eq_some hfind, by simpa using List.find?_some hfind,
        hfound.1, hfound.2.1.1, hfound.2.1.2⟩

structure SameServer (target peer : PeerEndpointSection) : Prop where
  host : target.host = peer.host
  port : target.port = peer.port
  realityPublicKey : target.realityPublicKey = peer.realityPublicKey
  transport : target.transport = peer.transport
  vlessFlow : target.vlessFlow = peer.vlessFlow

theorem credentialRef_of_validate (h : d.validate ext = .ok ()) (hpeer : peer ∈ d.peerEndpoints)
    {ref : String} (href : peer.credentialRef = some ref) :
    ref ≠ peer.id ∧ ∃ target ∈ d.peerEndpoints, target.id = ref ∧ target.path = "direct" ∧
      target.credentialRef = none ∧ SameServer target peer := by
  simp only [validate, Check.bind_ok] at h
  obtain ⟨-, -, -, -, hrefs, -⟩ := h
  simp only [validateCredentialRefs, Check.each_ok, Check.onSome_ok] at hrefs
  have hone := hrefs peer hpeer ref href
  simp only [validateCredentialRef, Check.bind_ok, Check.refuseIf_ok] at hone
  obtain ⟨hself, hfound⟩ := hone
  refine ⟨by simpa using hself, ?_⟩
  split at hfound
  · cases hfound
  · next target hfind =>
    simp only [Check.bind_ok, Check.refuseIf_ok, Bool.or_eq_false_iff, bne_eq_false_iff_eq,
      Option.isSome_eq_false_iff, Option.isNone_iff_eq_none] at hfound
    obtain ⟨htransport, ⟨hown, hdirect⟩, hflow, ⟨hhost, hport⟩, hkey⟩ := hfound
    exact ⟨target, List.mem_of_find?_eq_some hfind, by simpa using List.find?_some hfind, hdirect,
      hown, hhost, hport, hkey, htransport, hflow⟩

theorem relayRoute_of_validate (h : d.validate ext = .ok ()) (hpeer : peer ∈ d.peerEndpoints)
    (hdirect : peer.path ≠ "direct") (hpath : d.relayPath peer.path = some path) :
    peer.transport = .vlessReality ∧ ∃ via, path.viaEndpointId = some via ∧ via ≠ peer.id := by
  simp only [validate, Check.bind_ok] at h
  obtain ⟨-, -, -, -, -, hroutes, -⟩ := h
  simp only [validateRelayRoutes, Check.each_ok] at hroutes
  have hroute := hroutes peer hpeer
  simp only [validateRelayRoute, if_neg hdirect, hpath, Check.bind_ok, Check.refuseIf_ok,
    bne_eq_false_iff_eq] at hroute
  obtain ⟨htransport, hvia⟩ := hroute
  refine ⟨htransport, ?_⟩
  split at hvia
  · cases hvia
  · next via hsome =>
    simp only [Check.bind_ok, Check.refuseIf_ok, beq_eq_false_iff_ne] at hvia
    exact ⟨via, hsome, hvia.1⟩

theorem mem_of_relayPath {id : String} (h : d.relayPath id = some path) : path ∈ d.accessPaths :=
  List.mem_of_find?_eq_some h

end Accepted

theorem mem_relayTargets {d : DeploymentConfig} {t : RelayTarget} :
    t ∈ d.relayTargets ↔ d.role = .relay ∧
      ∃ peer ∈ d.peerEndpoints, d.viaOwnListener peer = true ∧
        t.host = peer.host ∧ t.port = peer.port := by
  unfold relayTargets
  by_cases hr : d.role = .relay
  · simp only [hr, bne_self_eq_false, Bool.false_eq_true, if_false, mem_dedupAdjacent,
      List.mem_insertionSort, List.mem_map, List.mem_filter, true_and]
    constructor
    · rintro ⟨peer, ⟨hp, hv⟩, rfl⟩
      exact ⟨peer, hp, hv, rfl, rfl⟩
    · rintro ⟨peer, hp, hv, hh, hport⟩
      exact ⟨peer, ⟨hp, hv⟩, by rw [← hh, ← hport]⟩
  · simp [hr]

end DeploymentConfig

/-! ### Two nodes -/

def samplePrivateBytes : List UInt8 :=
  [119, 7, 109, 10, 115, 24, 165, 125, 60, 22, 193, 114, 81, 178, 102, 69, 223, 76, 47, 135, 235,
    192, 153, 42, 177, 119, 251, 165, 29, 185, 44, 42]

def samplePublicBytes : List UInt8 :=
  [133, 32, 240, 9, 137, 48, 167, 84, 116, 139, 125, 220, 180, 62, 247, 90, 13, 191, 58, 13, 38,
    56, 26, 244, 235, 164, 169, 142, 170, 155, 78, 106]

/-- The libraries on one X25519 key pair, in bytes and in base64url. -/
def sampleExternal : External where
  base64UrlDecode text :=
    if text = samplePrivateKey then .ok samplePrivateBytes
    else if text = samplePublicKey then .ok samplePublicBytes
    else .error "Invalid padding"
  base64UrlEncode bytes := if bytes = samplePublicBytes then samplePublicKey else samplePrivateKey
  mulBaseClamped bytes := if bytes = samplePrivateBytes then samplePublicBytes else bytes

def sampleRelay : DeploymentConfig where
  schemaVersion := 2
  nodeId := "relay-1"
  role := .relay
  publicHost := "relay.example.net"
  reality := ⟨443, "www.example.org", 443⟩
  hysteria2 := ⟨8443, none, none⟩
  subscription := ⟨8080, "Example"⟩
  accessPaths := [⟨"via-relay", "relay", some "reality-1", none, none, none, ["tcp"], []⟩]
  peerEndpoints := [
    { id := "exit-1", tag := "Exit 1", host := "exit.example.net", port := 443,
      transport := .vlessReality, serverName := none, realityPublicKey := some samplePublicKey,
      realityShortId := some "ab", realityFingerprint := "chrome", obfsPassword := none,
      failureDomain := "exit", region := none, provider := none, asn := none,
      path := "via-relay", credentialRef := none, vlessFlow := .vision, extra := [] }]
  googleEgressHairpin := none
  egress := none
  googleEgressTlsSpoof := none
  exitPrincipals := some ⟨true⟩
  publicIpv4 := none
  publicIpv6 := none

theorem sampleRelay_valid : sampleRelay.validate sampleExternal = .ok () := rfl

theorem sampleRelay_targets : sampleRelay.relayTargets = [⟨"exit.example.net", 443⟩] := by
  decide

def sampleExit : DeploymentConfig :=
  { sampleRelay with
    nodeId := "exit-1"
    role := .exit
    publicHost := "exit.example.net"
    accessPaths := []
    peerEndpoints := []
    googleEgressHairpin := some ⟨"relay.example.net", 443, "www.example.org", samplePublicKey, "ab"⟩
    exitPrincipals := none }

theorem sampleExit_valid : sampleExit.validate sampleExternal = .ok () := rfl

end SingboxVpn
