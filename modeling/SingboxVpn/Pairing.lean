import SingboxVpn.Lib.Lines
import SingboxVpn.StaticRevision

/-!
# Pairing bundles

`crates/compat-config/src/pairing.rs`: the document that one node hands to the other when a relay
and an exit are paired, what is checked of it, and the route that the relay declares from it.
-/

namespace SingboxVpn

open Json
open Text (debug isBlank)

/-- The schema of an exit's bundle. -/
def EXIT_BUNDLE_SCHEMA : String := "singbox-vpn-exit-pairing/1"

/-- Public parameters of the node that issued a bundle. -/
structure PairedNode where
  nodeId : String
  host : String
  port : Nat
  serverName : String
  realityPublicKey : String
  realityShortId : String
deriving DecidableEq

/-- The credential in a bundle. -/
structure BundleCredential where
  uuid : String
deriving DecidableEq

/-- How an exit is reached, and with which credential. -/
structure ExitPairingBundle where
  schema : String
  exit : PairedNode
  vlessFlow : EndpointVlessFlow
  credential : BundleCredential
deriving DecidableEq

/-! ### Checks -/

/-- The checks of the node in a bundle. -/
def checkNode (ext : External) (node : PairedNode) (what : String) : Except CompatError Unit := do
  let bad (field why : String) : CompatError := .parse (what ++ " bundle: " ++ field ++ " " ++ why)
  Check.refuseIf (!(validateNodeId node.nodeId).isOk) (bad "node_id" "is not a valid node id")
  Check.refuseIf
    (isBlank node.host || node.host.toList.any fun c => Text.isWhitespace c || c == '/')
    (bad "host" "is not dialable")
  Check.refuseIf (node.host != Text.toAsciiLowercase node.host) (bad "host" "must be lowercase")
  Check.refuseIf (node.port == 0) (bad "port" "must not be 0")
  Check.refuseIf (isBlank node.serverName) (bad "server_name" "is empty")
  Check.mapError (fun e => bad "reality_public_key" ("is malformed (" ++ e ++ ")"))
    (validateRealityPublicKeyShape ext node.realityPublicKey)
  let sid := node.realityShortId
  Check.refuseIf
    (sid.isEmpty || Text.len sid % 2 != 0 || 16 < Text.len sid ||
      !sid.toList.all Text.isAsciiHexdigit)
    (bad "reality_short_id" "must be 2-16 hex digits, even length")

/-- The message counts the characters of the value and does not show them. -/
def checkUuid (c : BundleCredential) (what : String) : Except CompatError Unit :=
  Check.refuseIf (!isUuidV4Shaped c.uuid)
    (.parse (what ++ " bundle: credential.uuid is not an 8-4-4-4-12 hex UUID (" ++
      toString c.uuid.toList.length ++ " characters, not shown)"))

/-! ### Documents -/

def EndpointVlessFlow.wire : EndpointVlessFlow → String
  | .vision => "vision"
  | .none => "none"

def readFlow : Json → Except String EndpointVlessFlow
  | .str "vision" => .ok .vision
  | .str "none" => .ok .none
  | _ => .error "unknown variant, expected `vision` or `none`"

def PairedNode.toValue (n : PairedNode) : Json :=
  .obj [("node_id", .str n.nodeId), ("host", .str n.host), ("port", .num n.port),
    ("server_name", .str n.serverName), ("reality_public_key", .str n.realityPublicKey),
    ("reality_short_id", .str n.realityShortId)]

def BundleCredential.toValue (c : BundleCredential) : Json := .obj [("uuid", .str c.uuid)]

def ExitPairingBundle.toValue (b : ExitPairingBundle) : Json :=
  .obj [("schema", .str b.schema), ("exit", b.exit.toValue), ("vless_flow", .str b.vlessFlow.wire),
    ("credential", b.credential.toValue)]

/-- The fields of a record that knows no other member and none of them twice. -/
def strictFields (names : List String) (j : Json) : Except String Table := do
  let m ← structFields names names.length j
  Check.onSome (fun p => .error ("unknown field " ++ p.1)) (m.find? fun p => !names.contains p.1)
  Check.refuseIf (!decide (m.map Prod.fst).Nodup) "duplicate field"
  .ok m

def readNode (j : Json) : Except String PairedNode := do
  let m ← strictFields ["node_id", "host", "port", "server_name", "reality_public_key",
    "reality_short_id"] j
  let text (key : String) := readRequired readStr key (m.lookup key)
  .ok {
    nodeId := ← text "node_id"
    host := ← text "host"
    port := ← readRequired (readUnsigned 16) "port" (m.lookup "port")
    serverName := ← text "server_name"
    realityPublicKey := ← text "reality_public_key"
    realityShortId := ← text "reality_short_id" }

def readCredential (j : Json) : Except String BundleCredential := do
  let m ← strictFields ["uuid"] j
  .ok ⟨← readRequired readStr "uuid" (m.lookup "uuid")⟩

def readExitBundle (j : Json) : Except String ExitPairingBundle := do
  let m ← strictFields ["schema", "exit", "vless_flow", "credential"] j
  .ok {
    schema := ← readRequired readStr "schema" (m.lookup "schema")
    exit := ← readRequired readNode "exit" (m.lookup "exit")
    vlessFlow := ← readRequired readFlow "vless_flow" (m.lookup "vless_flow")
    credential := ← readRequired readCredential "credential" (m.lookup "credential") }

/-- A bundle from its document, checked. -/
def parseExitBundle (ext : External) (document : Json) : Except CompatError ExitPairingBundle := do
  let b ← (readExitBundle document).mapError fun e =>
    .parse ("exit pairing bundle is not valid: " ++ e)
  Check.refuseIf (b.schema != EXIT_BUNDLE_SCHEMA)
    (.parse ("exit pairing bundle: unsupported schema " ++ debug b.schema ++
      " (this vpn-admin reads " ++ EXIT_BUNDLE_SCHEMA ++ ")"))
  checkNode ext b.exit "exit"
  checkUuid b.credential "exit"
  .ok b

theorem readNode_toValue {n : PairedNode} (hport : n.port < 2 ^ 16) :
    readNode n.toValue = .ok n := by
  have hnum : readUnsigned 16 (.num n.port) = .ok n.port := by
    rw [readUnsigned, if_pos ⟨Int.natCast_nonneg _, by simpa using hport⟩, Int.toNat_natCast]
  show (do let port ← readUnsigned 16 (.num n.port); _) = _
  rw [hnum]
  rfl

theorem readExitBundle_toValue {b : ExitPairingBundle} (hport : b.exit.port < 2 ^ 16) :
    readExitBundle b.toValue = .ok b := by
  have hflow : readFlow (.str b.vlessFlow.wire) = .ok b.vlessFlow := by
    cases b.vlessFlow <;> rfl
  show (readNode b.exit.toValue >>= fun exit => _) = _
  rw [readNode_toValue hport]
  show (readFlow (.str b.vlessFlow.wire) >>= fun vlessFlow => _) = _
  rw [hflow]
  rfl

/-- What is written is read back, unless a check refuses it. -/
theorem parseExitBundle_toValue {ext : External} {b : ExitPairingBundle}
    (hport : b.exit.port < 2 ^ 16) {b' : ExitPairingBundle} :
    parseExitBundle ext b.toValue = .ok b' ↔ b.schema = EXIT_BUNDLE_SCHEMA ∧
      checkNode ext b.exit "exit" = .ok () ∧ checkUuid b.credential "exit" = .ok () ∧ b = b' := by
  rw [parseExitBundle, readExitBundle_toValue hport]
  show (Check.refuseIf _ _ >>= fun _ => _) = _ ↔ _
  simp only [Check.bind_ok, Check.refuseIf_ok, bne_eq_false_iff_eq, Except.ok.injEq]

/-! ### The declared route -/

/-- The peer that a bundle describes. -/
def peerEndpointFromExitBundle (endpointId tag path : String) (bundle : ExitPairingBundle) :
    PeerEndpointSection where
  id := endpointId
  tag := tag
  host := bundle.exit.host
  port := bundle.exit.port
  transport := .vlessReality
  serverName := some bundle.exit.serverName
  realityPublicKey := some bundle.exit.realityPublicKey
  realityShortId := some bundle.exit.realityShortId
  realityFingerprint := "chrome"
  obfsPassword := none
  failureDomain := "exit:" ++ bundle.exit.nodeId
  region := none
  provider := none
  asn := none
  path := path
  credentialRef := none
  vlessFlow := bundle.vlessFlow
  extra := []

/-- Two declarations of one route. -/
def sameRoute (existing wanted : PeerEndpointSection) : Bool :=
  existing.host == wanted.host && existing.port == wanted.port &&
    existing.transport == wanted.transport && existing.serverName == wanted.serverName &&
    existing.realityPublicKey == wanted.realityPublicKey &&
    existing.realityShortId == wanted.realityShortId && existing.path == wanted.path &&
    existing.vlessFlow == wanted.vlessFlow && existing.credentialRef == wanted.credentialRef

/-- What came of a declaration. -/
inductive PeerEndpointOutcome where
  | alreadyDeclared
  | declared (text : String)

/-- What deployment.toml then holds. -/
def PeerEndpointOutcome.text (original : String) : PeerEndpointOutcome → String
  | .alreadyDeclared => original
  | .declared text => text

def tomlField (key value : String) : String := key ++ " = " ++ debug value ++ "\n"

def peerEndpointBlock (wanted : PeerEndpointSection) : String :=
  "\n[[peer_endpoints]]\n" ++ tomlField "id" wanted.id ++ tomlField "tag" wanted.tag ++
    tomlField "host" wanted.host ++ "port = " ++ toString wanted.port ++
    "\ntransport = \"vless_reality\"\n" ++
    (wanted.serverName.elim "" (tomlField "server_name")) ++
    (wanted.realityPublicKey.elim "" (tomlField "reality_public_key")) ++
    (wanted.realityShortId.elim "" (tomlField "reality_short_id")) ++
    tomlField "failure_domain" wanted.failureDomain ++ tomlField "path" wanted.path ++
    if wanted.vlessFlow = .none then "vless_flow = \"none\"\n" else ""

def appendPeer (original : String) (wanted : PeerEndpointSection) : String :=
  String.ofList (Lines.trimEnd original.toList) ++ "\n" ++ peerEndpointBlock wanted

def DeploymentFile.withPeers (file : DeploymentFile) (peers : List PeerEndpointSection) :
    DeploymentFile :=
  { file with config := { file.config with peerEndpoints := peers } }

/-- Appends one block; the caller writes the text. -/
def applyPeerEndpointToml (toml : Toml) (ext : External) (original : String)
    (wanted : PeerEndpointSection) : Except CompatError PeerEndpointOutcome := do
  let old ← toml.load ext original
  match old.config.peerEndpoints.find? (·.id == wanted.id) with
  | some existing =>
    if sameRoute existing wanted then .ok .alreadyDeclared
    else .error (.parse ("peer endpoint " ++ debug wanted.id ++ " is already declared with " ++
      "different parameters; refusing to replace it (declare a new id, or remove the old " ++
      "[[peer_endpoints]] block deliberately)"))
  | none =>
    let new ← toml.load ext (appendPeer original wanted)
    Check.refuseIf (decide (old.withPeers [] ≠ new.withPeers []) ||
        new.config.peerEndpoints.length != old.config.peerEndpoints.length + 1)
      (.parse "peer endpoint patch would change another operator setting; refusing")
    .ok (.declared (appendPeer original wanted))

theorem Toml.load_valid {toml : Toml} {ext : External} {text : String} {file : DeploymentFile}
    (h : toml.load ext text = .ok file) : file.config.validate ext = .ok () := by
  simp only [Toml.load, Check.bind_eq_ok, Check.mapError_eq_ok, Except.ok.injEq] at h
  obtain ⟨t, -, _, -, _, hvalid, rfl⟩ := h
  exact hvalid

/-- The crate reads the block as it stands, after the peers that were there. -/
def Toml.ReadsPeer (toml : Toml) (ext : External) (wanted : PeerEndpointSection) : Prop :=
  ∀ {original old new}, toml.load ext original = .ok old →
    toml.load ext (appendPeer original wanted) = .ok new →
    new.config.peerEndpoints = old.config.peerEndpoints ++ [wanted]

variable {toml : Toml} {ext : External} {original : String} {wanted : PeerEndpointSection}
  {outcome : PeerEndpointOutcome}

/-- A route under a new id is appended if the crate finds it and nothing else that is new. -/
theorem applyPeerEndpointToml_declared {old new : DeploymentFile}
    (hold : toml.load ext original = .ok old)
    (hfind : old.config.peerEndpoints.find? (·.id == wanted.id) = none)
    (hnew : toml.load ext (appendPeer original wanted) = .ok new)
    (hrest : old.withPeers [] = new.withPeers [])
    (hlength : new.config.peerEndpoints.length = old.config.peerEndpoints.length + 1) :
    applyPeerEndpointToml toml ext original wanted =
      .ok (.declared (appendPeer original wanted)) := by
  simp [applyPeerEndpointToml, hold, hfind, hnew, hrest, hlength, Check.refuseIf, bind, Except.bind]

/-- The file that follows is accepted, and no setting but the peers differs. -/
theorem applyPeerEndpointToml_keeps
    (h : applyPeerEndpointToml toml ext original wanted = .ok outcome) :
    ∃ old new, toml.load ext original = .ok old ∧ toml.load ext (outcome.text original) = .ok new ∧
      new = old.withPeers new.config.peerEndpoints := by
  obtain ⟨old, hold, h⟩ := Check.bind_eq_ok.mp h
  split at h
  · split at h
    · cases h
      exact ⟨old, old, hold, hold, rfl⟩
    · cases h
  · obtain ⟨new, hnew, h⟩ := Check.bind_eq_ok.mp h
    simp only [Check.bind_ok, Check.refuseIf_ok, Bool.or_eq_false_iff, decide_eq_false_iff_not,
      not_not] at h
    obtain ⟨⟨hsame, -⟩, h⟩ := h
    cases h
    exact ⟨old, new, hold, hnew,
      (congrArg (DeploymentFile.withPeers · new.config.peerEndpoints) hsame).symm⟩

/-- The file that follows declares the route under its id. -/
theorem applyPeerEndpointToml_route (hreads : toml.ReadsPeer ext wanted)
    (h : applyPeerEndpointToml toml ext original wanted = .ok outcome) :
    ∃ file peer, toml.load ext (outcome.text original) = .ok file ∧
      file.config.peerEndpoints.find? (·.id == wanted.id) = some peer ∧
      sameRoute peer wanted = true := by
  obtain ⟨old, hold, h⟩ := Check.bind_eq_ok.mp h
  split at h
  · next existing hfind =>
    split at h
    · next hsame =>
      cases h
      exact ⟨old, existing, hold, hfind, hsame⟩
    · cases h
  · next hfind =>
    obtain ⟨new, hnew, h⟩ := Check.bind_eq_ok.mp h
    simp only [Check.bind_ok] at h
    obtain ⟨-, h⟩ := h
    cases h
    refine ⟨new, wanted, hnew, ?_, by simp [sameRoute]⟩
    rw [hreads hold hnew, List.find?_append, hfind]
    simp

end SingboxVpn
