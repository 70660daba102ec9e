import SingboxVpn.Lib.Json
import SingboxVpn.Lib.Text
import SingboxVpn.Lib.Addr

namespace SingboxVpn

/-!
# Users, credential grants and the constants of the egress policy

The compatibility domain model: an account (`CompatUser`) holds credential grants, each
with a principal id, credential material and a half-open validity window.  Rendering and
every route rule go by the principals of the grants authorized at an instant.


Times are Unix seconds in 64-bit signed integers; they are `Int` here, and `wrap64` marks
where the code's arithmetic can leave that range.
-/

/-! ### Constants -/

/-- The Google/YouTube domain set of the hairpin and of the TLS spoof. -/
def GOOGLE_EGRESS_DOMAINS : List String :=
  ["youtube.com", "youtubekids.com", "youtu.be", "youtube-nocookie.com", "googlevideo.com",
    "ytimg.com", "ggpht.com", "googleusercontent.com", "youtubei.googleapis.com",
    "google.com", "googleapis.com", "gstatic.com"]

/-- IPv4 ranges that no tunnel user may reach through an exit. -/
def C16_DENY_IPV4_CIDRS : List String :=
  ["0.0.0.0/8", "10.0.0.0/8", "100.64.0.0/10", "127.0.0.0/8", "169.254.0.0/16",
    "172.16.0.0/12", "192.0.0.0/24", "192.0.2.0/24", "192.168.0.0/16", "198.18.0.0/15",
    "198.51.100.0/24", "203.0.113.0/24", "224.0.0.0/4", "240.0.0.0/4"]

/-- IPv6 ranges that no tunnel user may reach through an exit. -/
def C16_DENY_IPV6_CIDRS : List String :=
  ["::/128", "::1/128", "::ffff:0:0/96", "64:ff9b::/96", "100::/64", "2001:db8::/32",
    "fc00::/7", "fe80::/10", "ff00::/8", "fd00:ec2::254/128"]

/-- The TCP port that is rejected whatever the destination. -/
def C16_DENY_TCP_PORT : Nat := 25

/-- The addresses a probe may reach. -/
def PROBE_ALLOWED_IP_CIDRS : List String := ["1.1.1.1/32"]

/-- The names a probe may reach. -/
def PROBE_ALLOWED_DOMAINS : List String := ["www.gstatic.com", "ipv6.icanhazip.com"]

/-- The port a probe may reach. -/
def PROBE_ALLOWED_PORT : Nat := 443

def I64_MAX : Int := 9223372036854775807

def I64_MIN : Int := -9223372036854775808

def wrap64 (n : Int) : Int := Int.bmod n (2 ^ 64)

theorem wrap64_of_mem {n : Int} (hlow : -2 ^ 63 ≤ n) (hhigh : n ≤ I64_MAX) : wrap64 n = n := by
  unfold wrap64
  unfold I64_MAX at hhigh
  rw [Int.bmod_eq_of_le] <;> omega

theorem wrap64_add (n : Int) : wrap64 (n + 18446744073709551616) = wrap64 n := by
  have hstep : (18446744073709551616 : Int) = 1 * ((2 ^ 64 : Nat) : Int) := rfl
  unfold wrap64
  rw [hstep]
  exact Int.add_mul_bmod_self_right ..

theorem wrap64_of_low {n : Int} (hlow : -2 ^ 63 ≤ n + 18446744073709551616)
    (hhigh : n + 18446744073709551616 ≤ I64_MAX) : wrap64 n = n + 18446744073709551616 := by
  rw [← wrap64_add, wrap64_of_mem hlow hhigh]

theorem wrap64_of_high {n : Int} (hlow : -2 ^ 63 ≤ n - 18446744073709551616)
    (hhigh : n - 18446744073709551616 ≤ I64_MAX) : wrap64 n = n - 18446744073709551616 := by
  have h := wrap64_add (n - 18446744073709551616)
  rw [Int.sub_add_cancel, wrap64_of_mem hlow hhigh] at h
  exact h

/-- How RFC 3339 texts are read: as nanoseconds since the epoch. -/
abbrev Rfc3339 := String → Option Int

def unixTimestamp (nanos : Int) : Int := nanos / 10 ^ 9

def IsI64 (n : Int) : Prop := -2 ^ 63 ≤ n ∧ n ≤ I64_MAX

instance (n : Int) : Decidable (IsI64 n) := inferInstanceAs (Decidable (_ ∧ _))

/-- The grace before a grant's start, in seconds. -/
def VALID_FROM_SKEW_GRACE_SECS : Int := 30

/-! ### Errors -/

/-- Why a provisioning document is not served. -/
inductive ContractError where
  | unsupportedSchemaVersion (requested : Nat) (supported : List Nat)
  | empty (field : String)
  | invalid (field reason : String)
  | malformedUuid (endpointId got : String)
  | missingRealityParameter (endpointId missing : String)
  | emptyHysteria2Password (endpointId : String)
  | emptyObfsPassword (endpointId : String)
  | capabilityWithoutEndpoint (capability : String)
  | endpointWithoutCapability (endpointId transport : String)
  | duplicateEndpointId (id : String)
  | duplicateAccessPathId (id : String)
  | unknownAccessPathReference (endpointId pathId : String)
  | experimentalInProductionCapabilities (capability : String)
  | experimentalCapabilityMisnamed (capability start : String)
  | forbiddenContent (found reason : String)
  | embeddedConfigInvalid (reason : String)
  | endpointTagMissingOutbound (endpointId tag : String)
  | selectorOptionsMismatch (selector : String) (expected found : List String)
  | routeFinalMismatch (selector found : String)
  | relayedEndpointNotChained (tag : String)
  | automaticGroupCrossesPrivacyClass (group member : String)
deriving DecidableEq, Repr

/-- The errors of the compatibility layer that the modelled functions return. -/
inductive CompatError where
  | io (msg : String)
  | parse (msg : String)
  | configValidationFailed (msg : String)
  | wrongTransportForEndpoint
  | userNotFound
  | noSelectableRoute
  | contract (violation : ContractError)
  | unsupportedSchema (what : String) (found maxSupported : Nat)
deriving DecidableEq, Repr

/-! ### Grants and accounts -/

/-- The transport of a listener. -/
inductive CompatTransport where
  | vlessReality
  | hysteria2
deriving DecidableEq, Repr, Inhabited

/-- The name of a transport. -/
def CompatTransport.asStr : CompatTransport → String
  | .vlessReality => "vless-reality"
  | .hysteria2 => "hysteria2"

/-- The XTLS flow a client presents to one endpoint. -/
inductive EndpointVlessFlow where
  | vision
  | none
deriving DecidableEq, Repr, Inhabited

/-- The policy that a grant is minted under. -/
inductive CredentialClass where
  | native
  | compatibility
deriving DecidableEq, Repr, Inhabited

/-- Groups of 8, 4, 4, 4 and 12 hexadecimal digits. -/
def isUuidV4Shaped (value : String) : Bool :=
  let groups := Text.split '-' value
  decide (groups.length = 5) && (groups.zip [8, 4, 4, 4, 12]).all fun p =>
    decide (Text.len p.1 = p.2) && p.1.toList.all Text.isAsciiHexdigit

/-- One time-bounded credential grant; the window is `[validFrom, validUntil)`. -/
structure CredentialGrant where
  principalId : String
  cls : CredentialClass
  vlessUuid : String
  hysteria2Password : String
  validFrom : Int
  validUntil : Int
  revokedAt : Option Int
  generation : Nat
deriving DecidableEq, Repr, Inhabited

/-- The grant was revoked at or before an instant. -/
def CredentialGrant.isRevokedAt (g : CredentialGrant) (nowUnix : Int) : Bool :=
  g.revokedAt.any (· ≤ nowUnix)

/-- Whether the grant authorizes its principal at `nowUnix`. -/
def grantIsAuthorized (g : CredentialGrant) (nowUnix : Int) : Bool :=
  -- the start has the grace, the end has none
  !g.isRevokedAt nowUnix &&
    decide (g.validFrom ≤ wrap64 (nowUnix + VALID_FROM_SKEW_GRACE_SECS)) &&
    decide (nowUnix < g.validUntil)

/-- A user's credential for one peer endpoint. -/
inductive PeerCredential where
  | vlessReality (uuid : String)
  | hysteria2 (password : String)
deriving DecidableEq, Repr

/-- A stored account. -/
structure CompatUser where
  id : String
  name : String
  enabled : Bool
  vlessUuid : String
  hysteria2Password : String
  subscriptionTokenHashHex : String
  createdAt : Int
  expiresAt : Option Int
  visionOffExperiment : Bool
  googleEgressHairpin : Bool
  exitPrincipal : Bool
  peerCredentials : List (String × PeerCredential)
  isReservedProbe : Bool
  credentials : List CredentialGrant
deriving DecidableEq, Repr, Inhabited

namespace CompatUser

/-- Account-level authorization.  The creation time bounds it only for accounts that
    project an external authorization (`cred_` ids). -/
def isActive (u : CompatUser) (nowUnix : Int) : Bool :=
  -- only for the account of a credential is the creation time a start
  let started := !Text.startsWith "cred_" u.id || decide (u.createdAt ≤ nowUnix)
  u.enabled && started && (u.expiresAt.map fun exp => decide (nowUnix < exp)).getD true

def legacyGrant (u : CompatUser) : CredentialGrant where
  principalId := u.id
  cls := .compatibility
  vlessUuid := u.vlessUuid
  hysteria2Password := u.hysteria2Password
  validFrom := 0
  validUntil := u.expiresAt.getD I64_MAX
  revokedAt := none
  generation := 1

/-- Stored grants are authoritative once there is one. -/
def effectiveGrants (u : CompatUser) : List CredentialGrant :=
  if !u.credentials.isEmpty then u.credentials else [u.legacyGrant]

def authorizedGrants (u : CompatUser) (nowUnix : Int) : List CredentialGrant :=
  u.effectiveGrants.filter (grantIsAuthorized · nowUnix)

/-- The principals that every `auth_user` rule about this account is scoped to. -/
def activePrincipalIds (u : CompatUser) (nowUnix : Int) : List String :=
  if !u.isActive nowUnix then []
  else (u.authorizedGrants nowUnix).map CredentialGrant.principalId

theorem activePrincipalIds_of_active {u : CompatUser} {now : Int} (h : u.isActive now = true) :
    u.activePrincipalIds now = (u.authorizedGrants now).map CredentialGrant.principalId := by
  simp [activePrincipalIds, h]

/-- The times at which an account without stored grants has one in force: the start of its
    window is the epoch, whatever the account's own start is. -/
def LegacyTime (nowUnix : Int) : Prop :=
  -VALID_FROM_SKEW_GRACE_SECS ≤ nowUnix ∧ nowUnix + VALID_FROM_SKEW_GRACE_SECS ≤ I64_MAX

instance (nowUnix : Int) : Decidable (LegacyTime nowUnix) := inferInstanceAs (Decidable (_ ∧ _))

theorem authorizedGrants_legacy {u : CompatUser} {now : Int} (hnone : u.credentials = [])
    (hactive : u.isActive now = true) (htime : LegacyTime now) :
    u.authorizedGrants now = [u.legacyGrant] := by
  obtain ⟨hlow, hhigh⟩ := htime
  unfold VALID_FROM_SKEW_GRACE_SECS at hlow hhigh
  -- in this range the grace does not leave the machine integers
  have hwrap : wrap64 (now + VALID_FROM_SKEW_GRACE_SECS) = now + 30 :=
    wrap64_of_mem (by unfold VALID_FROM_SKEW_GRACE_SECS; omega) hhigh
  have huntil : now < u.legacyGrant.validUntil := by
    show now < u.expiresAt.getD I64_MAX
    cases hexp : u.expiresAt with
    | none =>
      show now < I64_MAX
      omega
    | some e =>
      simp only [isActive, hexp, Option.map_some, Option.getD_some, Bool.and_eq_true,
        decide_eq_true_eq] at hactive
      exact hactive.2
  have hauth : grantIsAuthorized u.legacyGrant now = true := by
    simp only [grantIsAuthorized, hwrap, Bool.and_eq_true, decide_eq_true_eq]
    refine ⟨⟨rfl, ?_⟩, huntil⟩
    show (0 : Int) ≤ now + 30
    omega
  have hgrants : u.effectiveGrants = [u.legacyGrant] := by
    simp [effectiveGrants, hnone]
  simp [authorizedGrants, hgrants, hauth]

theorem isActive_of_mem {u : CompatUser} {now : Int} {p : String}
    (h : p ∈ u.activePrincipalIds now) : u.isActive now = true := by
  unfold activePrincipalIds at h
  split at h
  · cases h
  · simpa using ‹¬ (!u.isActive now) = true›

end CompatUser

def principalsOf (sel : CompatUser → Bool) (users : List CompatUser) (now : Int) : List String :=
  (users.filter fun u => u.isActive now && sel u).flatMap (·.activePrincipalIds now)

theorem mem_principalsOf {sel : CompatUser → Bool} {users : List CompatUser} {now : Int}
    {p : String} :
    p ∈ principalsOf sel users now ↔
      ∃ u ∈ users, sel u = true ∧ p ∈ u.activePrincipalIds now := by
  simp only [principalsOf, List.mem_flatMap, List.mem_filter, Bool.and_eq_true]
  constructor
  · rintro ⟨u, ⟨hu, -, hsel⟩, hp⟩
    exact ⟨u, hu, hsel, hp⟩
  · rintro ⟨u, hu, hsel, hp⟩
    exact ⟨u, ⟨hu, CompatUser.isActive_of_mem hp, hsel⟩, hp⟩

/-! ### Server-side parameters -/

/-- REALITY parameters of this node, and an exit's own credential for its hairpin. -/
structure RealityServerParams where
  privateKeyHex : String
  publicKeyHex : String
  shortIds : List String
  handshakeServer : String
  handshakePort : Nat
  googleEgressHairpinUuid : Option String
deriving DecidableEq, Repr, Inhabited

/-- The server's Hysteria2 parameters. -/
structure Hysteria2ServerParams where
  tlsCertPath : String
  tlsKeyPath : String
  obfsPassword : Option String
  masqueradeDirPath : Option String
  upMbps : Option Nat
  downMbps : Option Nat
deriving DecidableEq, Repr, Inhabited

/-! ### One node's parameters and one account -/

def sampleInstants : List (String × Int) :=
  [("1970-01-01T00:00:00Z", 0), ("1970-01-01T00:01:40Z", 100 * 10 ^ 9),
    ("1970-01-01T00:33:20Z", 2000 * 10 ^ 9), ("1970-01-01T01:06:40Z", 4000 * 10 ^ 9),
    ("1970-01-02T00:00:00Z", 86400 * 10 ^ 9)]

/-- The library on these instants. -/
def sampleParse : Rfc3339 := fun text => sampleInstants.lookup text

def samplePrivateKey : String := "dwdtCnMYpX08FsFyUbJmRd9ML4frwJkqsXf7pR25LCo"

def samplePublicKey : String := "hSDwCYkwp1R0i33ctD73Wg2_Og0mOBr066SpjqqbTmo"

def sampleReality : RealityServerParams where
  privateKeyHex := samplePrivateKey
  publicKeyHex := samplePublicKey
  shortIds := ["ab"]
  handshakeServer := "www.example.org"
  handshakePort := 443
  googleEgressHairpinUuid := none

def sampleHysteria : Hysteria2ServerParams := ⟨"cert.pem", "key.pem", none, none, none, none⟩

/-- The SHA-256 digest of the text `token`. -/
def sampleTokenHash : String :=
  "3c469e9d6c5875d37a43f353d4f88e61fcf812c66eee3457465a40b0da4153e0"

def sampleUser : CompatUser where
  id := "user_1"
  name := "user"
  enabled := true
  vlessUuid := "00000000-0000-4000-8000-000000000001"
  hysteria2Password := "0123456789abcdef"
  subscriptionTokenHashHex := sampleTokenHash
  createdAt := 0
  expiresAt := none
  visionOffExperiment := false
  googleEgressHairpin := false
  exitPrincipal := false
  peerCredentials := []
  isReservedProbe := false
  credentials := []

end SingboxVpn
