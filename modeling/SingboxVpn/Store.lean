import SingboxVpn.CredentialPolicy
import SingboxVpn.Lib.Decode

/-!
# users.json

`crates/compat-config/src/store.rs`: the reading of a store, in its versioned envelope or as a bare
array of accounts.

* `times_of_parse` — the times of a store that was read are machine integers.
-/

namespace SingboxVpn

open Json CredentialPolicy

/-! ### Accounts -/

def readCredentialClass : Json → Except String CredentialClass
  | .str "native" => .ok .native
  | .str "compatibility" => .ok .compatibility
  | _ => .error "unknown variant, expected native or compatibility"

def readGrant (j : Json) : Except String CredentialGrant := do
  let m ← structFields ["principal_id", "class", "vless_uuid", "hysteria2_password", "valid_from",
    "valid_until", "revoked_at", "generation"] 6 j
  let principalId ← readRequired readStr "principal_id" (m.lookup "principal_id")
  let cls ← readRequired readCredentialClass "class" (m.lookup "class")
  let vlessUuid ← readRequired readStr "vless_uuid" (m.lookup "vless_uuid")
  let hysteria2Password ← readRequired readStr "hysteria2_password" (m.lookup "hysteria2_password")
  let validFrom ← readRequired readSigned "valid_from" (m.lookup "valid_from")
  let validUntil ← readRequired readSigned "valid_until" (m.lookup "valid_until")
  let revokedAt ← readOption readSigned (m.lookup "revoked_at")
  let generation ← readOr (readUnsigned 64) 1 (m.lookup "generation")
  .ok { principalId, cls, vlessUuid, hysteria2Password, validFrom, validUntil, revokedAt, generation }

def readPeerCredential : Json → Except String PeerCredential
  | .obj m => do
    match ← readRequired readStr "transport" (m.lookup "transport") with
    | "vless_reality" => .vlessReality <$> readRequired readStr "uuid" (m.lookup "uuid")
    | "hysteria2" => .hysteria2 <$> readRequired readStr "password" (m.lookup "password")
    | _ => .error "unknown variant, expected vless_reality or hysteria2"
  | .arr [.str "vless_reality", uuid] => .vlessReality <$> readStr uuid
  | .arr [.str "hysteria2", password] => .hysteria2 <$> readStr password
  | _ => .error "invalid type: expected an internally tagged enum"

def readPeerCredentials : Json → Except String (List (String × PeerCredential))
  | .obj m => m.mapM fun kv => (kv.1, ·) <$> readPeerCredential kv.2
  | _ => .error "invalid type: expected a map"

def readUser (j : Json) : Except String CompatUser := do
  let m ← structFields ["id", "name", "enabled", "vless_uuid", "hysteria2_password",
    "subscription_token_hash_hex", "created_at", "expires_at", "vision_off_experiment",
    "google_egress_hairpin", "exit_principal", "peer_credentials", "is_reserved_probe",
    "credentials"] 8 j
  let id ← readRequired readStr "id" (m.lookup "id")
  let name ← readRequired readStr "name" (m.lookup "name")
  let enabled ← readRequired readBool "enabled" (m.lookup "enabled")
  let vlessUuid ← readRequired readStr "vless_uuid" (m.lookup "vless_uuid")
  let hysteria2Password ← readRequired readStr "hysteria2_password" (m.lookup "hysteria2_password")
  let subscriptionTokenHashHex ←
    readRequired readStr "subscription_token_hash_hex" (m.lookup "subscription_token_hash_hex")
  let createdAt ← readRequired readSigned "created_at" (m.lookup "created_at")
  let expiresAt ← readOption readSigned (m.lookup "expires_at")
  let visionOffExperiment ← readOr readBool false (m.lookup "vision_off_experiment")
  let googleEgressHairpin ← readOr readBool false (m.lookup "google_egress_hairpin")
  let exitPrincipal ← readOr readBool false (m.lookup "exit_principal")
  let peerCredentials ← readOr readPeerCredentials [] (m.lookup "peer_credentials")
  let isReservedProbe ← readOr readBool false (m.lookup "is_reserved_probe")
  let credentials ← readOr (readList readGrant) [] (m.lookup "credentials")
  .ok { id, name, enabled, vlessUuid, hysteria2Password, subscriptionTokenHashHex, createdAt,
        expiresAt, visionOffExperiment, googleEgressHairpin, exitPrincipal, peerCredentials,
        isReservedProbe, credentials }

/-! ### The store -/

/-- The schema version of users.json. -/
def USERS_SCHEMA_VERSION : Nat := 1

/-- The versioned envelope of users.json. -/
structure UsersFile where
  schemaVersion : Nat
  users : List CompatUser

def readUsersFile (j : Json) : Except String UsersFile := do
  let m ← structFields ["schema_version", "users"] 2 j
  let schemaVersion ← readRequired (readUnsigned 32) "schema_version" (m.lookup "schema_version")
  let users ← readRequired (readList readUser) "users" (m.lookup "users")
  .ok { schemaVersion, users }

/-- The store of a text; `fromSlice` is the document of a text, which a text with a repeated member
    does not have. -/
def parseUsersBytes (fromSlice : List UInt8 → Except String Json) (bytes : List UInt8) :
    Except CompatError (List CompatUser) :=
  match fromSlice bytes >>= readUsersFile with
  | .ok versioned =>
    if USERS_SCHEMA_VERSION < versioned.schemaVersion then
      .error (.unsupportedSchema "users.json" versioned.schemaVersion USERS_SCHEMA_VERSION)
    else .ok versioned.users
  | .error _ => (fromSlice bytes >>= readList readUser).mapError .parse

/-! ### What was read -/

theorem isI64_of_required {name : String} {j : Option Json} {n : Int}
    (h : readRequired readSigned name j = .ok n) : IsI64 n := by
  obtain ⟨_, _, hread⟩ := readRequired_ok h
  obtain ⟨hlow, hhigh⟩ := readSigned_mem hread
  exact ⟨hlow, by unfold I64_MAX; omega⟩

theorem isI64_of_readGrant {j : Json} {g : CredentialGrant} (h : readGrant j = .ok g) :
    IsI64 g.validFrom := by
  simp only [readGrant, Check.bind_eq_ok, Except.ok.injEq] at h
  obtain ⟨_, _, _, _, _, _, _, _, _, _, _, hfrom, _, _, _, _, _, _, rfl⟩ := h
  exact isI64_of_required hfrom

theorem times_of_readUser {j : Json} {u : CompatUser} (h : readUser j = .ok u) : u.TimesI64 := by
  simp only [readUser, Check.bind_eq_ok, Except.ok.injEq] at h
  obtain ⟨_, _, _, _, _, _, _, _, _, _, _, _, _, _, _, hcreated, _, _, _, _, _, _, _, _, _, _, _, _,
    grants, hgrants, rfl⟩ := h
  refine ⟨isI64_of_required hcreated, fun g hg => ?_⟩
  rcases readOr_ok hgrants with rfl | ⟨_, _, hlist⟩
  · exact absurd hg List.not_mem_nil
  · obtain ⟨item, hitem⟩ := readList_mem hlist g hg
    exact isI64_of_readGrant hitem

theorem times_of_parse {fromSlice : List UInt8 → Except String Json} {bytes : List UInt8}
    {users : List CompatUser} (h : parseUsersBytes fromSlice bytes = .ok users) :
    ∀ u ∈ users, u.TimesI64 := by
  have hlist : ∀ j, readList readUser j = .ok users → ∀ u ∈ users, u.TimesI64 := by
    intro j hj u hu
    obtain ⟨item, hitem⟩ := readList_mem hj u hu
    exact times_of_readUser hitem
  unfold parseUsersBytes at h
  split at h
  · next versioned hversioned =>
    split at h
    · cases h
    · cases h
      obtain ⟨j, _, hfile⟩ := Check.bind_eq_ok.mp hversioned
      simp only [readUsersFile, Check.bind_eq_ok, Except.ok.injEq] at hfile
      obtain ⟨m, _, _, _, users, husers, rfl⟩ := hfile
      obtain ⟨j, _, hread⟩ := readRequired_ok husers
      exact hlist j hread
  · obtain ⟨j, _, husers⟩ := Check.bind_eq_ok.mp (Check.mapError_eq_ok.mp h)
    exact hlist j husers

/-! ### The overlap policy of what is rendered -/

/-- The entries of a document are those of the grants in force, account by account: of each class
    at most two, and no two stored ones of which overlap for longer than the policy allows. -/
structure OverlapPolicy (users : List CompatUser) (now : Int) (doc : Json) : Prop where
  vlessEntries : inboundEntries doc REALITY_INBOUND =
    users.flatMap fun u => (u.inForce now).map fun g => vlessUser (u, g)
  hysteriaEntries : inboundEntries doc "hysteria2-in" =
    users.flatMap fun u => (u.inForce now).map fun g => hysteriaUser (u, g)
  count : ∀ u ∈ users, ∀ cls, (u.rendered cls now).length ≤ MAX_LIVE_GRANTS_PER_CLASS
  overlap : ∀ u ∈ users, ∀ cls,
    (u.credentials.filter fun g => g.cls == cls && (u.isActive now && grantIsAuthorized g now)).Pairwise
      fun a b => overlapSecs a b ≤ MAX_OVERLAP_SECS

theorem authorizedGrants_flatMap (users : List CompatUser) (now : Int) :
    authorizedGrants users now = users.flatMap fun u => (u.inForce now).map fun g => (u, g) := by
  induction users with
  | nil => rfl
  | cons u users ih => rw [authorizedGrants_cons, List.flatMap_cons, ih]

/-- Reading a store and rendering it do not look at the policy: every document that is rendered of
    a store keeps it, and no store that violates it is rendered, exactly if the store's own grants
    pass the check and no three of one class are in force where a window of their account opens. -/
theorem overlap_policy_iff (fromSlice : List UInt8 → Except String Json) (bytes : List UInt8)
    (ext : External) (d : DeploymentConfig) (reality : RealityServerParams)
    (hysteria : Hysteria2ServerParams) :
    (∀ users now doc, parseUsersBytes fromSlice bytes = .ok users → IsI64 now →
      renderServerConfigForDeployment ext d users reality hysteria now = .ok doc →
      (∀ u ∈ users, u.validateGrants = .ok ()) ∧ OverlapPolicy users now doc) ↔
    ∀ users, parseUsersBytes fromSlice bytes = .ok users → d.validate ext = .ok () →
      (projectedSet users).validate = .ok () → ∀ u ∈ users, u.validateGrants = .ok () ∧
        ∀ cls, ∀ t ∈ u.openings, (u.rendered cls t).length ≤ MAX_LIVE_GRANTS_PER_CLASS := by
  constructor
  · intro h users hparse hd hset u hu
    -- whether rendering succeeds does not depend on the time
    have hrenders : ∀ now, ∃ doc,
        renderServerConfigForDeployment ext d users reality hysteria now = .ok doc := fun _ =>
      render_ok_iff.mpr ⟨hd, hset⟩
    refine ⟨?_, fun cls => (rendered_le_iff (times_of_parse hparse u hu) cls).mp ?_⟩
    · obtain ⟨doc, hdoc⟩ := hrenders 0
      exact (h users 0 doc hparse (by decide) hdoc).1 u hu
    · intro now hnow
      obtain ⟨doc, hdoc⟩ := hrenders now
      exact (h users now doc hparse hnow hdoc).2.count u hu cls
  · intro h users now doc hparse hnow hdoc
    obtain ⟨hd, hset⟩ := render_checks hdoc
    have hkeeps := h users hparse hd hset
    refine ⟨fun u hu => (hkeeps u hu).1, ?_, ?_, ?_, ?_⟩
    · rw [vlessEntries_rendered hdoc, authorizedGrants_flatMap]
      simp [List.map_flatMap, Function.comp_def]
    · rw [hysteriaEntries_rendered hdoc, authorizedGrants_flatMap]
      simp [List.map_flatMap, Function.comp_def]
    · intro u hu cls
      exact (rendered_le_iff (times_of_parse hparse u hu) cls).mpr ((hkeeps u hu).2 cls) now hnow
    · intro u hu cls
      have hclass := CompatUser.overlaps_of_validateGrants (hkeeps u hu).1 cls
      refine hclass.sublist ?_
      rw [← List.filter_filter]
      exact List.filter_sublist.filter _

-- the policy check alone would not do: it looks at the starts of the windows without their grace
example :
    let grant (uuid : String) (validFrom validUntil : Int) : CredentialGrant :=
      ⟨"native_0123456789abcdef01234567", .native, uuid, "0123456789abcdef", validFrom, validUntil,
        none, 1⟩
    let grants := [grant "00000000-0000-4000-8000-00000000000a" 0 100,
      grant "00000000-0000-4000-8000-00000000000b" 0 3600,
      grant "00000000-0000-4000-8000-00000000000c" 110 3700]
    validateGrantSet grants = .ok () ∧ (grants.filter (grantIsAuthorized · 90)).length = 3 := by
  decide +kernel

def storedGrant (hex uuid : String) (validFrom validUntil : Int) : Json :=
  object [("principal_id", .str ("native_" ++ hex)), ("class", .str "native"),
    ("vless_uuid", .str uuid), ("hysteria2_password", .str "0123456789abcdef"),
    ("valid_from", .num validFrom), ("valid_until", .num validUntil)]

def storedAccount (grants : List Json) : Json :=
  object [("schema_version", .num 1), ("users", .arr [object [
    ("id", .str "user_1"), ("name", .str "user"), ("enabled", .bool true),
    ("vless_uuid", .str "00000000-0000-4000-8000-000000000001"),
    ("hysteria2_password", .str "0123456789abcdef"),
    ("subscription_token_hash_hex", .str sampleTokenHash), ("created_at", .num 0),
    ("expires_at", .null), ("credentials", .arr grants)]])]

/-- Three grants of one class with the same window of a day. -/
def sampleGrants : List Json :=
  [storedGrant "0123456789abcdef01234567" "00000000-0000-4000-8000-00000000000a" 0 86400,
    storedGrant "0123456789abcdef01234568" "00000000-0000-4000-8000-00000000000b" 0 86400,
    storedGrant "0123456789abcdef01234569" "00000000-0000-4000-8000-00000000000c" 0 86400]

/-- The store in bytes. -/
def sampleStore : List UInt8 := (storedAccount sampleGrants).text.toUTF8.toList

/-- A parser of the one text. -/
def sampleFromSlice (bytes : List UInt8) : Except String Json :=
  if bytes = sampleStore then .ok (storedAccount sampleGrants)
  else .error "expected value at line 1 column 1"

/-- A store that the policy check refuses is read, and all three of its grants are rendered. -/
theorem overlap_policy_unchecked :
    ∃ u, parseUsersBytes sampleFromSlice sampleStore = .ok [u] ∧
      u.validateGrants ≠ .ok () ∧ (u.rendered .native 1000).length = 3 ∧
      ∃ doc, renderServerConfigForDeployment sampleExternal sampleExit [u] sampleReality
        sampleHysteria 1000 = .ok doc ∧ (inboundEntries doc REALITY_INBOUND).length = 3 := by
  let u : CompatUser := { sampleUser with
    credentials := [
      ⟨"native_0123456789abcdef01234567", .native, "00000000-0000-4000-8000-00000000000a",
        "0123456789abcdef", 0, 86400, none, 1⟩,
      ⟨"native_0123456789abcdef01234568", .native, "00000000-0000-4000-8000-00000000000b",
        "0123456789abcdef", 0, 86400, none, 1⟩,
      ⟨"native_0123456789abcdef01234569", .native, "00000000-0000-4000-8000-00000000000c",
        "0123456789abcdef", 0, 86400, none, 1⟩] }
  obtain ⟨doc, hdoc⟩ := sampleExit_renders [u] sampleReality 1000 (by decide +kernel)
  have hparsed : sampleFromSlice sampleStore = .ok (storedAccount sampleGrants) := if_pos rfl
  have hread : parseUsersBytes (fun _ => .ok (storedAccount sampleGrants)) [] = .ok [u] := by
    decide +kernel
  have hstored : parseUsersBytes sampleFromSlice sampleStore = .ok [u] := by
    rw [← hread, parseUsersBytes, parseUsersBytes, hparsed]
  refine ⟨u, hstored, by decide +kernel, by decide +kernel, doc, hdoc, ?_⟩
  rw [vlessEntries_rendered hdoc]
  decide +kernel

end SingboxVpn
