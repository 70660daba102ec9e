import SingboxVpn.Authorization
import SingboxVpn.Lib.Owned

namespace SingboxVpn.LeasePool

/-!
# Reconciling the lease pool

The agent hands a node the slots of its lease pool.  `reconcile` keeps every account that is no
lease account and stores the slots behind them, each under its credential id, or under a
reserved id where the input carries no authorization metadata.

* `reconcile`, `reconcile_iff` — the command, and when it accepts.
* `slot_ids_nodup` — accepted slots have distinct ids.
-/

/-- The ids of lease accounts start with this. -/
def LEASE_USER_PREFIX : String := "lease-"

/-- The largest pool that is accepted. -/
def MAX_SLOTS : Nat := 4096

/-- One slot; the four fields of its authorization come together or not at all. -/
structure LeaseSlotInput where
  slot : Nat
  vlessUuid : String
  hysteria2Password : String
  expiresAt : Int
  principalId : Option String
  credentialId : Option String
  cls : Option CredentialClass
  validFrom : Option Int
  revoked : Bool
deriving DecidableEq, Repr

/-- The slots that an agent passes to `vpn-admin`. -/
structure LeasePoolInput where
  slots : List LeaseSlotInput
deriving DecidableEq, Repr

/-- The account of a slot: its number in four digits. -/
def leaseUserId (slot : Nat) : String := LEASE_USER_PREFIX ++ Text.zeroPad 4 slot

/-- The accounts that this reconciler owns. -/
def isLeaseUser (user : CompatUser) : Bool :=
  Text.startsWith LEASE_USER_PREFIX user.id ||
    (Text.startsWith "cred_" user.id && Text.startsWith "native_" user.name)

/-- A VLESS id of a slot is well formed. -/
def validUuid (s : String) : Bool := Authorization.validVlessUuid s

/-- A Hysteria2 password of a slot is well formed. -/
def validPassword (s : String) : Bool := Authorization.validHysteria2Password s

/-! ### Checking the slots -/

namespace LeaseSlotInput

def metadataCount (s : LeaseSlotInput) : Nat :=
  [s.principalId.isSome, s.credentialId.isSome, s.cls.isSome, s.validFrom.isSome].count true

/-- The authorization of a slot, if it carries all of its metadata. -/
def authorization (s : LeaseSlotInput) : Option Authorization :=
  match s.principalId, s.credentialId, s.cls, s.validFrom with
  | some principalId, some credentialId, some cls, some validFrom => some {
      principalId := principalId
      credentialId := credentialId
      cls := cls
      validFrom := validFrom
      validUntil := s.expiresAt
      revoked := s.revoked
      vlessUuid := some s.vlessUuid
      hysteria2Password := some s.hysteria2Password }
  | _, _, _, _ => none

/-- How errors name a slot. -/
def label (s : LeaseSlotInput) : String := "lease slot " ++ toString s.slot

/-- The checks of one slot, given those before it. -/
def check (seen : List LeaseSlotInput) (s : LeaseSlotInput) : Except String Unit := do
  Check.refuseIf (MAX_SLOTS ≤ s.slot || seen.any (·.slot == s.slot))
    (s.label ++ " is out of range or duplicated")
  Check.refuseIf (!validUuid s.vlessUuid || !validPassword s.hysteria2Password)
    (s.label ++ " has a malformed credential")
  Check.refuseIf (s.expiresAt ≤ 0) (s.label ++ " has no expiry")
  Check.refuseIf (s.metadataCount != 0 && s.metadataCount != 4)
    (s.label ++ " must provide principal_id, credential_id, class, and valid_from together")
  -- without an id of its own a credential cannot be withdrawn
  Check.refuseIf (s.metadataCount != 4 && s.revoked)
    (s.label ++ " cannot set revoked without authorization metadata")

def id (s : LeaseSlotInput) : String := s.credentialId.getD (leaseUserId s.slot)

def lowerUuid (s : LeaseSlotInput) : String := Text.toAsciiLowercase s.vlessUuid

end LeaseSlotInput

/-! ### The accounts -/

/-- A new account, with a subscription token that nobody is told. -/
def freshLease (tokenHash : String → String) (now : Int) (id : String) : CompatUser where
  id := id
  name := id
  enabled := true
  vlessUuid := ""
  hysteria2Password := ""
  subscriptionTokenHashHex := tokenHash id
  createdAt := now
  expiresAt := none
  visionOffExperiment := false
  googleEgressHairpin := false
  exitPrincipal := false
  peerCredentials := []
  isReservedProbe := false
  credentials := []

def fill (s : LeaseSlotInput) (user : CompatUser) : CompatUser :=
  { user with
    name := s.principalId.getD s.id
    enabled := !s.revoked
    vlessUuid := s.lowerUuid
    hysteria2Password := s.hysteria2Password
    createdAt := s.validFrom.getD user.createdAt
    expiresAt := some s.expiresAt
    visionOffExperiment := false
    googleEgressHairpin := false }

/-- The account of a slot.  The record is looked up by its id among all accounts. -/
def leaseUser (tokenHash : String → String) (users : List CompatUser) (now : Int)
    (s : LeaseSlotInput) : CompatUser :=
  fill s ((users.find? (·.id == s.id)).getD (freshLease tokenHash now s.id))

def sorted (input : LeasePoolInput) : List LeaseSlotInput :=
  input.slots.insertionSort fun a b => a.slot ≤ b.slot

/-- The new account list, and whether it differs; other accounts are carried over. -/
def reconcile (tokenHash : String → String) (users : List CompatUser) (input : LeasePoolInput)
    (now : Int) : Except String (List CompatUser × Bool) := do
  Check.refuseIf (decide (MAX_SLOTS < input.slots.length))
    ("lease pool larger than " ++ toString MAX_SLOTS ++ " slots")
  Check.eachSeen LeaseSlotInput.check [] input.slots
  (AuthorizationSet.mk (input.slots.filterMap LeaseSlotInput.authorization)).validate
  let leaseUuids := input.slots.map LeaseSlotInput.lowerUuid
  Check.refuseIf (leaseUuids.dedup.length != input.slots.length)
    "lease slots must have distinct VLESS uuids"
  Check.refuseIf
    (users.any fun u => !isLeaseUser u && leaseUuids.contains (Text.toAsciiLowercase u.vlessUuid))
    "a lease slot uuid collides with an existing user"
  let next := Owned.replace isLeaseUser ((sorted input).map (leaseUser tokenHash users now)) users
  .ok (next, decide (next ≠ users))

/-! ### Accepted inputs -/

structure Accepted (input : LeasePoolInput) : Prop where
  size : input.slots.length ≤ MAX_SLOTS
  slots : Check.eachSeen LeaseSlotInput.check [] input.slots = .ok ()
  set : (AuthorizationSet.mk (input.slots.filterMap LeaseSlotInput.authorization)).validate = .ok ()
  uuids : (input.slots.map LeaseSlotInput.lowerUuid).dedup.length = input.slots.length

/-- No account of anyone else has the client id of a slot. -/
def UuidsFree (users : List CompatUser) (input : LeasePoolInput) : Prop :=
  ∀ u ∈ users, isLeaseUser u = false →
    Text.toAsciiLowercase u.vlessUuid ∉ input.slots.map LeaseSlotInput.lowerUuid

section Reconcile

variable {tokenHash : String → String} {users next : List CompatUser} {input : LeasePoolInput}
  {now : Int} {changed : Bool} {s s' : LeaseSlotInput}

theorem reconcile_iff :
    reconcile tokenHash users input now = .ok (next, changed) ↔
      Accepted input ∧ UuidsFree users input ∧
        next = Owned.replace isLeaseUser ((sorted input).map (leaseUser tokenHash users now)) users ∧
        changed = decide (next ≠ users) := by
  have hfree : (users.any fun u => !isLeaseUser u &&
      (input.slots.map LeaseSlotInput.lowerUuid).contains (Text.toAsciiLowercase u.vlessUuid)) =
        false ↔ UuidsFree users input := by
    simp [UuidsFree, List.any_eq_false]
  simp only [reconcile, Check.bind_ok, Check.refuseIf_ok, hfree, decide_eq_false_iff_not, not_lt,
    bne_eq_false_iff_eq, Except.ok.injEq, Prod.mk.injEq]
  constructor
  · rintro ⟨hsize, hslots, hset, huuids, hfree, rfl, rfl⟩
    exact ⟨⟨hsize, hslots, hset, huuids⟩, hfree, rfl, rfl⟩
  · rintro ⟨⟨hsize, hslots, hset, huuids⟩, hfree, rfl, rfl⟩
    exact ⟨hsize, hslots, hset, huuids, hfree, rfl, rfl⟩

theorem mem_sorted : s ∈ sorted input ↔ s ∈ input.slots := List.mem_insertionSort _

theorem sorted_perm (input : LeasePoolInput) : (sorted input).Perm input.slots :=
  List.perm_insertionSort _ _

/-! ### Single slots -/

theorem check_seen {seen : List LeaseSlotInput} :
    LeaseSlotInput.check seen s = .ok () ↔
      LeaseSlotInput.check [] s = .ok () ∧ ∀ t ∈ seen, t.slot ≠ s.slot := by
  simp only [LeaseSlotInput.check, Check.bind_ok, Check.refuseIf_ok, Bool.or_eq_false_iff,
    List.any_eq_false, List.any_nil, beq_iff_eq, and_true]
  exact and_right_comm

theorem eachSeen_check {l : List LeaseSlotInput} :
    Check.eachSeen LeaseSlotInput.check [] l = .ok () ↔
      (∀ s ∈ l, LeaseSlotInput.check [] s = .ok ()) ∧ (l.map LeaseSlotInput.slot).Nodup := by
  rw [Check.eachSeen_ok (fun s => LeaseSlotInput.check [] s = .ok ()) (fun t s => t.slot ≠ s.slot)
    (fun _ _ => check_seen), List.Nodup, List.pairwise_map]
  simp

/-- An accepted slot either carries its authorization whole or stands under a reserved id. -/
theorem metadata_of_check (h : LeaseSlotInput.check [] s = .ok ()) :
    (∃ a, s.authorization = some a ∧ s.credentialId = some a.credentialId ∧
      s.principalId = some a.principalId ∧ s.cls = some a.cls ∧ s.validFrom = some a.validFrom) ∨
      (s.credentialId = none ∧ s.principalId = none ∧ s.cls = none ∧ s.validFrom = none) := by
  simp only [LeaseSlotInput.check, Check.bind_ok, Check.refuseIf_ok] at h
  obtain ⟨-, -, -, hcount, -⟩ := h
  unfold LeaseSlotInput.metadataCount at hcount
  unfold LeaseSlotInput.authorization
  -- all four, or none of them
  cases hp : s.principalId <;> cases hc : s.credentialId <;> cases hk : s.cls <;>
    cases hf : s.validFrom <;> simp [hp, hc, hk, hf] at hcount ⊢

theorem names_of_accepted (haccepted : Accepted input) (hs : s ∈ input.slots) :
    (∃ a, s.authorization = some a ∧ s.id = a.credentialId ∧ s.principalId = some a.principalId ∧
      s.cls = some a.cls ∧ Text.startsWith "cred_" a.credentialId = true ∧
      Text.startsWith (Authorization.classPrefix a.cls) a.principalId = true) ∨
      (s.authorization = none ∧ s.id = leaseUserId s.slot ∧ s.principalId = none ∧ s.cls = none) := by
  rcases metadata_of_check ((eachSeen_check.mp haccepted.slots).1 s hs) with
    ⟨a, ha, hcred, hprincipal, hcls, -⟩ | ⟨hcred, hprincipal, hcls, -⟩
  · refine .inl ⟨a, ha, ?_, hprincipal, hcls, ?_⟩
    · simp [LeaseSlotInput.id, hcred]
    · have hmem : a ∈ input.slots.filterMap LeaseSlotInput.authorization :=
        List.mem_filterMap.mpr ⟨s, hs, ha⟩
      exact Authorization.names_of_item ((AuthorizationSet.validate_ok.mp haccepted.set).1 a hmem)
  · refine .inr ⟨?_, ?_, hprincipal, hcls⟩
    · simp [LeaseSlotInput.authorization, hprincipal]
    · simp [LeaseSlotInput.id, hcred]

theorem startsWith_leaseUserId (slot : Nat) :
    Text.startsWith LEASE_USER_PREFIX (leaseUserId slot) = true := by
  rw [Text.startsWith_iff, leaseUserId, String.toList_append]
  exact List.prefix_append _ _

theorem leaseUserId_inj {n m : Nat} (h : leaseUserId n = leaseUserId m) : n = m := by
  have hlist := congrArg String.toList h
  rw [leaseUserId, leaseUserId, String.toList_append, String.toList_append] at hlist
  exact Text.zeroPad_inj (String.toList_inj.mp (List.append_cancel_left hlist))

theorem leaseUserId_ne {n : Nat} {id : String} (h : Text.startsWith "cred_" id = true) :
    id ≠ leaseUserId n := by
  rintro rfl
  have hcred : Text.startsWith "cred_" (leaseUserId n) = false :=
    Text.startsWith_false_of_prefix (startsWith_leaseUserId n) (by decide) (by decide)
  exact Bool.false_ne_true (hcred.symm.trans h)

theorem slot_ids_nodup (haccepted : Accepted input) :
    ((sorted input).map LeaseSlotInput.id).Nodup := by
  refine ((sorted_perm input).map _).nodup_iff.mpr (List.pairwise_map.mpr ?_)
  have hslots : input.slots.Pairwise fun s t => s.slot ≠ t.slot :=
    List.pairwise_map.mp (eachSeen_check.mp haccepted.slots).2
  have hcreds := (AuthorizationSet.validate_ok.mp haccepted.set).2.1
  have hcreds' := List.pairwise_filterMap.mp (List.pairwise_map.mp hcreds)
  refine (hslots.and hcreds').imp_of_mem ?_
  rintro s t hs ht ⟨hne, hcred⟩ heq
  rcases names_of_accepted haccepted hs with ⟨a, ha, hida, -, -, hpa, -⟩ | ⟨-, hida, -⟩ <;>
    rcases names_of_accepted haccepted ht with ⟨b, hb, hidb, -, -, hpb, -⟩ | ⟨-, hidb, -⟩
  · exact hcred a ha b hb (hida.symm.trans (heq.trans hidb))
  · exact leaseUserId_ne hpa (hida.symm.trans (heq.trans hidb))
  · exact leaseUserId_ne hpb (hidb.symm.trans (heq.symm.trans hida))
  · exact hne (leaseUserId_inj (hida.symm.trans (heq.trans hidb)))

/-! ### The accounts of the slots -/

theorem leaseUser_id : (leaseUser tokenHash users now s).id = s.id := by
  show ((users.find? (·.id == s.id)).getD (freshLease tokenHash now s.id)).id = s.id
  cases hfind : users.find? (·.id == s.id) with
  | none => rfl
  | some u =>
    have hid := List.find?_some hfind
    exact beq_iff_eq.mp hid

theorem fill_fill (s : LeaseSlotInput) (u : CompatUser) : fill s (fill s u) = fill s u := by
  unfold fill
  cases s.validFrom <;> rfl

theorem leaseUser_of_find {u : CompatUser} (h : users.find? (·.id == s.id) = some u) :
    leaseUser tokenHash users now s = fill s u := by
  rw [leaseUser, h]
  rfl

theorem isLeaseUser_leaseUser (haccepted : Accepted input) (hs : s ∈ input.slots) :
    isLeaseUser (leaseUser tokenHash users now s) = true ↔ s.cls ≠ some .compatibility := by
  have hname : (leaseUser tokenHash users now s).name = s.principalId.getD s.id := rfl
  rw [isLeaseUser, leaseUser_id, hname]
  rcases names_of_accepted haccepted hs with
    ⟨a, -, hid, hprincipal, hcls, hcred, hclass⟩ | ⟨-, hid, -, hcls⟩
  · have hlease : Text.startsWith LEASE_USER_PREFIX a.credentialId = false :=
      Text.startsWith_false_of_prefix hcred (by decide) (by decide)
    rw [hid, hprincipal, hcls, hlease, hcred]
    cases hkind : a.cls with
    | native =>
      rw [hkind] at hclass
      simpa [Authorization.classPrefix] using hclass
    | compatibility =>
      rw [hkind] at hclass
      have hnative : Text.startsWith "native_" a.principalId = false :=
        Text.startsWith_false_of_prefix hclass (by decide) (by decide)
      simp [hnative]
  · rw [hid, hcls, startsWith_leaseUserId]
    simp

end Reconcile

end SingboxVpn.LeasePool
