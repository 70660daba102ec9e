import SingboxVpn.Model
import Mathlib.Data.List.Dedup
import Mathlib.Data.List.Sort

namespace SingboxVpn

/-!
# Time-bounded authorization records

A control-plane snapshot (`AuthorizationSet`) lists credentials by opaque ids, each with a
validity window and at least one protocol secret.  A snapshot is validated item by item
(`Authorization.validateItem`) and then as a set (`AuthorizationSet.validateSet`): the
overlap of two live credentials of one principal is bounded, and no instant has more than
two of them.
-/

namespace Authorization

/-- The longest life of a native credential, in seconds. -/
def NATIVE_LEASE_SECS : Int := 30 * 60

/-- The longest life of a compatibility credential, in seconds. -/
def COMPAT_MAX_LIFETIME_SECS : Int := 30 * 24 * 60 * 60

/-- How long two credentials of a principal may overlap, in seconds. -/
def MAX_OVERLAP_SECS : Int := 48 * 60 * 60

/-- Groups of 8, 4, 4, 4 and 12 hexadecimal digits. -/
def validVlessUuid (value : String) : Bool :=
  Text.len value == 36 &&
    -- positions are byte offsets; the length test leaves 36 single-byte characters
    value.toList.zipIdx.all fun p =>
      if p.2 = 8 ∨ p.2 = 13 ∨ p.2 = 18 ∨ p.2 = 23 then p.1 == '-' else Text.isAsciiHexdigit p.1

/-- From 16 to 128 visible ASCII characters. -/
def validHysteria2Password (value : String) : Bool :=
  16 ≤ Text.len value && Text.len value ≤ 128 &&
    value.toList.all fun c => 0x21 ≤ c.toNat && c.toNat ≤ 0x7e

/-- An opaque id: one of the starts, 12 to 96 letters, digits, `_` and `-`. -/
def validateId (value : String) (starts : List String) (field : String) : Except String Unit :=
  Check.refuseIf
    (!starts.any (Text.startsWith · value) || Text.len value < 12 || 96 < Text.len value ||
      !value.toList.all fun c => c.isAlphanum || c == '_' || c == '-')
    (field ++ " has an invalid opaque identifier prefix or shape")

/-- The shape of a principal id. -/
def validatePrincipalId (value : String) : Except String Unit :=
  validateId value ["native_", "ext_"] "principal_id"

/-- The shape of a credential id. -/
def validateCredentialId (value : String) : Except String Unit :=
  validateId value ["cred_"] "credential_id"

end Authorization

/-- One credential of a snapshot. -/
structure Authorization where
  principalId : String
  credentialId : String
  cls : CredentialClass
  validFrom : Int
  validUntil : Int
  revoked : Bool
  vlessUuid : Option String
  hysteria2Password : Option String
deriving DecidableEq, Repr, Inhabited

namespace Authorization

def validateClass (a : Authorization) : Except String Unit :=
  match a.cls with
  | .native => Check.refuseIf (!Text.startsWith "native_" a.principalId)
      "native credential requires a native_ principal"
  | .compatibility => Check.refuseIf (!Text.startsWith "ext_" a.principalId)
      "compatibility credential requires an ext_ principal"

def validateLifetime (a : Authorization) (lifetime : Int) : Except String Unit :=
  match a.cls with
  | .native => Check.refuseIf (NATIVE_LEASE_SECS < lifetime)
      ("native credential " ++ Text.debug a.credentialId ++
        " exceeds the 30 minute lease policy")
  | .compatibility => Check.refuseIf (COMPAT_MAX_LIFETIME_SECS < lifetime)
      ("compatibility credential " ++ Text.debug a.credentialId ++
        " lifetime is outside policy")

/-- What a live credential has to satisfy beyond being identifiable. -/
def validateLive (a : Authorization) (lifetime : Int) : Except String Unit := do
  Check.refuseIf (lifetime ≤ 0)
    ("credential " ++ Text.debug a.credentialId ++ " has an empty validity interval")
  Check.refuseIf (a.vlessUuid.isNone && a.hysteria2Password.isNone)
    ("credential " ++ Text.debug a.credentialId ++ " has no protocol secret")
  Check.refuseIf (a.vlessUuid.any fun s => !validVlessUuid s)
    "credential has a malformed VLESS UUID"
  Check.refuseIf (a.hysteria2Password.any fun s => !validHysteria2Password s)
    "credential has a malformed Hysteria2 password"
  validateLifetime a lifetime

/-- Everything that can be decided about one credential in isolation.  A revoked credential
    only has to be identifiable. -/
def validateItem (a : Authorization) : Except String Unit := do
  validatePrincipalId a.principalId
  validateCredentialId a.credentialId
  validateClass a
  let lifetime := a.validUntil - a.validFrom
  -- `checked_sub`: the difference has to be a 64-bit integer
  Check.refuseIf (lifetime < -(2 ^ 63) || 2 ^ 63 ≤ lifetime) "invalid validity range"
  -- neither window nor secrets of a revoked credential are looked at
  if a.revoked then .ok () else validateLive a lifetime

/-- The credential authorizes at an instant. -/
def isActiveAt (a : Authorization) (now : Int) : Bool :=
  !a.revoked && a.validFrom ≤ now && now < a.validUntil

def lifetimeLimit : CredentialClass → Int
  | .native => NATIVE_LEASE_SECS
  | .compatibility => COMPAT_MAX_LIFETIME_SECS

variable {a : Authorization} {u : Unit}

theorem validateLifetime_ok {lifetime : Int} :
    a.validateLifetime lifetime = .ok u ↔ lifetime ≤ lifetimeLimit a.cls := by
  unfold validateLifetime lifetimeLimit
  cases a.cls <;> simp

def Identifiable (a : Authorization) : Prop :=
  validatePrincipalId a.principalId = .ok () ∧ validateCredentialId a.credentialId = .ok () ∧
    a.validateClass = .ok ()

def SecretsOk (a : Authorization) : Prop :=
  (a.vlessUuid.isNone && a.hysteria2Password.isNone) = false ∧
    (a.vlessUuid.any fun s => !validVlessUuid s) = false ∧
    (a.hysteria2Password.any fun s => !validHysteria2Password s) = false

theorem validateItem_ok :
    a.validateItem = .ok u ↔
      a.Identifiable ∧
        (-(2 ^ 63) ≤ a.validUntil - a.validFrom ∧ a.validUntil - a.validFrom < 2 ^ 63) ∧
        (a.revoked = false → 0 < a.validUntil - a.validFrom ∧ a.SecretsOk ∧
          a.validUntil - a.validFrom ≤ lifetimeLimit a.cls) := by
  have hlive : a.validateLive (a.validUntil - a.validFrom) = .ok () ↔
      0 < a.validUntil - a.validFrom ∧ a.SecretsOk ∧
        a.validUntil - a.validFrom ≤ lifetimeLimit a.cls := by
    simp only [validateLive, Check.bind_ok, Check.refuseIf_ok, validateLifetime_ok, SecretsOk,
      decide_eq_false_iff_not, not_le, and_assoc]
  unfold validateItem Identifiable
  cases hrevoked : a.revoked with
  | true => simp [and_assoc]
  | false => simp [hlive, and_assoc]

def classPrefix : CredentialClass → String
  | .native => "native_"
  | .compatibility => "ext_"

theorem names_of_item (h : a.validateItem = .ok ()) :
    Text.startsWith "cred_" a.credentialId = true ∧
      Text.startsWith (classPrefix a.cls) a.principalId = true := by
  obtain ⟨⟨-, hcred, hclass⟩, -, -⟩ := validateItem_ok.mp h
  constructor
  · simp only [validateCredentialId, validateId, Check.refuseIf_ok, Bool.or_eq_false_iff,
      Bool.not_eq_false', List.any_cons, List.any_nil, Bool.or_false] at hcred
    exact hcred.1.1.1
  · unfold validateClass at hclass
    unfold classPrefix
    cases hcls : a.cls with
    | native => simpa [hcls] using hclass
    | compatibility => simpa [hcls] using hclass

theorem validVlessUuid_lower {s : String} (h : validVlessUuid s = true) :
    validVlessUuid (Text.toAsciiLowercase s) = true := by
  simp only [validVlessUuid, Bool.and_eq_true, Text.len_toAsciiLowercase] at h ⊢
  refine ⟨h.1, ?_⟩
  rw [Text.toAsciiLowercase, String.toList_ofList, List.zipIdx_map, List.all_map]
  refine List.all_eq_true.mpr fun p hp => ?_
  have hchar := List.all_eq_true.mp h.2 p hp
  dsimp only [Function.comp, Prod.map, id] at hchar ⊢
  split at hchar
  · next hpos =>
    rw [beq_iff_eq.mp hchar]
    simp [hpos]
  · next hpos =>
    rw [if_neg hpos]
    exact Text.isAsciiHexdigit_toLower hchar

end Authorization

/-- A whole snapshot. -/
structure AuthorizationSet where
  authorizations : List Authorization
deriving DecidableEq, Repr, Inhabited

namespace AuthorizationSet

open Authorization (MAX_OVERLAP_SECS)

/-- The length of the common window of two credentials, in 64-bit arithmetic. -/
def overlap (a b : Authorization) : Int :=
  wrap64 (min a.validUntil b.validUntil - max a.validFrom b.validFrom)

def pairs {α : Type} : List α → List (α × α)
  | [] => []
  | a :: as => as.map (a, ·) ++ pairs as

def eventLe (p q : Int × Int) : Prop := p.1 < q.1 ∨ (p.1 = q.1 ∧ p.2 ≤ q.2)

instance : DecidableRel eventLe := fun p q =>
  inferInstanceAs (Decidable (p.1 < q.1 ∨ (p.1 = q.1 ∧ p.2 ≤ q.2)))

/-- Window starts and ends in order of time, an end before a start at the same instant. -/
def events (creds : List Authorization) : List (Int × Int) :=
  (creds.flatMap fun c => [(c.validFrom, 1), (c.validUntil, -1)]).insertionSort eventLe

/-- The number of open windows never passes two during the sweep. -/
def sweepOk : Int → List (Int × Int) → Bool
  | _, [] => true
  | active, e :: es => active + e.2 ≤ 2 && sweepOk (active + e.2) es

def validatePrincipal (set : AuthorizationSet) (principal : String) : Except String Unit := do
  let credentials := set.authorizations.filter fun a => a.principalId == principal && !a.revoked
  Check.each (fun p : Authorization × Authorization =>
      Check.refuseIf (MAX_OVERLAP_SECS < overlap p.1 p.2)
        ("principal " ++ Text.debug p.1.principalId ++ " overlap exceeds 48 hours"))
    (pairs credentials)
  Check.refuseIf (!sweepOk 0 (events credentials))
    ("principal " ++ Text.debug principal ++ " has more than two simultaneous credentials")

/-- Set-level rules: per-principal overlap and simultaneity. -/
def validateSet (set : AuthorizationSet) : Except String Unit :=
  Check.each (validatePrincipal set)
    ((set.authorizations.map Authorization.principalId).dedup.insertionSort (· ≤ ·))

/-- Validate a snapshot before it can replace live state. -/
def validate (set : AuthorizationSet) : Except String Unit := do
  Check.eachSeen
    (fun seen item => do
      item.validateItem
      Check.refuseIf (seen.any fun a => a.credentialId == item.credentialId)
        ("duplicate credential_id " ++ Text.debug item.credentialId))
    [] set.authorizations
  set.validateSet

/-- The credentials that authorize at an instant, by principal and credential id. -/
def activeAt (set : AuthorizationSet) (now : Int) : List Authorization :=
  (set.authorizations.filter (·.isActiveAt now)).insertionSort fun a b =>
    a.principalId < b.principalId ∨
      (a.principalId = b.principalId ∧ a.credentialId ≤ b.credentialId)

variable {u : Unit} {principal : String}

/-- Validation passes exactly when every item is well formed, no credential id occurs
    twice, and the set rules hold. -/
theorem validate_ok {set : AuthorizationSet} :
    set.validate = .ok u ↔
      (∀ a ∈ set.authorizations, a.validateItem = .ok ()) ∧
      (set.authorizations.map Authorization.credentialId).Nodup ∧
      set.validateSet = .ok () := by
  unfold validate
  rw [Check.bind_ok, Check.eachSeen_ok (fun a => a.validateItem = .ok ())
    (fun a b => a.credentialId ≠ b.credentialId) (by simp), List.Nodup, List.pairwise_map]
  simp [and_assoc]

theorem mem_activeAt {set : AuthorizationSet} {now : Int} {a : Authorization} :
    a ∈ set.activeAt now ↔ a ∈ set.authorizations ∧ a.isActiveAt now = true := by
  simp [activeAt]

/-! ### What the set rules depend on -/

def live (set : AuthorizationSet) (principal : String) : List Authorization :=
  set.authorizations.filter fun a => a.principalId == principal && !a.revoked

theorem live_append (l l' : List Authorization) (principal : String) :
    (mk (l ++ l')).live principal =
      (mk l).live principal ++ (mk l').live principal :=
  List.filter_append _ _

theorem live_eq_nil {l : List Authorization} (h : ∀ b ∈ l, b.principalId ≠ principal) :
    (mk l).live principal = [] := by
  refine List.filter_eq_nil_iff.mpr fun b hb hkeep => ?_
  simp only [Bool.and_eq_true, beq_iff_eq] at hkeep
  exact h b hb hkeep.1

def window (a : Authorization) : Int × Int := (a.validFrom, a.validUntil)

/-- The set rules, for the windows of one principal's live credentials. -/
def WindowsOk (ws : List (Int × Int)) : Prop :=
  ws.Pairwise (fun v w => wrap64 (min v.2 w.2 - max v.1 w.1) ≤ MAX_OVERLAP_SECS) ∧
    sweepOk 0 ((ws.flatMap fun w => [(w.1, 1), (w.2, -1)]).insertionSort eventLe) = true

theorem forall_mem_pairs {α : Type} {r : α → α → Prop} {l : List α} :
    (∀ p ∈ pairs l, r p.1 p.2) ↔ l.Pairwise r := by
  induction l with
  | nil => simp [pairs]
  | cons a l ih =>
    rw [pairs, List.forall_mem_append, ih, List.pairwise_cons]
    simp

theorem sorted_events_of_perm {es es' : List (Int × Int)} (h : es.Perm es') :
    es.insertionSort eventLe = es'.insertionSort eventLe := by
  have : Std.Total eventLe := ⟨fun p q => by unfold eventLe; omega⟩
  have : IsTrans (Int × Int) eventLe := ⟨fun p q r => by unfold eventLe; omega⟩
  refine List.Perm.eq_of_pairwise ?_ (List.pairwise_insertionSort eventLe es)
    (List.pairwise_insertionSort eventLe es')
    ((List.perm_insertionSort eventLe es).trans
      (h.trans (List.perm_insertionSort eventLe es').symm))
  intro p q _ _ hpq hqp
  unfold eventLe at hpq hqp
  exact Prod.ext (by omega) (by omega)

theorem WindowsOk.of_perm {ws ws' : List (Int × Int)} (h : ws.Perm ws') (hok : WindowsOk ws) :
    WindowsOk ws' := by
  constructor
  · refine (h.pairwise_iff ?_).mp hok.1
    intro v w hvw
    rw [min_comm, max_comm]
    exact hvw
  · rw [← sorted_events_of_perm (h.flatMap_right _)]
    exact hok.2

theorem validatePrincipal_ok {set : AuthorizationSet} :
    set.validatePrincipal principal = .ok u ↔ WindowsOk ((set.live principal).map window) := by
  simp only [validatePrincipal, Check.bind_ok, Check.each_ok, Check.refuseIf_ok,
    decide_eq_false_iff_not, not_lt, Bool.not_eq_false', events, WindowsOk, List.flatMap_map]
  rw [List.pairwise_map]
  exact and_congr_left'
    (forall_mem_pairs (r := fun a b : Authorization => overlap a b ≤ MAX_OVERLAP_SECS))

theorem validateSet_ok {set : AuthorizationSet} :
    set.validateSet = .ok u ↔ ∀ principal, WindowsOk ((set.live principal).map window) := by
  simp only [validateSet, Check.each_ok, validatePrincipal_ok]
  constructor
  · intro h principal
    by_cases hp : principal ∈ set.authorizations.map Authorization.principalId
    · exact h principal ((List.mem_insertionSort _).mpr (List.mem_dedup.mpr hp))
    · -- a principal without credentials has no window
      have hnone : set.live principal = [] := by
        refine List.filter_eq_nil_iff.mpr fun a ha hkeep => hp ?_
        simp only [Bool.and_eq_true, beq_iff_eq] at hkeep
        exact List.mem_map.mpr ⟨a, ha, hkeep.1⟩
      rw [hnone]
      exact ⟨List.Pairwise.nil, rfl⟩
  · intro h principal _
    exact h principal

theorem windowsOk_singleton (w : Int × Int) : WindowsOk [w] := by
  refine ⟨List.pairwise_singleton _ _, ?_⟩
  simp only [List.flatMap_cons, List.flatMap_nil, List.append_nil, List.insertionSort_cons,
    List.insertionSort_nil, List.orderedInsert]
  -- one window is never open twice, whichever of its ends comes first
  split <;> rfl

theorem validateSet_of_nodup {set : AuthorizationSet}
    (h : (set.authorizations.map Authorization.principalId).Nodup) : set.validateSet = .ok () := by
  refine validateSet_ok.mpr fun principal => ?_
  have hnodup : ((set.live principal).map Authorization.principalId).Nodup :=
    (List.filter_sublist.map _).nodup h
  have hsame : ∀ a ∈ set.live principal, a.principalId = principal := by
    intro a ha
    have hkeep := (List.mem_filter.mp ha).2
    simp only [Bool.and_eq_true, beq_iff_eq] at hkeep
    exact hkeep.1
  match hlive : set.live principal with
  | [] => exact ⟨List.Pairwise.nil, rfl⟩
  | [a] => exact windowsOk_singleton _
  | a :: b :: rest =>
    rw [hlive] at hnodup hsame
    have hboth : a.principalId = b.principalId :=
      (hsame a List.mem_cons_self).trans
        (hsame b (List.mem_cons_of_mem _ List.mem_cons_self)).symm
    refine absurd ?_ (List.nodup_cons.mp hnodup).1
    rw [hboth]
    exact List.mem_cons_self

end AuthorizationSet

end SingboxVpn
