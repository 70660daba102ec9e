import SingboxVpn.Authorization
import SingboxVpn.Lib.Sweep
import Mathlib.Data.List.Pairwise

namespace SingboxVpn

/-!
# What a valid snapshot is

`AuthorizationSet::validate` with the arithmetic of the integers, and the policy that it checks.
-/

namespace AuthorizationSet

open Authorization (MAX_OVERLAP_SECS)

section With

variable (overlapOf : Authorization → Authorization → Int) (set : AuthorizationSet)

def validatePrincipalWith (principal : String) : Except String Unit := do
  Check.each (fun p : Authorization × Authorization =>
      Check.refuseIf (MAX_OVERLAP_SECS < overlapOf p.1 p.2)
        ("principal " ++ Text.debug p.1.principalId ++ " overlap exceeds 48 hours"))
    (pairs (set.live principal))
  Check.refuseIf (!sweepOk 0 (events (set.live principal)))
    ("principal " ++ Text.debug principal ++ " has more than two simultaneous credentials")

def principals : List String :=
  (set.authorizations.map Authorization.principalId).dedup.insertionSort (· ≤ ·)

def validateSetWith : Except String Unit :=
  Check.each (set.validatePrincipalWith overlapOf) set.principals

def validateWith : Except String Unit := do
  Check.eachSeen
    (fun seen item => do
      item.validateItem
      Check.refuseIf (seen.any fun a => a.credentialId == item.credentialId)
        ("duplicate credential_id " ++ Text.debug item.credentialId))
    [] set.authorizations
  set.validateSetWith overlapOf

end With

theorem validate_eq_with (set : AuthorizationSet) : set.validate = set.validateWith overlap := rfl

def exactOverlap (a b : Authorization) : Int :=
  min a.validUntil b.validUntil - max a.validFrom b.validFrom

def validateExact (set : AuthorizationSet) : Except String Unit := set.validateWith exactOverlap

/-! ### The policy -/

structure Valid (set : AuthorizationSet) : Prop where
  items : ∀ a ∈ set.authorizations, a.validateItem = .ok ()
  ids : (set.authorizations.map Authorization.credentialId).Nodup
  overlaps : ∀ a ∈ set.authorizations, ∀ b ∈ set.authorizations, a ≠ b →
    a.principalId = b.principalId → a.revoked = false → b.revoked = false →
    exactOverlap a b ≤ 48 * 60 * 60
  simultaneous : ∀ (t : Int) (principal : String),
    (set.authorizations.countP fun a =>
      a.principalId = principal ∧ a.revoked = false ∧ a.validFrom ≤ t ∧ t < a.validUntil) ≤ 2

/-! ### The sweep as a count -/

theorem sweepOk_eq_bounded (active : Int) (es : List (Int × Int)) :
    sweepOk active es = Sweep.bounded 2 active es := by
  induction es generalizing active with
  | nil => rfl
  | cons e es ih => rw [sweepOk, Sweep.bounded, ih]

theorem events_sorted (creds : List Authorization) : (events creds).Pairwise Sweep.Before := by
  have : Std.Total eventLe := ⟨fun p q => by unfold eventLe; omega⟩
  have : IsTrans (Int × Int) eventLe := ⟨fun p q r => by unfold eventLe; omega⟩
  exact List.pairwise_insertionSort eventLe _

theorem events_perm (creds : List Authorization) :
    (events creds).Perm (Sweep.edges (creds.map window)) := by
  rw [Sweep.edges, List.flatMap_map]
  exact List.perm_insertionSort eventLe _

theorem sweepOk_iff {creds : List Authorization} (h : ∀ a ∈ creds, a.validFrom ≤ a.validUntil) :
    sweepOk 0 (events creds) = true ↔
      ∀ t, (creds.countP fun a => a.validFrom ≤ t ∧ t < a.validUntil) ≤ 2 := by
  rw [sweepOk_eq_bounded, Sweep.bounded_iff (events_sorted creds) (by decide)]
  refine forall_congr' fun t => ?_
  rw [Sweep.level, Sweep.total_perm (events_perm creds), ← Sweep.level,
    Sweep.level_edges (by simpa [window] using h), List.countP_map, zero_add]
  norm_cast

variable {overlapOf : Authorization → Authorization → Int} {principal : String}

theorem principalWith_ok {set : AuthorizationSet}
    (h : ∀ a ∈ set.live principal, a.validFrom ≤ a.validUntil) :
    set.validatePrincipalWith overlapOf principal = .ok () ↔
      ((set.live principal).Pairwise fun a b => overlapOf a b ≤ MAX_OVERLAP_SECS) ∧
        ∀ t, ((set.live principal).countP fun a => a.validFrom ≤ t ∧ t < a.validUntil) ≤ 2 := by
  simp only [validatePrincipalWith, Check.bind_ok, Check.each_ok, Check.refuseIf_ok,
    decide_eq_false_iff_not, not_lt, Bool.not_eq_false', sweepOk_iff h]
  exact and_congr_left' (forall_mem_pairs (r := fun a b => overlapOf a b ≤ MAX_OVERLAP_SECS))

/-! ### Validation and policy -/

variable {set : AuthorizationSet}

theorem mem_live {a : Authorization} :
    a ∈ set.live principal ↔
      a ∈ set.authorizations ∧ a.principalId = principal ∧ a.revoked = false := by
  simp [live]

theorem validateSetWith_ok :
    set.validateSetWith overlapOf = .ok () ↔
      ∀ principal, set.validatePrincipalWith overlapOf principal = .ok () := by
  rw [validateSetWith, Check.each_ok]
  refine ⟨fun h principal => ?_, fun h principal _ => h principal⟩
  by_cases hp : principal ∈ set.principals
  · exact h principal hp
  · -- nothing is checked of a principal without credentials
    have hnone : set.live principal = [] := by
      refine List.eq_nil_iff_forall_not_mem.mpr fun a ha => hp ?_
      obtain ⟨hmem, rfl, -⟩ := mem_live.mp ha
      exact (List.mem_insertionSort _).mpr (List.mem_dedup.mpr (List.mem_map_of_mem hmem))
    rw [validatePrincipalWith, hnone]
    rfl

theorem validateWith_ok :
    set.validateWith overlapOf = .ok () ↔
      (∀ a ∈ set.authorizations, a.validateItem = .ok ()) ∧
      (set.authorizations.map Authorization.credentialId).Nodup ∧
      ∀ principal, set.validatePrincipalWith overlapOf principal = .ok () := by
  rw [validateWith, Check.bind_ok, Check.eachSeen_ok (fun a => a.validateItem = .ok ())
    (fun a b => a.credentialId ≠ b.credentialId) (by simp), List.Nodup, List.pairwise_map,
    validateSetWith_ok]
  simp [and_assoc]

theorem pairwise_live_iff (hids : (set.authorizations.map Authorization.credentialId).Nodup) :
    (∀ principal, (set.live principal).Pairwise fun a b => exactOverlap a b ≤ MAX_OVERLAP_SECS) ↔
      ∀ a ∈ set.authorizations, ∀ b ∈ set.authorizations, a ≠ b →
        a.principalId = b.principalId → a.revoked = false → b.revoked = false →
        exactOverlap a b ≤ 48 * 60 * 60 := by
  have hnodup : set.authorizations.Nodup := hids.of_map _
  have : Std.Symm fun a b => exactOverlap a b ≤ MAX_OVERLAP_SECS := by
    refine ⟨fun a b hab => ?_⟩
    rw [exactOverlap, min_comm, max_comm]
    exact hab
  constructor
  · intro h a ha b hb hne hsame hra hrb
    exact (h a.principalId).forall (mem_live.mpr ⟨ha, rfl, hra⟩)
      (mem_live.mpr ⟨hb, hsame.symm, hrb⟩) hne
  · intro h principal
    refine (hnodup.filter _).pairwise_of_forall_ne fun a ha b hb hne => ?_
    obtain ⟨ha, hpa, hra⟩ := mem_live.mp ha
    obtain ⟨hb, hpb, hrb⟩ := mem_live.mp hb
    exact h a ha b hb hne (hpa.trans hpb.symm) hra hrb

theorem count_live (principal : String) (t : Int) :
    ((set.live principal).countP fun a => a.validFrom ≤ t ∧ t < a.validUntil) =
      set.authorizations.countP fun a =>
        a.principalId = principal ∧ a.revoked = false ∧ a.validFrom ≤ t ∧ t < a.validUntil := by
  rw [live, List.countP_filter]
  refine List.countP_congr fun a _ => ?_
  simp only [Bool.and_eq_true, decide_eq_true_eq, beq_iff_eq, Bool.not_eq_true']
  tauto

/-- **Validation is exact.**  Over unbounded integers a snapshot is accepted exactly when it keeps
    the policy. -/
theorem validateExact_ok : set.validateExact = .ok () ↔ set.Valid := by
  have hpolicy : (∀ a ∈ set.authorizations, a.validateItem = .ok ()) →
      ((∀ principal, set.validatePrincipalWith exactOverlap principal = .ok ()) ↔
        (∀ principal, (set.live principal).Pairwise fun a b =>
          exactOverlap a b ≤ MAX_OVERLAP_SECS) ∧
        ∀ principal t, ((set.live principal).countP fun a =>
          a.validFrom ≤ t ∧ t < a.validUntil) ≤ 2) := by
    intro hitems
    rw [← forall_and]
    refine forall_congr' fun principal => principalWith_ok fun a ha => ?_
    obtain ⟨hmem, -, hlive⟩ := mem_live.mp ha
    obtain ⟨-, -, hwindow⟩ := Authorization.validateItem_ok.mp (hitems a hmem)
    have hpositive := (hwindow hlive).1
    omega
  rw [validateExact, validateWith_ok]
  constructor
  · rintro ⟨hitems, hids, hset⟩
    obtain ⟨hpairs, hcount⟩ := (hpolicy hitems).mp hset
    exact ⟨hitems, hids, (pairwise_live_iff hids).mp hpairs,
      fun t principal => count_live principal t ▸ hcount principal t⟩
  · rintro ⟨hitems, hids, hoverlaps, hsimultaneous⟩
    refine ⟨hitems, hids, (hpolicy hitems).mpr ⟨(pairwise_live_iff hids).mpr hoverlaps, ?_⟩⟩
    intro principal t
    rw [count_live]
    exact hsimultaneous t principal

end AuthorizationSet

end SingboxVpn
