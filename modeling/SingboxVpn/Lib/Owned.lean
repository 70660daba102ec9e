import Mathlib.Data.List.Basic

/-!
# Lists with several writers

Each writer owns the elements that satisfy its test.  To write, it keeps what it does not own,
in order, and puts its own elements behind.

* `filter_owned_replace`, `filter_other_replace` — what is owned afterwards, and what is kept.
-/

namespace Owned

variable {α : Type} {owned : α → Bool} {own l : List α}

def replace (owned : α → Bool) (own l : List α) : List α := l.filter (!owned ·) ++ own

theorem filter_owned_replace (h : ∀ a ∈ own, owned a = true) :
    (replace owned own l).filter owned = own := by
  unfold replace
  rw [List.filter_append, List.filter_eq_self.mpr h, List.filter_filter]
  have hnone : l.filter (fun a => owned a && !owned a) = [] :=
    List.filter_eq_nil_iff.mpr fun a _ => by simp
  rw [hnone, List.nil_append]

theorem filter_other_replace (h : ∀ a ∈ own, owned a = true) :
    (replace owned own l).filter (!owned ·) = l.filter (!owned ·) := by
  unfold replace
  have hnone : own.filter (!owned ·) = [] :=
    List.filter_eq_nil_iff.mpr fun a ha => by simp [h a ha]
  rw [List.filter_append, hnone, List.append_nil, List.filter_filter]
  simp

theorem filter_replace (p : α → Bool) :
    (replace owned own l).filter p = replace owned (own.filter p) (l.filter p) := by
  unfold replace
  rw [List.filter_append, List.filter_filter, List.filter_filter]
  congr 1
  exact List.filter_congr fun a _ => Bool.and_comm _ _

/-- A list of owned elements goes behind a list of other ones unseen only if one of them is
    empty. -/
theorem append_swap_iff {own' other : List α} (hown : ∀ a ∈ own, owned a = true)
    (hother : ∀ a ∈ other, owned a = false) :
    own ++ other = other ++ own' ↔ (own = [] ∨ other = []) ∧ own' = own := by
  cases own with
  | nil => simp
  | cons a own =>
    cases other with
    | nil => simp [eq_comm]
    | cons b other =>
      -- the first element would belong to both
      constructor
      · intro h
        have hab : a = b := (List.cons.inj h).1
        have ha := hown a List.mem_cons_self
        rw [hab, hother b List.mem_cons_self] at ha
        cases ha
      · rintro ⟨h | h, -⟩ <;> cases h

theorem find?_key {κ : Type} [DecidableEq κ] {key : α → κ} (hnodup : (l.map key).Nodup) {a : α}
    (ha : a ∈ l) : l.find? (fun b => key b == key a) = some a := by
  induction l with
  | nil => cases ha
  | cons b l ih =>
    obtain ⟨hfresh, hrest⟩ := List.nodup_cons.mp hnodup
    rcases List.mem_cons.mp ha with rfl | ha
    · simp
    · have hne : key b ≠ key a := fun h => hfresh (h ▸ List.mem_map_of_mem ha)
      rw [List.find?_cons_of_neg (by simpa using hne)]
      exact ih hrest ha

/-- The first element that passes a test stays the first one when others are taken out. -/
theorem find?_filter_of_kept {p q : α → Bool} {a : α} (h : l.find? q = some a) (hp : p a = true) :
    (l.filter p).find? q = some a := by
  induction l with
  | nil => cases h
  | cons b l ih =>
    by_cases hb : q b = true
    · obtain rfl : b = a := by simpa [List.find?_cons_of_pos hb] using h
      rw [List.filter_cons_of_pos hp, List.find?_cons_of_pos hb]
    · rw [List.find?_cons_of_neg hb] at h
      by_cases hpb : p b = true
      · rw [List.filter_cons_of_pos hpb, List.find?_cons_of_neg hb]
        exact ih h
      · rw [List.filter_cons_of_neg hpb]
        exact ih h

/-- So does the first element that passes one of several tests, tried one after the other. -/
theorem findSome?_filter_of_kept {p : α → Bool} {tests : List (α → Bool)} {a : α}
    (h : tests.findSome? (fun q => l.find? q) = some a) (hp : p a = true) :
    tests.findSome? (fun q => (l.filter p).find? q) = some a := by
  induction tests with
  | nil => cases h
  | cons q tests ih =>
    rw [List.findSome?_cons] at h ⊢
    cases hfind : l.find? q with
    | some b =>
      rw [hfind] at h
      cases h
      rw [find?_filter_of_kept hfind hp]
    | none =>
      have hnone : (l.filter p).find? q = none := by
        rw [List.find?_eq_none] at hfind ⊢
        exact fun b hb => hfind b (List.mem_of_mem_filter hb)
      rw [hfind] at h
      rw [hnone]
      exact ih h

theorem filter_key {κ : Type} [BEq κ] [LawfulBEq κ] {key : α → κ} (hnodup : (l.map key).Nodup)
    {a : α} (ha : a ∈ l) : l.filter (fun b => key b == key a) = [a] := by
  induction l with
  | nil => cases ha
  | cons b l ih =>
    obtain ⟨hfresh, hrest⟩ := List.nodup_cons.mp hnodup
    rcases List.mem_cons.mp ha with rfl | ha
    · have hnone : l.filter (fun b => key b == key a) = [] := by
        rw [List.filter_eq_nil_iff]
        intro b hb heq
        exact hfresh (beq_iff_eq.mp heq ▸ List.mem_map_of_mem hb)
      rw [List.filter_cons_of_pos (by simp), hnone]
    · have hne : key b ≠ key a := fun h => hfresh (h ▸ List.mem_map_of_mem ha)
      rw [List.filter_cons_of_neg (by simpa using hne)]
      exact ih hrest ha

end Owned
