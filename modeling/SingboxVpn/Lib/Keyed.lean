import Mathlib.Data.List.Nodup
import Mathlib.Data.List.Sort

/-!
# Lists whose elements have a key

A list is brought to a set of keys one key after the other: the first element under a key is
updated in place, and where there is none a new one is appended.

* `Keyed.mem_foldl_upsert` — where keys are distinct, the elements after a whole list of keys.
-/

namespace Keyed

variable {α κ : Type} [DecidableEq κ] {key : α → κ} {update : κ → α → α} {new : κ → α}
  {l : List α} {k : κ} {a : α}

/-- The first element under the key is updated; where there is none, a new one is appended. -/
def upsert (key : α → κ) (update : κ → α → α) (new : κ → α) (k : κ) : List α → List α
  | [] => [new k]
  | a :: l => if key a = k then update k a :: l else a :: upsert key update new k l

def settle (key : α → κ) (update : κ → α → α) (new : κ → α) (l : List α) (k : κ) : α :=
  match l.find? fun a => decide (key a = k) with
  | some a => update k a
  | none => new k

/-- Updating and creating give elements under the key that was asked for. -/
structure KeepsKey (key : α → κ) (update : κ → α → α) (new : κ → α) : Prop where
  update : ∀ k a, key a = k → key (update k a) = k
  new : ∀ k, key (new k) = k

theorem key_settle (h : KeepsKey key update new) : key (settle key update new l k) = k := by
  unfold settle
  split
  · next a hfind =>
    have hkey : key a = k := by simpa using List.find?_some hfind
    exact h.update k a hkey
  · exact h.new k

theorem settle_cons_pos (hkey : key a = k) : settle key update new (a :: l) k = update k a := by
  simp [settle, hkey]

theorem settle_cons_neg (hkey : key a ≠ k) :
    settle key update new (a :: l) k = settle key update new l k := by
  simp [settle, hkey]

theorem keys_upsert (h : KeepsKey key update new) :
    (upsert key update new k l).map key = if k ∈ l.map key then l.map key else l.map key ++ [k] := by
  induction l with
  | nil => simp [upsert, h.new]
  | cons b l ih =>
    by_cases hkey : key b = k
    · simp [upsert, hkey, h.update k b hkey]
    · have hne : ¬ k = key b := fun heq => hkey heq.symm
      rw [upsert, if_neg hkey, List.map_cons, ih]
      simp only [List.map_cons, List.mem_cons, hne, false_or]
      split <;> simp

theorem nodup_upsert (h : KeepsKey key update new) (hnodup : (l.map key).Nodup) :
    ((upsert key update new k l).map key).Nodup := by
  rw [keys_upsert h]
  split
  · exact hnodup
  · next hk => exact List.nodup_append.mpr ⟨hnodup, List.nodup_singleton k, by
      rintro x hx y hy rfl
      exact hk (List.mem_singleton.mp hy ▸ hx)⟩

theorem settle_upsert_ne (h : KeepsKey key update new) {k' : κ} (hne : k' ≠ k) :
    settle key update new (upsert key update new k l) k' = settle key update new l k' := by
  induction l with
  | nil =>
    have hnew : key (new k) ≠ k' := by
      rw [h.new]
      exact hne.symm
    exact settle_cons_neg hnew
  | cons b l ih =>
    rw [upsert]
    split
    · next hkey =>
      have hb : key b ≠ k' := fun heq => hne (heq.symm.trans hkey)
      have hupdated : key (update k b) ≠ k' := by
        rw [h.update k b hkey]
        exact hne.symm
      rw [settle_cons_neg hupdated, settle_cons_neg hb]
    · by_cases hb : key b = k'
      · rw [settle_cons_pos hb, settle_cons_pos hb]
      · rw [settle_cons_neg hb, settle_cons_neg hb, ih]

theorem mem_upsert (hnodup : (l.map key).Nodup) :
    a ∈ upsert key update new k l ↔ (a ∈ l ∧ key a ≠ k) ∨ a = settle key update new l k := by
  induction l with
  | nil => simp [upsert, settle]
  | cons b l ih =>
    obtain ⟨hfresh, hrest⟩ := List.nodup_cons.mp hnodup
    rw [upsert]
    split
    · next hkey =>
      -- no other element is under the key
      have hothers : ∀ c ∈ l, key c ≠ k := fun c hc heq =>
        hfresh (hkey.trans heq.symm ▸ List.mem_map_of_mem hc)
      rw [settle_cons_pos hkey, List.mem_cons, List.mem_cons]
      constructor
      · rintro (rfl | ha)
        · exact .inr rfl
        · exact .inl ⟨.inr ha, hothers a ha⟩
      · rintro (⟨rfl | ha, hne⟩ | rfl)
        · exact absurd hkey hne
        · exact .inr ha
        · exact .inl rfl
    · next hkey =>
      rw [settle_cons_neg hkey, List.mem_cons, List.mem_cons, ih hrest]
      constructor
      · rintro (rfl | ⟨ha, hne⟩ | rfl)
        · exact .inl ⟨.inl rfl, hkey⟩
        · exact .inl ⟨.inr ha, hne⟩
        · exact .inr rfl
      · rintro (⟨rfl | ha, hne⟩ | rfl)
        · exact .inl rfl
        · exact .inr (.inl ⟨ha, hne⟩)
        · exact .inr (.inr rfl)

theorem upsert_eq_self (hupdate : ∀ a, update k a = a) (hmem : k ∈ l.map key) :
    upsert key update new k l = l := by
  induction l with
  | nil => cases hmem
  | cons b l ih =>
    rw [upsert]
    split
    · rw [hupdate]
    · next hkey =>
      have hl : k ∈ l.map key := (List.mem_cons.mp hmem).resolve_left fun heq => hkey heq.symm
      rw [ih hl]

theorem nodup_foldl_upsert (h : KeepsKey key update new) (ks : List κ)
    (hnodup : (l.map key).Nodup) :
    ((ks.foldl (fun l k => upsert key update new k l) l).map key).Nodup := by
  induction ks generalizing l with
  | nil => exact hnodup
  | cons k ks ih => exact ih (nodup_upsert h hnodup)

theorem mem_foldl_upsert (h : KeepsKey key update new) {ks : List κ} (hks : ks.Nodup)
    (hnodup : (l.map key).Nodup) :
    a ∈ ks.foldl (fun l k => upsert key update new k l) l ↔
      (a ∈ l ∧ key a ∉ ks) ∨ ∃ k ∈ ks, a = settle key update new l k := by
  induction ks generalizing l with
  | nil => simp
  | cons k ks ih =>
    obtain ⟨hk, hks⟩ := List.nodup_cons.mp hks
    have hlater : ∀ k' ∈ ks, settle key update new (upsert key update new k l) k' =
        settle key update new l k' := fun k' hk' =>
      settle_upsert_ne h fun heq => hk (heq ▸ hk')
    rw [List.foldl_cons, ih hks (nodup_upsert h hnodup), mem_upsert hnodup]
    constructor
    · rintro (⟨⟨ha, hne⟩ | rfl, hnot⟩ | ⟨k', hk', rfl⟩)
      · exact .inl ⟨ha, by simp [hne, hnot]⟩
      · exact .inr ⟨k, List.mem_cons_self, rfl⟩
      · exact .inr ⟨k', List.mem_cons_of_mem k hk', hlater k' hk'⟩
    · rintro (⟨ha, hnot⟩ | ⟨k', hk', rfl⟩)
      · rw [List.mem_cons, not_or] at hnot
        exact .inl ⟨.inl ⟨ha, hnot.1⟩, hnot.2⟩
      · rcases List.mem_cons.mp hk' with rfl | hk'
        · refine .inl ⟨.inr rfl, ?_⟩
          rw [key_settle h]
          exact hk
        · exact .inr ⟨k', hk', (hlater k' hk').symm⟩

/-! ### Sorting by a key -/

section Sorting
variable {ν : Type} [LinearOrder ν] {rank : α → ν}

/-- Sorting is stable: the last element ends up behind all that do not rank above it. -/
theorem insertionSort_concat (rank : α → ν) (l : List α) (a : α) :
    ∃ lower upper,
      (l ++ [a]).insertionSort (fun b c => rank b ≤ rank c) = lower ++ a :: upper ∧
      lower.Perm (l.filter (rank · ≤ rank a)) ∧ upper.Perm (l.filter (rank a < rank ·)) := by
  induction l with
  | nil => exact ⟨[], [], rfl, .nil, .nil⟩
  | cons b l ih =>
    obtain ⟨lower, upper, hsort, hlower, hupper⟩ := ih
    have hbelow : ∀ c ∈ lower, rank c ≤ rank a := fun c hc => by
      simpa using (List.mem_filter.mp (hlower.mem_iff.mp hc)).2
    rw [List.cons_append, List.insertionSort_cons, hsort]
    rcases le_or_gt (rank b) (rank a) with hle | hlt
    · refine ⟨lower.orderedInsert (fun b c => rank b ≤ rank c) b, upper, ?_, ?_, ?_⟩
      · clear hsort hlower
        induction lower with
        | nil => simp [hle]
        | cons c lower ih =>
          rw [List.cons_append, List.orderedInsert_cons, List.orderedInsert_cons]
          split
          · rfl
          · rw [ih fun d hd => hbelow d (List.mem_cons_of_mem c hd), List.cons_append]
      · rw [List.filter_cons_of_pos (by simpa using hle)]
        exact (List.perm_orderedInsert _ b lower).trans (hlower.cons b)
      · rwa [List.filter_cons_of_neg (by simpa using hle)]
    · refine ⟨lower, upper.orderedInsert (fun b c => rank b ≤ rank c) b, ?_, ?_, ?_⟩
      · clear hsort hlower
        induction lower with
        | nil => simp [hlt]
        | cons c lower ih =>
          have hc : ¬ rank b ≤ rank c :=
            not_le.mpr ((hbelow c List.mem_cons_self).trans_lt hlt)
          rw [List.cons_append, List.orderedInsert_cons, if_neg hc,
            ih fun d hd => hbelow d (List.mem_cons_of_mem c hd), List.cons_append]
      · rwa [List.filter_cons_of_neg (by simpa using hlt)]
      · rw [List.filter_cons_of_pos (by simpa using hlt)]
        exact (List.perm_orderedInsert _ b upper).trans (hupper.cons b)

/-- The last element is left when the first ones of the sorted list are dropped, if there are
enough that do not rank above it. -/
theorem mem_drop_insertionSort {n : Nat} (ha : a ∉ l) :
    a ∈ ((l ++ [a]).insertionSort (fun b c => rank b ≤ rank c)).drop n ↔
      n ≤ l.countP (rank · ≤ rank a) := by
  obtain ⟨lower, upper, hsort, hlower, hupper⟩ := insertionSort_concat rank l a
  rw [hsort, List.countP_eq_length_filter, ← hlower.length_eq]
  constructor
  · intro hmem
    by_contra hn
    have hdrop : n = lower.length + 1 + (n - lower.length - 1) := by omega
    rw [hdrop, ← List.drop_drop, ← List.drop_drop, List.drop_left, List.drop_one,
      List.tail_cons] at hmem
    exact ha (List.mem_filter.mp (hupper.mem_iff.mp (List.mem_of_mem_drop hmem))).1
  · intro hn
    rw [List.drop_append_of_le_length hn]
    exact List.mem_append_right _ List.mem_cons_self

end Sorting

end Keyed
