import Mathlib.Algebra.Order.BigOperators.Group.List
import Mathlib.Algebra.Order.Group.Int
import Mathlib.Order.Defs.LinearOrder
import Mathlib.Tactic.Linarith

/-!
# Sweeping over events

An event is an instant with a change of a level.  A sweep goes through events in order of time,
decreases first, and checks the level after each of them.

* `Sweep.trough_step` — a sweep without negative troughs has no negative level.
* `Sweep.level_edges` — with the edges of windows the level counts the windows that are open.
-/

namespace Sweep

variable {τ : Type}

def total (keep : τ × Int → Bool) (es : List (τ × Int)) : Int :=
  ((es.filter keep).map Prod.snd).sum

section Total

variable {keep : τ × Int → Bool}

theorem total_cons (e : τ × Int) (es : List (τ × Int)) :
    total keep (e :: es) = (if keep e then e.2 else 0) + total keep es := by
  unfold total
  rw [List.filter_cons]
  split
  · rfl
  · simp

theorem total_append (es es' : List (τ × Int)) :
    total keep (es ++ es') = total keep es + total keep es' := by
  unfold total
  rw [List.filter_append, List.map_append, List.sum_append]

variable {es : List (τ × Int)}

theorem total_perm {es' : List (τ × Int)} (h : es.Perm es') : total keep es = total keep es' :=
  ((h.filter _).map _).sum_eq

theorem total_eq_zero (h : ∀ e ∈ es, keep e = false) : total keep es = 0 := by
  have hnone : es.filter keep = [] := List.filter_eq_nil_iff.mpr fun e he => by simp [h e he]
  rw [total, hnone]
  rfl

theorem total_nonneg (h : ∀ e ∈ es, keep e = true → 0 ≤ e.2) : 0 ≤ total keep es := by
  refine List.sum_nonneg fun d hd => ?_
  obtain ⟨e, he, rfl⟩ := List.mem_map.mp hd
  obtain ⟨hmem, hkeep⟩ := List.mem_filter.mp he
  exact h e hmem hkeep

theorem total_nonpos (h : ∀ e ∈ es, keep e = true → e.2 ≤ 0) : total keep es ≤ 0 := by
  refine (List.sum_le_card_nsmul _ 0 fun d hd => ?_).trans_eq (nsmul_zero _)
  obtain ⟨e, he, rfl⟩ := List.mem_map.mp hd
  obtain ⟨hmem, hkeep⟩ := List.mem_filter.mp he
  exact h e hmem hkeep

end Total

variable [LinearOrder τ]

/-- In order of time, and of the change at one instant. -/
def Before (p q : τ × Int) : Prop := p.1 < q.1 ∨ (p.1 = q.1 ∧ p.2 ≤ q.2)

/-- The level never passes the limit after an event. -/
def bounded (limit : Int) : Int → List (τ × Int) → Bool
  | _, [] => true
  | active, e :: es => active + e.2 ≤ limit && bounded limit (active + e.2) es

def level (es : List (τ × Int)) (t : τ) : Int := total (fun e => e.1 ≤ t) es

/-- The lowest level around an instant: after its decreases, before its increases. -/
def trough (es : List (τ × Int)) (t : τ) : Int :=
  total (fun e => e.1 < t ∨ (e.1 = t ∧ e.2 < 0)) es

theorem Before.le {p q : τ × Int} (h : Before p q) : p.1 ≤ q.1 := by
  rcases h with hlt | ⟨heq, -⟩
  · exact hlt.le
  · exact heq.le

variable {active : Int} {es : List (τ × Int)} {ws : List (τ × τ)}

/-- Between the events of one instant the level may be lower than after them, since the decreases
    come first, but never higher. -/
theorem bounded_iff {limit : Int} (hsorted : es.Pairwise Before) (hactive : active ≤ limit) :
    bounded limit active es = true ↔ ∀ t, active + level es t ≤ limit := by
  induction es generalizing active with
  | nil => simpa [bounded, level, total] using fun _ => hactive
  | cons e es ih =>
    obtain ⟨hfirst, hrest⟩ := List.pairwise_cons.mp hsorted
    have hlater : ∀ t, t < e.1 → level es t = 0 := fun t ht =>
      total_eq_zero fun q hq => by simpa using ht.trans_le (hfirst q hq).le
    have hcons : ∀ t, level (e :: es) t = (if e.1 ≤ t then e.2 else 0) + level es t := fun t => by
      simp only [level, total_cons, decide_eq_true_eq]
    simp only [bounded, Bool.and_eq_true, decide_eq_true_eq, hcons]
    constructor
    · rintro ⟨hstep, hbounded⟩ t
      split
      · have hlevel := (ih hrest hstep).mp hbounded t
        linarith
      · next hnot =>
        rw [hlater t (not_le.mp hnot)]
        linarith
    · intro hlevel
      have hstep : active + e.2 ≤ limit := by
        have hat := hlevel e.1
        rw [if_pos le_rfl] at hat
        by_cases hsign : 0 ≤ e.2
        · -- what is left of this instant are increases, too
          have hmore : 0 ≤ level es e.1 := total_nonneg fun q hq hle => by
            rcases hfirst q hq with hlt | ⟨-, hchange⟩
            · exact absurd (of_decide_eq_true hle) (not_le.mpr hlt)
            · exact hsign.trans hchange
          linarith
        · linarith
      refine ⟨hstep, (ih hrest hstep).mpr fun t => ?_⟩
      by_cases ht : e.1 ≤ t
      · have hat := hlevel t
        rw [if_pos ht] at hat
        linarith
      · rw [hlater t (not_le.mp ht)]
        linarith

theorem trough_step {e : τ × Int} (hsorted : (e :: es).Pairwise Before) (hactive : 0 ≤ active)
    (h : ∀ t, 0 ≤ active + trough (e :: es) t) :
    0 ≤ active + e.2 ∧ ∀ t, 0 ≤ active + e.2 + trough es t := by
  obtain ⟨hfirst, hrest⟩ := List.pairwise_cons.mp hsorted
  have hcons : ∀ t, trough (e :: es) t =
      (if e.1 < t ∨ (e.1 = t ∧ e.2 < 0) then e.2 else 0) + trough es t := fun t => by
    simp only [trough, total_cons, decide_eq_true_eq]
  have hat := h e.1
  rw [hcons] at hat
  have hstep : 0 ≤ active + e.2 := by
    by_cases hsign : e.2 < 0
    · -- the troughs of this instant come after all its decreases
      rw [if_pos (.inr ⟨rfl, hsign⟩)] at hat
      have hless : trough es e.1 ≤ 0 := total_nonpos fun q hq hkeep => by
        rcases of_decide_eq_true hkeep with hlt | ⟨-, hneg⟩
        · exact absurd hlt (hfirst q hq).le.not_gt
        · exact hneg.le
      linarith
    · linarith
  refine ⟨hstep, fun t => ?_⟩
  by_cases hkeep : e.1 < t ∨ (e.1 = t ∧ e.2 < 0)
  · have ht := h t
    rw [hcons, if_pos hkeep] at ht
    linarith
  · have hzero : trough es t = 0 := total_eq_zero fun q hq => by
      push Not at hkeep
      refine decide_eq_false ?_
      rintro (hlt | ⟨rfl, hneg⟩)
      · exact absurd (hlt.trans_le hkeep.1) (hfirst q hq).le.not_gt
      · rcases hfirst q hq with hlt | ⟨heq, hchange⟩
        · exact absurd hlt hkeep.1.not_gt
        · exact absurd hneg ((hkeep.2 heq).trans hchange).not_gt
    rw [hzero]
    linarith

def edges (ws : List (τ × τ)) : List (τ × Int) := ws.flatMap fun w => [(w.1, 1), (w.2, -1)]

theorem level_edges (hws : ∀ w ∈ ws, w.1 ≤ w.2) (t : τ) :
    level (edges ws) t = ws.countP fun w => w.1 ≤ t ∧ t < w.2 := by
  unfold level
  induction ws with
  | nil => rfl
  | cons w ws ih =>
    obtain ⟨hw, hrest⟩ := List.forall_mem_cons.mp hws
    rw [edges, List.flatMap_cons, total_append, ← edges, ih hrest, List.countP_cons]
    simp only [total_cons, total_eq_zero (List.forall_mem_nil _), decide_eq_true_eq]
    by_cases hopen : w.1 ≤ t
    · by_cases hclosed : w.2 ≤ t
      · simp [hopen, hclosed]
      · simp [hopen, hclosed, not_le.mp hclosed, add_comm]
    · have hnot : ¬ w.2 ≤ t := fun hle => hopen (hw.trans hle)
      simp [hopen, hnot]

theorem trough_edges (hws : ∀ w ∈ ws, w.1 < w.2) (t : τ) : 0 ≤ trough (edges ws) t := by
  unfold trough
  induction ws with
  | nil => exact le_rfl
  | cons w ws ih =>
    obtain ⟨hw, hrest⟩ := List.forall_mem_cons.mp hws
    rw [edges, List.flatMap_cons, total_append, ← edges]
    refine add_nonneg ?_ (ih hrest)
    simp only [total_cons, total_eq_zero (List.forall_mem_nil _), decide_eq_true_eq]
    by_cases hclosed : w.2 ≤ t
    · simp [hw.trans_le hclosed, ← le_iff_lt_or_eq, hclosed]
    · have hnot : ¬ (w.2 < t ∨ w.2 = t) := fun hle => hclosed (le_iff_lt_or_eq.mpr hle)
      rw [if_neg (c := w.2 < t ∨ _) fun hkeep => hnot (hkeep.imp_right And.left)]
      split
      · decide
      · decide

end Sweep
