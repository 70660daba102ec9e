import Mathlib.Data.List.Basic
import Mathlib.Data.List.TakeWhile

/-!
# First-match evaluation of an ordered rule list

A rule list is read from the front.  Each rule, in the state its predecessors left, either
lets the subject pass on with a new state or stops the evaluation with a decision.

* `eval_append`, `eval_skip`, `exists_stop` — how it composes and where it stops;
* `exists_pass_iff` — when it does not stop.
-/

namespace FirstMatch

/-- What one rule, or a whole rule list, does with a subject. -/
inductive Outcome (σ δ : Type) where
  | pass (s : σ)
  | stop (d : δ)

variable {σ ρ δ α : Type} {act : σ → ρ → Outcome σ δ}

/-- Evaluate `rs` from the front in state `s`; the first rule that stops decides. -/
def eval (act : σ → ρ → Outcome σ δ) : σ → List ρ → Outcome σ δ
  | s, [] => .pass s
  | s, r :: rs =>
    match act s r with
    | .pass s' => eval act s' rs
    | .stop d => .stop d

@[simp] theorem eval_nil (s : σ) : eval act s [] = .pass s := rfl

variable {s s' : σ} {r : ρ} {d : δ} {xs l : List ρ} {p : ρ → Bool}

theorem eval_cons_pass (rs : List ρ) (h : act s r = .pass s') :
    eval act s (r :: rs) = eval act s' rs := by
  rw [eval, h]

theorem eval_cons_stop (rs : List ρ) (h : act s r = .stop d) : eval act s (r :: rs) = .stop d := by
  rw [eval, h]

theorem eval_cons_guard {p : Prop} [Decidable p] (rs : List ρ)
    (h : act s r = if p then .stop d else .pass s) :
    eval act s (r :: rs) = if p then .stop d else eval act s rs := by
  by_cases hp : p
  · rw [if_pos hp] at h ⊢
    exact eval_cons_stop rs h
  · rw [if_neg hp] at h ⊢
    exact eval_cons_pass rs h

theorem eval_append (s : σ) (xs ys : List ρ) :
    eval act s (xs ++ ys) =
      match eval act s xs with
      | .pass s' => eval act s' ys
      | .stop d => .stop d := by
  induction xs generalizing s with
  | nil => rfl
  | cons x xs ih =>
    rw [List.cons_append, eval, eval]
    cases act s x with
    | pass s' => exact ih s'
    | stop d => rfl

theorem eval_append_pass (ys : List ρ) (h : eval act s xs = .pass s') :
    eval act s (xs ++ ys) = eval act s' ys := by
  rw [eval_append, h]

theorem eval_skip (h : ∀ r ∈ xs, act s r = .pass s) : eval act s xs = .pass s := by
  induction xs with
  | nil => rfl
  | cons x xs ih =>
    rw [eval_cons_pass xs (h x (List.mem_cons_self ..))]
    exact ih (fun r hr => h r (List.mem_cons_of_mem _ hr))

theorem eval_map_uniform {f : α → ρ} {l : List α} (p : α → Prop) [DecidablePred p]
    (h : ∀ x ∈ l, act s (f x) = if p x then .stop d else .pass s) :
    eval act s (l.map f) = if ∃ x ∈ l, p x then .stop d else .pass s := by
  induction l with
  | nil => simp
  | cons x l ih =>
    rw [List.map_cons, eval_cons_guard _ (h x (List.mem_cons_self ..)),
      ih fun y hy => h y (List.mem_cons_of_mem _ hy)]
    by_cases hp : p x
    · rw [if_pos hp, if_pos ⟨x, List.mem_cons_self .., hp⟩]
    · simp [hp]

/-- A list that decides has a rule that decides, reached in the state its predecessors left. -/
theorem exists_stop {rs : List ρ} (h : eval act s rs = .stop d) :
    ∃ pre r post s', rs = pre ++ r :: post ∧ eval act s pre = .pass s' ∧ act s' r = .stop d := by
  induction rs generalizing s with
  | nil => exact absurd h (by simp)
  | cons x xs ih =>
    cases hx : act s x with
    | stop d' =>
      rw [eval_cons_stop xs hx] at h
      exact ⟨[], x, xs, s, rfl, rfl, hx.trans h⟩
    | pass s' =>
      rw [eval_cons_pass xs hx] at h
      obtain ⟨pre, r, post, s'', hrs, hpre, hr⟩ := ih h
      refine ⟨x :: pre, r, post, s'', by rw [hrs, List.cons_append], ?_, hr⟩
      rw [eval_cons_pass pre hx]
      exact hpre

theorem stop_unique {s₁ s₂ : σ} {pre₁ pre₂ post₁ post₂ : List ρ} {r₁ r₂ : ρ} {d₁ d₂ : δ}
    (h : pre₁ ++ r₁ :: post₁ = pre₂ ++ r₂ :: post₂) (hpass₁ : eval act s pre₁ = .pass s₁)
    (hstop₁ : act s₁ r₁ = .stop d₁) (hpass₂ : eval act s pre₂ = .pass s₂)
    (hstop₂ : act s₂ r₂ = .stop d₂) : pre₁ = pre₂ ∧ r₁ = r₂ := by
  rcases List.append_eq_append_iff.mp h with ⟨mid, hpre, hrest⟩ | ⟨mid, hpre, hrest⟩
  · cases mid with
    | nil =>
      rw [List.nil_append, List.cons.injEq] at hrest
      exact ⟨by rw [hpre, List.append_nil], hrest.1⟩
    | cons r mid =>
      -- the first decision lies in the second front, which passes
      rw [List.cons_append, List.cons.injEq] at hrest
      rw [hpre, eval_append_pass _ hpass₁, ← hrest.1, eval_cons_stop mid hstop₁] at hpass₂
      cases hpass₂
  · cases mid with
    | nil =>
      rw [List.nil_append, List.cons.injEq] at hrest
      exact ⟨by rw [hpre, List.append_nil], hrest.1.symm⟩
    | cons r mid =>
      rw [List.cons_append, List.cons.injEq] at hrest
      rw [hpre, eval_append_pass _ hpass₂, ← hrest.1, eval_cons_stop mid hstop₂] at hpass₁
      cases hpass₁

/-! ### What the rules before one catch -/

/-- The state the rules leave, whether or not one of them stops. -/
def carry (act : σ → ρ → Outcome σ δ) : σ → List ρ → σ
  | s, [] => s
  | s, r :: rs =>
    match act s r with
    | .pass s' => carry act s' rs
    | .stop _ => carry act s rs

theorem carry_of_pass (h : eval act s xs = .pass s') : carry act s xs = s' := by
  induction xs generalizing s with
  | nil => cases h; rfl
  | cons x xs ih =>
    cases hx : act s x with
    | pass t =>
      rw [eval_cons_pass xs hx] at h
      rw [carry, hx]
      exact ih h
    | stop d =>
      rw [eval_cons_stop xs hx] at h
      cases h

theorem carry_induction {motive : σ → Prop} (hs : motive s)
    (hstep : ∀ t r t', r ∈ xs → motive t → act t r = .pass t' → motive t') :
    motive (carry act s xs) := by
  induction xs generalizing s with
  | nil => exact hs
  | cons x xs ih =>
    have htail : ∀ t r t', r ∈ xs → motive t → act t r = .pass t' → motive t' :=
      fun t r t' hr => hstep t r t' (List.mem_cons_of_mem _ hr)
    rw [carry]
    cases hx : act s x with
    | pass t => exact ih (hstep s x t List.mem_cons_self hs hx) htail
    | stop d => exact ih hs htail

/-- A list passes exactly if no rule of it stops in the state that those before it leave. -/
theorem exists_pass_iff : (∃ s', eval act s xs = .pass s') ↔
    ∀ pre r post d, xs = pre ++ r :: post → act (carry act s pre) r ≠ .stop d := by
  constructor
  · rintro ⟨s', hpass⟩ pre r post d rfl hstop
    rw [eval_append] at hpass
    cases hpre : eval act s pre with
    | stop d' => simp [hpre] at hpass
    | pass t =>
      rw [carry_of_pass hpre] at hstop
      simp only [hpre] at hpass
      rw [eval_cons_stop post hstop] at hpass
      cases hpass
  · intro h
    cases heval : eval act s xs with
    | pass s' => exact ⟨s', rfl⟩
    | stop d =>
      obtain ⟨pre, r, post, t, hxs, hpre, hstop⟩ := exists_stop heval
      rw [← carry_of_pass hpre] at hstop
      exact absurd hstop (h pre r post d hxs)

/-! ### Inserting a block of rules -/

def insertAll (n : Nat) (new l : List ρ) : List ρ :=
  new.zipIdx.foldl (fun acc rk => acc.insertIdx (n + rk.2) rk.1) l

/-- `new` between the longest prefix of `l` that satisfies `p` and the rest. -/
def spliceAfter (p : ρ → Bool) (new l : List ρ) : List ρ :=
  l.takeWhile p ++ (new ++ l.dropWhile p)

theorem insertIdx_length_append (pre post : List ρ) (r : ρ) :
    (pre ++ post).insertIdx pre.length r = pre ++ r :: post := by
  induction pre with
  | nil => simp
  | cons x pre ih => simp [ih]

theorem foldl_insertIdx (pre post new : List ρ) (k n : Nat) (hn : pre.length = n + k) :
    (new.zipIdx k).foldl (fun acc rk => acc.insertIdx (n + rk.2) rk.1) (pre ++ post) =
      pre ++ (new ++ post) := by
  induction new generalizing pre k with
  | nil => rfl
  | cons r new ih =>
    rw [List.zipIdx_cons, List.foldl_cons, ← hn, insertIdx_length_append,
      show pre ++ r :: post = (pre ++ [r]) ++ post by simp,
      ih (pre ++ [r]) (k + 1) (by simp [hn]; omega)]
    simp

/-- Inserting rule by rule at the count of the leading rules that satisfy `p` is a splice. -/
theorem insertAll_takeWhile (p : ρ → Bool) (new l : List ρ) :
    insertAll (l.takeWhile p).length new l = spliceAfter p new l := by
  have h := foldl_insertIdx (l.takeWhile p) (l.dropWhile p) new 0 (l.takeWhile p).length rfl
  rw [List.takeWhile_append_dropWhile] at h
  exact h

theorem spliceAfter_append {new pre : List ρ} (h : ∀ r ∈ pre, p r = true) :
    spliceAfter p new (pre ++ l) = pre ++ spliceAfter p new l := by
  induction pre with
  | nil => rfl
  | cons r pre ih =>
    have hr : p r = true := h r (List.mem_cons_self ..)
    have ih' := ih (fun x hx => h x (List.mem_cons_of_mem _ hx))
    unfold spliceAfter at ih' ⊢
    simp only [List.cons_append, List.takeWhile_cons, List.dropWhile_cons, hr, if_true]
    exact congrArg (r :: ·) ih'

theorem spliceAfter_of_head {new : List ρ} (h : ∀ r ∈ l.head?, p r = false) :
    spliceAfter p new l = new ++ l := by
  cases l with
  | nil => simp [spliceAfter]
  | cons r l =>
    have hr : p r = false := h r rfl
    simp [spliceAfter, hr]

end FirstMatch
