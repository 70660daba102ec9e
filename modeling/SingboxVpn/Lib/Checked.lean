import SingboxVpn.Lib.Text

/-!
# Computations that may overflow

A computation in machine arithmetic overflows, refuses or gives a value.  It is compared with the
same computation without overflow.

* `Checked.runs_each` — such a loop runs if its body runs at every element that it comes to.
-/

/-- Overflow is `none`. -/
abbrev Checked (ε α : Type) : Type := ExceptT ε Option α

namespace Checked

variable {ε α β : Type}

def fit (fits : α → Prop) [DecidablePred fits] (a : α) : Checked ε α :=
  ExceptT.mk (if fits a then some (.ok a) else none)

def lift (r : Except ε α) : Checked ε α := ExceptT.mk (some r)

def each (f : α → Checked ε Unit) : List α → Checked ε Unit
  | [] => pure ()
  | a :: as => f a >>= fun _ => each f as

/-- The elements with a property that is computed, too. -/
def filter (p : α → Checked ε Bool) : List α → Checked ε (List α)
  | [] => pure []
  | a :: as => do
    let keep ← p a
    let rest ← filter p as
    pure (if keep then a :: rest else rest)

def Runs (x : Checked ε α) : Prop := x.run ≠ none

def Agrees (x : Checked ε α) (r : Except ε α) : Prop := ∀ r', x.run = some r' → r' = r

/-! ### Steps -/

section Steps

variable {fits : α → Prop} [DecidablePred fits] {a : α} {r : Except ε α} {x : Checked ε α}
  {f : α → Checked ε β} {g : α → Except ε β}

@[simp] theorem runs_pure : Runs (pure a : Checked ε α) := Option.some_ne_none _

@[simp] theorem runs_lift : Runs (lift r) := Option.some_ne_none _

@[simp] theorem runs_fit : Runs (fit fits a : Checked ε α) ↔ fits a := by
  simp [Runs, fit, ExceptT.run_mk]

theorem agrees_pure : Agrees (pure a : Checked ε α) (.ok a) := fun _ h => (Option.some.inj h).symm

theorem agrees_lift : Agrees (lift r) r := fun _ h => (Option.some.inj h).symm

theorem agrees_fit : Agrees (fit fits a : Checked ε α) (.ok a) := by
  intro r' h
  simp only [fit, ExceptT.run_mk, Option.ite_none_right_eq_some, Option.some.injEq] at h
  exact h.2.symm

theorem runs_bind : Runs (x >>= f) ↔ Runs x ∧ ∀ a, x.run = some (.ok a) → Runs (f a) := by
  unfold Runs
  rw [ExceptT.run_bind]
  cases hx : x.run with
  | none => simp
  | some r =>
    cases r with
    | error e => simp
    | ok a => simp

theorem agrees_bind (hx : Agrees x r) (hf : ∀ a, r = .ok a → Agrees (f a) (g a)) :
    Agrees (x >>= f) (r >>= g) := by
  intro r' h
  rw [ExceptT.run_bind] at h
  cases hrun : x.run with
  | none =>
    rw [hrun] at h
    cases h
  | some s =>
    obtain rfl := hx s hrun
    rw [hrun] at h
    cases s with
    | error e => exact (Option.some.inj h).symm
    | ok a => exact hf a rfl r' h

theorem Agrees.run_eq (hx : Agrees x r) (hruns : Runs x) : x.run = some r := by
  obtain ⟨r', hr'⟩ := Option.ne_none_iff_exists'.mp hruns
  rw [hr', hx r' hr']

theorem runs_bind_of_agrees (hx : Agrees x (.ok a)) : Runs (x >>= f) ↔ Runs x ∧ Runs (f a) := by
  rw [runs_bind]
  refine and_congr_right fun hruns => ?_
  simp [hx.run_eq hruns]

end Steps

/-! ### Loops -/

def Reached (ok : α → Prop) (l : List α) (a : α) : Prop :=
  ∃ before after, l = before ++ a :: after ∧ ∀ b ∈ before, ok b

theorem Reached.mem {ok : α → Prop} {l : List α} {a : α} (h : Reached ok l a) : a ∈ l := by
  obtain ⟨before, after, rfl, -⟩ := h
  simp

theorem reached_cons {ok : α → Prop} {l : List α} {a b : α} :
    Reached ok (b :: l) a ↔ a = b ∨ (ok b ∧ Reached ok l a) := by
  constructor
  · rintro ⟨before, after, hsplit, hok⟩
    cases before with
    | nil =>
      cases hsplit
      exact .inl rfl
    | cons c before =>
      cases hsplit
      exact .inr ⟨hok _ (by simp), before, after, rfl, fun d hd => hok d (by simp [hd])⟩
  · rintro (rfl | ⟨hb, before, after, rfl, hok⟩)
    · exact ⟨[], l, rfl, by simp⟩
    · exact ⟨b :: before, after, rfl, by simpa using ⟨hb, hok⟩⟩

section Loops

variable {f : α → Checked ε Unit} {g : α → Except ε Unit} {l : List α}

theorem agrees_each (h : ∀ a ∈ l, Agrees (f a) (g a)) : Agrees (each f l) (Check.each g l) := by
  induction l with
  | nil => exact agrees_pure
  | cons a l ih =>
    obtain ⟨ha, hl⟩ := List.forall_mem_cons.mp h
    exact agrees_bind ha fun _ _ => ih hl

theorem runs_each (h : ∀ a ∈ l, Agrees (f a) (g a)) :
    Runs (each f l) ↔ ∀ a, Reached (fun b => g b = .ok ()) l a → Runs (f a) := by
  induction l with
  | nil => simp [each, Reached]
  | cons a l ih =>
    obtain ⟨ha, hl⟩ := List.forall_mem_cons.mp h
    simp only [each, runs_bind, ih hl, reached_cons, forall_eq_or_imp]
    refine and_congr_right fun hruns => ?_
    simp only [ha.run_eq hruns, Option.some.injEq]
    constructor
    · rintro hrest b ⟨hok, hb⟩
      exact hrest () hok b hb
    · rintro hrest u hok b hb
      exact hrest b ⟨hok, hb⟩

variable {p : α → Checked ε Bool} {q : α → Bool}

theorem agrees_filter (h : ∀ a ∈ l, Agrees (p a) (.ok (q a))) :
    Agrees (filter p l) (.ok (l.filter q)) := by
  induction l with
  | nil => exact agrees_pure
  | cons a l ih =>
    obtain ⟨ha, hl⟩ := List.forall_mem_cons.mp h
    have hbind : Agrees (filter p (a :: l)) ((.ok (q a) : Except ε Bool) >>= fun keep =>
        (.ok (l.filter q) : Except ε (List α)) >>= fun rest =>
          .ok (if keep then a :: rest else rest)) :=
      agrees_bind ha fun _ _ => agrees_bind (ih hl) fun _ _ => agrees_pure
    rw [List.filter_cons]
    exact hbind

theorem runs_filter (h : ∀ a ∈ l, Agrees (p a) (.ok (q a))) :
    Runs (filter p l) ↔ ∀ a ∈ l, Runs (p a) := by
  induction l with
  | nil => simp [filter]
  | cons a l ih =>
    obtain ⟨ha, hl⟩ := List.forall_mem_cons.mp h
    rw [filter, runs_bind_of_agrees ha, runs_bind_of_agrees (agrees_filter hl), ih hl]
    simp

end Loops

end Checked
