import Mathlib.Logic.Relation

/-!
# Runs of a system that reacts to events

A system is a partial step function: on an event it either moves to a new state or is not
ready for it.  A run takes any number of steps, and a condition on the state before a step and
on its event says which runs are meant.
-/

namespace Runs

variable {σ ε : Type} {step : σ → ε → Option σ} {cond cond' : σ → ε → Prop} {s s' s'' : σ}

def Steps (step : σ → ε → Option σ) (cond : σ → ε → Prop) (s s' : σ) : Prop :=
  ∃ e, cond s e ∧ step s e = some s'

def Leads (step : σ → ε → Option σ) (cond : σ → ε → Prop) : σ → σ → Prop :=
  Relation.ReflTransGen (Steps step cond)

def total (next : σ → ε → σ) (s : σ) (e : ε) : Option σ := some (next s e)

theorem Leads.refl (s : σ) : Leads step cond s s := Relation.ReflTransGen.refl

theorem Leads.snoc {e : ε} (h : Leads step cond s s') (hcond : cond s' e)
    (hstep : step s' e = some s'') : Leads step cond s s'' :=
  Relation.ReflTransGen.tail h ⟨e, hcond, hstep⟩

theorem Leads.trans (h : Leads step cond s s') (h' : Leads step cond s' s'') :
    Leads step cond s s'' :=
  Relation.ReflTransGen.trans h h'

/-- What each step keeps holds at the end of a run if it holds at its start. -/
theorem Leads.invariant (inv : σ → Prop)
    (hkeep : ∀ s e s', inv s → cond s e → step s e = some s' → inv s')
    (h : Leads step cond s s') (hs : inv s) : inv s' := by
  induction h with
  | refl => exact hs
  | tail _ hstep ih =>
    obtain ⟨e, hcond, hnext⟩ := hstep
    exact hkeep _ e _ ih hcond hnext

/-- What relates the states around each step, and composes, relates the ends of a run. -/
theorem Leads.related (rel : σ → σ → Prop) (hrefl : ∀ s, rel s s)
    (htrans : ∀ s s' s'', rel s s' → rel s' s'' → rel s s'')
    (hstep : ∀ s e s', cond s e → step s e = some s' → rel s s')
    (h : Leads step cond s s') : rel s s' := by
  induction h with
  | refl => exact hrefl _
  | tail _ hlast ih =>
    obtain ⟨e, hcond, hnext⟩ := hlast
    exact htrans _ _ _ ih (hstep _ e _ hcond hnext)

def after (step : σ → ε → Option σ) (s : σ) (events : List ε) : Option σ := events.foldlM step s

theorem Leads.of_after (events : List ε) (h : after step s events = some s') :
    Leads step (fun _ _ => True) s s' := by
  induction events generalizing s with
  | nil =>
    cases h
    exact Leads.refl _
  | cons e events ih =>
    obtain ⟨next, hnext, hrest⟩ := Option.bind_eq_some_iff.mp h
    exact Leads.trans (Leads.snoc (Leads.refl s) trivial hnext) (ih hrest)

/-! ### Logs -/

section Logs

variable {step : σ → ε → σ → Prop} {happens : List ε → ε → Prop} {keeps : ε → Prop} {log : List ε}
  {e : ε}

/-- The log of a run, oldest label first, and the state that the run leads to. -/
inductive Logged (step : σ → ε → σ → Prop) (s₀ : σ) : List ε → σ → Prop
  | nil : Logged step s₀ [] s₀
  | snoc {log : List ε} {s s' : σ} {e : ε} :
      Logged step s₀ log s → step s e s' → Logged step s₀ (log ++ [e]) s'

theorem Logged.cons {s₀ s₁ s : σ} (hstep : step s₀ e s₁) (h : Logged step s₁ log s) :
    Logged step s₀ (e :: log) s := by
  induction h with
  | nil => exact Logged.nil.snoc hstep
  | snoc _ hnext ih => exact ih.snoc hnext

theorem logged_snoc {s₀ s : σ} :
    Logged step s₀ (log ++ [e]) s ↔ ∃ s', Logged step s₀ log s' ∧ step s' e s := by
  constructor
  · intro h
    generalize hlog : log ++ [e] = log' at h
    cases h with
    | nil => simp at hlog
    | snoc h hstep =>
      obtain ⟨rfl, he⟩ := List.append_inj' hlog rfl
      cases he
      exact ⟨_, h, hstep⟩
  · rintro ⟨s', h, hstep⟩
    exact h.snoc hstep

def Since (happens : List ε → ε → Prop) (keeps : ε → Prop) (log : List ε) : Prop :=
  ∃ front e rest, log = front ++ e :: rest ∧ happens front e ∧ ∀ e' ∈ rest, keeps e'

theorem not_since_nil : ¬ Since happens keeps [] := by
  rintro ⟨front, e, rest, h, -⟩
  simp at h

theorem since_snoc :
    Since happens keeps (log ++ [e]) ↔ happens log e ∨ keeps e ∧ Since happens keeps log := by
  constructor
  · rintro ⟨front, e', rest, hlog, hhappens, hkeeps⟩
    rcases List.eq_nil_or_concat rest with rfl | ⟨rest, last, rfl⟩
    · obtain ⟨rfl, h⟩ := List.append_inj' hlog rfl
      cases h
      exact .inl hhappens
    · rw [List.concat_eq_append, ← List.cons_append, ← List.append_assoc] at hlog
      obtain ⟨rfl, h⟩ := List.append_inj' hlog rfl
      cases h
      exact .inr ⟨hkeeps e (by simp), front, e', rest, rfl, hhappens,
        fun x hx => hkeeps x (by simp [hx])⟩
  · rintro (hhappens | ⟨hkeep, front, e', rest, rfl, hhappens, hkeeps⟩)
    · exact ⟨log, e, [], rfl, hhappens, by simp⟩
    · refine ⟨front, e', rest ++ [e], by simp, hhappens, fun x hx => ?_⟩
      rcases List.mem_append.mp hx with hx | hx
      · exact hkeeps x hx
      · rw [List.mem_singleton.mp hx]
        exact hkeep

end Logs

end Runs
