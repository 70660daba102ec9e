import Mathlib.Data.List.Nodup
import Mathlib.Logic.Function.Basic
import SingboxVpn.Lib.Run

/-!
# Processes that take one lock

Any number of processes share a state.  Each waits for the lock, makes its accesses to the state one
by one, and gives the lock back when it ends; a process that is stopped loses it.  Between two
accesses of one process the others go on.
-/

namespace Locked

variable {ι σ α : Type}

/-- What a process does to the shared state; what follows an access depends on the state that it
    found. -/
inductive Program (σ α : Type) where
  | ret (a : α)
  | access (write : σ → σ) (next : σ → Program σ α)

/-- The program, alone with the state `s`, comes to a rest of it and the state `s'`. -/
inductive Program.Reaches (b : Program σ α) (s : σ) : Program σ α → σ → Prop
  | start : Reaches b s b s
  | access {write : σ → σ} {next : σ → Program σ α} {s' : σ} :
      Reaches b s (.access write next) s' → Reaches b s (next s') (write s')

structure System (ι σ α : Type) where
  /-- who has the lock, and what is left of its program -/
  lock : Option (ι × Program σ α)
  /-- the results of those that have ended, if they were not stopped -/
  ended : ι → Option (Option α)
  shared : σ

def System.start (s : σ) : System ι σ α := ⟨none, fun _ => none, s⟩

def System.Waits (t : System ι σ α) (i : ι) : Prop := t.ended i = none ∧ ∀ b, t.lock ≠ some (i, b)

/-- The process was alone with the state, up to its result or to where it was stopped. -/
def Ended (program : ι → Program σ α) (s : σ) (e : ι × Option α) (s' : σ) : Prop :=
  ∃ b, (program e.1).Reaches s b s' ∧ ∀ a, e.2 = some a → b = .ret a

/-- Whoever has the lock has come so far from the state `s`. -/
inductive Held (program : ι → Program σ α) (t : System ι σ α) (s : σ) : Prop
  | free : t.lock = none → t.shared = s → Held program t s
  | held {i : ι} {b : Program σ α} : t.lock = some (i, b) → t.ended i = none →
      (program i).Reaches s b t.shared → Held program t s

structure Serial (program : ι → Program σ α) (s₀ : σ) (log : List (ι × Option α))
    (t : System ι σ α) : Prop where
  nodup : (log.map Prod.fst).Nodup
  fresh : ∀ i, t.ended i = none → i ∉ log.map Prod.fst
  returned : ∀ i a, t.ended i = some (some a) → (i, some a) ∈ log
  state : ∃ s, Runs.Logged (Ended program) s₀ log s ∧ Held program t s

variable {program : ι → Program σ α} {s₀ s : σ} {log : List (ι × Option α)} {t t' : System ι σ α}
  {i : ι} {b : Program σ α} {r : Option α}

theorem nodup_snoc (hnodup : (log.map Prod.fst).Nodup) (hnot : i ∉ log.map Prod.fst) :
    ((log ++ [(i, r)]).map Prod.fst).Nodup := by
  rw [List.map_append]
  exact List.Nodup.append hnodup (List.nodup_singleton _) (by simpa using hnot)

variable [DecidableEq ι]

inductive Step (program : ι → Program σ α) (t : System ι σ α) : System ι σ α → Prop
  | acquire (i : ι) : t.lock = none → t.ended i = none →
      Step program t { t with lock := some (i, program i) }
  | access {i : ι} {write : σ → σ} {next : σ → Program σ α} :
      t.lock = some (i, .access write next) →
      Step program t { t with lock := some (i, next t.shared), shared := write t.shared }
  | finish {i : ι} {b : Program σ α} (r : Option α) : t.lock = some (i, b) →
      (∀ a, r = some a → b = .ret a) →
      Step program t { t with lock := none, ended := Function.update t.ended i (some r) }
  | stop {i : ι} : t.Waits i →
      Step program t { t with ended := Function.update t.ended i (some none) }

def Leads (program : ι → Program σ α) : System ι σ α → System ι σ α → Prop :=
  Relation.ReflTransGen (Step program)

theorem ended_update {ended : ι → Option (Option α)} {j : ι} {o : Option (Option α)}
    (h : Function.update ended i (some r) j = o) : j = i ∧ some r = o ∨ j ≠ i ∧ ended j = o := by
  by_cases hji : j = i
  · subst hji
    exact .inl ⟨rfl, by simpa using h⟩
  · exact .inr ⟨hji, by simpa [hji] using h⟩

/-- Whoever has the lock ends: its entry closes the log. -/
theorem Serial.finish (h : Serial program s₀ log t) (hi : t.lock = some (i, b))
    (hend : ∀ a, r = some a → b = .ret a) :
    Serial program s₀ (log ++ [(i, r)])
      { t with lock := none, ended := Function.update t.ended i (some r) } := by
  obtain ⟨s, hlog, hheld⟩ := h.state
  cases hheld with
  | free hfree => cases hi.symm.trans hfree
  | held hlock hlive hreaches =>
    cases hi.symm.trans hlock
    refine ⟨nodup_snoc h.nodup (h.fresh i hlive), fun j hj => ?_, fun j a hj => ?_, t.shared,
      hlog.snoc ⟨b, hreaches, hend⟩, .free rfl rfl⟩
    · rcases ended_update hj with ⟨-, hr⟩ | ⟨hji, hj⟩
      · cases hr
      · simpa [hji] using h.fresh j hj
    · rcases ended_update hj with ⟨rfl, hr⟩ | ⟨-, hj⟩
      · cases hr
        exact List.mem_append_right _ (List.mem_singleton_self _)
      · exact List.mem_append_left _ (h.returned j a hj)

theorem Serial.step (h : Serial program s₀ log t) (hstep : Step program t t') :
    ∃ log', Serial program s₀ log' t' := by
  cases hstep with
  | finish r hi hend => exact ⟨_, h.finish hi hend⟩
  | acquire i hfree hlive =>
    refine ⟨log, h.nodup, h.fresh, h.returned, ?_⟩
    obtain ⟨s, hlog, hheld⟩ := h.state
    cases hheld with
    | held hlock => cases hfree.symm.trans hlock
    | free _ hshared => exact ⟨s, hlog, .held rfl hlive (hshared ▸ .start)⟩
  | access hi =>
    refine ⟨log, h.nodup, h.fresh, h.returned, ?_⟩
    obtain ⟨s, hlog, hheld⟩ := h.state
    cases hheld with
    | free hfree => cases hi.symm.trans hfree
    | held hlock hlive hreaches =>
      cases hi.symm.trans hlock
      exact ⟨s, hlog, .held rfl hlive hreaches.access⟩
  | @stop i hwaits =>
    refine ⟨log, h.nodup, fun j hj => ?_, fun j a hj => ?_, ?_⟩
    · rcases ended_update hj with ⟨-, hr⟩ | ⟨-, hj⟩
      · cases hr
      · exact h.fresh j hj
    · rcases ended_update hj with ⟨-, hr⟩ | ⟨-, hj⟩
      · cases hr
      · exact h.returned j a hj
    · obtain ⟨s, hlog, hheld⟩ := h.state
      refine ⟨s, hlog, ?_⟩
      cases hheld with
      | free hfree hshared => exact .free hfree hshared
      | @held k b hlock hlive hreaches =>
        have hki : k ≠ i := fun hki => hwaits.2 b (hki ▸ hlock)
        exact .held hlock (by simpa [hki] using hlive) hreaches

/-- Every interleaving is serial, in the order in which the lock was taken; whoever has it now comes
    last, as if it were stopped here. -/
theorem serial (h : Leads program (System.start s₀) t) :
    ∃ log, Runs.Logged (Ended program) s₀ log t.shared ∧ (log.map Prod.fst).Nodup ∧
      (∀ i a, t.ended i = some (some a) → (i, some a) ∈ log) ∧
      ∀ i, t.Waits i → i ∉ log.map Prod.fst := by
  have hserial : ∃ log, Serial program s₀ log t := by
    induction h with
    | refl =>
      exact ⟨[], List.nodup_nil, fun _ _ => List.not_mem_nil, fun i a h => (by cases h), s₀, .nil,
        .free rfl rfl⟩
    | tail _ hstep ih =>
      obtain ⟨log, hlog⟩ := ih
      exact hlog.step hstep
  obtain ⟨log, hserial⟩ := hserial
  obtain ⟨s, hlog, hheld⟩ := hserial.state
  cases hheld with
  | free _ hshared =>
    exact ⟨log, hshared ▸ hlog, hserial.nodup, hserial.returned, fun i hi => hserial.fresh i hi.1⟩
  | @held k b hlock hlive hreaches =>
    refine ⟨log ++ [(k, none)], hlog.snoc ⟨b, hreaches, fun a ha => (by cases ha)⟩,
      nodup_snoc hserial.nodup (hserial.fresh k hlive),
      fun i a hi => List.mem_append_left _ (hserial.returned i a hi), fun i hi => ?_⟩
    have hne : i ≠ k := fun hik => hi.2 b (hik ▸ hlock)
    simpa [hne] using hserial.fresh i hi.1

end Locked
