import Mathlib.Data.Fintype.Basic
import SingboxVpn.Lib.Run

namespace SingboxVpn.Events

open Runs

/-!
# Wake-ups of the agent's main loop

`apps/provisioning-agent/src/events.rs` and the loop of `main.rs`: a background task marks the
channels on which something happened, and the loop decides in each iteration which of its three
network steps are due.  The two share atomic flags only, so a run is an interleaving of single
accesses to them, together with the times that the loop reads and the outcomes of its steps.

* `Keeps` — how flags and deadlines remember it; `keeps_of_logged` is the invariant.
-/

/-! ### Flags -/

/-- The three steps of the loop that an event can make due; `jobs` is the one that claims. -/
inductive Channel
  | jobs
  | authorizations
  | leases
deriving DecidableEq, Repr

namespace Channel

def ofName : String → Option Channel
  | "jobs" => some .jobs
  | "authorizations" => some .authorizations
  | "leases" => some .leases
  | _ => none

def reads : List Channel := [.jobs, .authorizations, .leases]

def works : List Channel := [.leases, .authorizations, .jobs]

theorem mem_reads (c : Channel) : c ∈ reads := by cases c <;> decide

theorem mem_works (c : Channel) : c ∈ works := by cases c <;> decide

end Channel

/-- The flags that the event stream sets. -/
structure Wakeups where
  flag : Channel → Bool
  healthy : Bool

namespace Wakeups

/-- No event yet, and no stream. -/
def new : Wakeups := ⟨fun _ => false, false⟩

def store (w : Wakeups) (name : String) : Wakeups :=
  match Channel.ofName name with
  | some c => { w with flag := Function.update w.flag c true }
  | none => w

def take (w : Wakeups) (c : Channel) : Wakeups :=
  { w with flag := Function.update w.flag c false }

/-- Say whether the stream is up. -/
def setHealthy (w : Wakeups) (healthy : Bool) : Wakeups := { w with healthy }

theorem flag_store {w : Wakeups} {name : String} {c : Channel} :
    (w.store name).flag c = (decide (Channel.ofName name = some c) || w.flag c) := by
  unfold store
  cases hname : Channel.ofName name with
  | none => simp
  | some c' =>
    by_cases hc : c = c'
    · simp [hc]
    · simp [Function.update_of_ne hc, Ne.symm hc]

end Wakeups

/-! ### Deadlines -/

/-- When each channel is due. -/
structure Schedule where
  reconcile : Nat
  next : Channel → Nat

namespace Schedule

/-- Everything is due at once. -/
def new (reconcile now : Nat) : Schedule := ⟨reconcile, fun _ => now⟩

def isDue (s : Schedule) (now : Nat) (taken : Channel → Bool) (primary : Bool) (c : Channel) :
    Bool :=
  !primary || taken c || decide (s.next c ≤ now)

/-- The channels that are due, and the schedule with their deadlines moved. -/
def due (s : Schedule) (now : Nat) (taken : Channel → Bool) (primary : Bool) :
    (Channel → Bool) × Schedule :=
  (s.isDue now taken primary,
    { s with next := fun c => if s.isDue now taken primary c then now + s.reconcile else s.next c })

def setNext (s : Schedule) (c : Channel) (now : Nat) : Schedule :=
  { s with next := Function.update s.next c now }

/-- A job was processed: look for the next one at once. -/
def claimAgainNow (s : Schedule) (now : Nat) : Schedule := s.setNext .jobs now

/-- The authorizations failed: try again in the next round. -/
def retryAuthorizations (s : Schedule) (now : Nat) : Schedule := s.setNext .authorizations now

/-- The leases failed: try again in the next round. -/
def retryLeases (s : Schedule) (now : Nat) : Schedule := s.setNext .leases now

/-- The claim failed: try again in the next round. -/
def retryClaim (s : Schedule) (now : Nat) : Schedule := s.setNext .jobs now

end Schedule

/-! ### The loop -/

/-- How a step of the loop ends; `again` is the claim that found a job. -/
inductive Outcome
  | done
  | again
  | failed
deriving DecidableEq, Repr

def Schedule.after (s : Schedule) (now : Nat) : Channel → Outcome → Schedule
  | _, .done => s
  | _, .again => s.claimAgainNow now
  | .leases, .failed => s.retryLeases now
  | .authorizations, .failed => s.retryAuthorizations now
  | .jobs, .failed => s.retryClaim now

namespace Schedule

variable {s : Schedule} {now : Nat} {c c' : Channel} {outcome : Outcome}

theorem reconcile_after (s : Schedule) (now : Nat) (c : Channel) (outcome : Outcome) :
    (s.after now c outcome).reconcile = s.reconcile := by
  cases outcome <;> cases c <;> rfl

theorem next_setNext_self : (s.setNext c now).next c = now := Function.update_self ..

theorem next_setNext_of_ne (hc : c ≠ c') : (s.setNext c' now).next c = s.next c :=
  Function.update_of_ne hc ..

theorem next_after_self (hagain : outcome = .again → c = .jobs) (hdone : outcome ≠ .done) :
    (s.after now c outcome).next c = now := by
  cases outcome with
  | done => exact absurd rfl hdone
  | again =>
    cases hagain rfl
    exact next_setNext_self
  | failed => cases c <;> exact next_setNext_self

theorem next_after_of_ne (hagain : outcome = .again → c' = .jobs) (hc : c ≠ c') :
    (s.after now c' outcome).next c = s.next c := by
  cases outcome with
  | done => rfl
  | again =>
    cases hagain rfl
    exact next_setNext_of_ne hc
  | failed => cases c' <;> exact next_setNext_of_ne hc

end Schedule

/-- Where the loop is: between two iterations, inside `due` with flags still to be read, or after
it with steps still to be taken. -/
inductive Phase
  | idle
  | reading (now : Nat) (taken : Channel → Bool) (unread : List Channel)
  | working (due : Channel → Bool) (steps : List Channel)

structure Loop where
  wake : Wakeups
  schedule : Schedule
  /-- The last time that the loop has read. -/
  clock : Nat
  phase : Phase

/-- The loop at its start. -/
def Loop.new (reconcile now : Nat) : Loop := ⟨.new, .new reconcile now, now, .idle⟩

/-- What happens to the loop, from outside and from inside. -/
inductive Label
  | store (name : String)
  | setHealthy (healthy : Bool)
  | start (now : Nat)
  | take (c : Channel)
  | decided (now : Nat) (due : Channel → Bool)
  | attempt (c : Channel) (outcome : Outcome) (now : Nat)
  | skip
  | ended

/-- One step of the background task or of the loop.  The lease and the authorization step are
taken in every iteration, the claim only when it is due. -/
inductive Step (s : Loop) : Label → Loop → Prop
  | store (name : String) : Step s (.store name) { s with wake := s.wake.store name }
  | setHealthy (healthy : Bool) :
      Step s (.setHealthy healthy) { s with wake := s.wake.setHealthy healthy }
  | start {now : Nat} (hphase : s.phase = .idle) (hclock : s.clock ≤ now) :
      Step s (.start now)
        { s with clock := now, phase := .reading now (fun _ => false) Channel.reads }
  | take {now : Nat} {taken : Channel → Bool} {c : Channel} {unread : List Channel}
      (hphase : s.phase = .reading now taken (c :: unread)) :
      Step s (.take c)
        { s with
          wake := s.wake.take c
          phase := .reading now (Function.update taken c (s.wake.flag c)) unread }
  | decided {now : Nat} {taken : Channel → Bool} (hphase : s.phase = .reading now taken []) :
      Step s (.decided now (s.schedule.due now taken s.wake.healthy).1)
        { s with
          schedule := (s.schedule.due now taken s.wake.healthy).2
          phase := .working (s.schedule.due now taken s.wake.healthy).1 Channel.works }
  | attempt {due : Channel → Bool} {c : Channel} {steps : List Channel} {outcome : Outcome}
      {now : Nat} (hphase : s.phase = .working due (c :: steps))
      (hrun : c = .jobs → due c = true) (hagain : outcome = .again → c = .jobs)
      (hclock : s.clock ≤ now) :
      Step s (.attempt c outcome now)
        { s with
          schedule := s.schedule.after now c outcome
          clock := now
          phase := .working due steps }
  | skip {due : Channel → Bool} {steps : List Channel}
      (hphase : s.phase = .working due (.jobs :: steps)) (hdue : due .jobs = false) :
      Step s .skip { s with phase := .working due steps }
  | ended {due : Channel → Bool} (hphase : s.phase = .working due []) :
      Step s .ended { s with phase := .idle }

/-! ### What a log says -/

section Log
variable (c : Channel)

/-- The channel was marked and its flag has not been read since. -/
def Pending : List Label → Prop :=
  Since (fun _ e => ∃ name, e = .store name ∧ Channel.ofName name = some c) (· ≠ .take c)

/-- The channel was marked before its last flag read, and after the one before that. -/
def Marked : List Label → Prop :=
  Since (fun log e => e = .take c ∧ Pending c log) (· ≠ .take c)

def Failed : List Label → Prop :=
  Since (fun _ e => ∃ now, e = .attempt c .failed now)
    (fun e => ∀ outcome now, e = .attempt c outcome now → outcome = .failed)

def LastDue (now : Nat) : List Label → Prop :=
  Since (fun _ e => ∃ due, e = .decided now due ∧ due c = true)
    (fun e => ∀ now' due, e = .decided now' due → due c = false)

end Log

def Label.concerns (c : Channel) : Label → Bool
  | .store name => Channel.ofName name = some c
  | .take c' => c' = c
  | .attempt c' _ _ => c' = c
  | .decided _ _ => true
  | _ => false

/-! ### What the state remembers -/

/-- Flags, deadlines and the place in the loop remember what the log says about a channel. -/
structure Keeps (reconcile : Nat) (c : Channel) (log : List Label) (s : Loop) : Prop where
  interval : s.schedule.reconcile = reconcile
  reading : ∀ {now taken unread}, s.phase = .reading now taken unread → now = s.clock
  flag : Pending c log → s.wake.flag c = true
  taken : Marked c log → ∀ {now taken unread}, s.phase = .reading now taken unread →
    c ∉ unread → taken c = true
  /-- A failed step is retried: in this iteration, where it is due, or by its deadline. -/
  retried : Failed c log →
    (∃ due steps, s.phase = .working due steps ∧ c ∈ steps ∧ due c = true) ∨
      s.schedule.next c ≤ s.clock
  reconciled : ∀ {now}, LastDue c now log → s.schedule.next c ≤ max (now + reconcile) s.clock

namespace Keeps

variable {reconcile : Nat} {c : Channel} {log : List Label} {s s' : Loop} {e : Label}

theorem new {now : Nat} : Keeps reconcile c [] (Loop.new reconcile now) where
  interval := rfl
  reading := by rintro _ _ _ ⟨⟩
  flag h := absurd h not_since_nil
  taken h := absurd h not_since_nil
  retried h := absurd h not_since_nil
  reconciled h := absurd h not_since_nil

theorem of_silent (h : Keeps reconcile c log s) (he : e.concerns c = false) :
    Keeps reconcile c (log ++ [e]) s where
  interval := h.interval
  reading := h.reading
  flag hlog := by
    rcases since_snoc.mp hlog with ⟨name, rfl, hname⟩ | ⟨-, hlog⟩
    · simp [Label.concerns, hname] at he
    · exact h.flag hlog
  taken hlog := by
    rcases since_snoc.mp hlog with ⟨rfl, -⟩ | ⟨-, hlog⟩
    · simp [Label.concerns] at he
    · exact h.taken hlog
  retried hlog := by
    rcases since_snoc.mp hlog with ⟨now, rfl⟩ | ⟨-, hlog⟩
    · simp [Label.concerns] at he
    · exact h.retried hlog
  reconciled hlog := by
    rcases since_snoc.mp hlog with ⟨due, rfl, -⟩ | ⟨-, hlog⟩
    · simp [Label.concerns] at he
    · exact h.reconciled hlog

theorem store {name : String} (h : Keeps reconcile c log s) :
    Keeps reconcile c (log ++ [.store name]) { s with wake := s.wake.store name } where
  interval := h.interval
  reading := h.reading
  flag hlog := by
    rw [Wakeups.flag_store, Bool.or_eq_true, decide_eq_true_iff]
    rcases since_snoc.mp hlog with ⟨_, ⟨⟩, hname⟩ | ⟨-, hlog⟩
    · exact .inl hname
    · exact .inr (h.flag hlog)
  taken hlog := h.taken (by simpa [Marked, since_snoc] using hlog)
  retried hlog := h.retried (by simpa [Failed, since_snoc] using hlog)
  reconciled hlog := h.reconciled (by simpa [LastDue, since_snoc] using hlog)

theorem setHealthy (h : Keeps reconcile c log s) (healthy : Bool) :
    Keeps reconcile c log { s with wake := s.wake.setHealthy healthy } where
  interval := h.interval
  reading := h.reading
  flag := h.flag
  taken := h.taken
  retried := h.retried
  reconciled := h.reconciled

theorem start {now : Nat} (h : Keeps reconcile c log s) (hphase : s.phase = .idle)
    (hclock : s.clock ≤ now) :
    Keeps reconcile c log
      { s with clock := now, phase := .reading now (fun _ => false) Channel.reads } where
  interval := h.interval
  reading := by
    rintro _ _ _ ⟨⟩
    rfl
  flag := h.flag
  taken := by
    rintro - _ _ _ ⟨⟩ hunread
    exact absurd c.mem_reads hunread
  retried hlog := by
    rcases h.retried hlog with ⟨_, _, hworking, -⟩ | hnext
    · cases hphase.symm.trans hworking
    · exact .inr (hnext.trans hclock)
  reconciled hlog := (h.reconciled hlog).trans (max_le_max_left _ hclock)

theorem take {now : Nat} {taken : Channel → Bool} {unread : List Channel}
    (h : Keeps reconcile c log s) (hphase : s.phase = .reading now taken (c :: unread)) :
    Keeps reconcile c (log ++ [.take c])
      { s with
        wake := s.wake.take c
        phase := .reading now (Function.update taken c (s.wake.flag c)) unread } where
  interval := h.interval
  reading := by
    rintro _ _ _ ⟨⟩
    exact h.reading hphase
  flag hlog := by simp [Pending, since_snoc] at hlog
  taken hlog := by
    rintro _ _ _ ⟨⟩ -
    rw [Function.update_self]
    exact h.flag (by simpa [Marked, since_snoc] using hlog)
  retried hlog := by
    rcases h.retried (by simpa [Failed, since_snoc] using hlog) with ⟨_, _, hworking, -⟩ | hnext
    · cases hphase.symm.trans hworking
    · exact .inr hnext
  reconciled hlog := h.reconciled (by simpa [LastDue, since_snoc] using hlog)

theorem take_other {now : Nat} {taken : Channel → Bool} {c' : Channel} {unread : List Channel}
    (h : Keeps reconcile c log s) (hphase : s.phase = .reading now taken (c' :: unread))
    (hc : c ≠ c') :
    Keeps reconcile c log
      { s with
        wake := s.wake.take c'
        phase := .reading now (Function.update taken c' (s.wake.flag c')) unread } where
  interval := h.interval
  reading := by
    rintro _ _ _ ⟨⟩
    exact h.reading hphase
  flag hlog := (Function.update_of_ne hc _ _).trans (h.flag hlog)
  taken hlog := by
    rintro _ _ _ ⟨⟩ hunread
    rw [Function.update_of_ne hc]
    exact h.taken hlog hphase (by simp [hc, hunread])
  retried hlog := by
    rcases h.retried hlog with ⟨_, _, hworking, -⟩ | hnext
    · cases hphase.symm.trans hworking
    · exact .inr hnext
  reconciled := h.reconciled

section Decided
variable {now : Nat} {taken : Channel → Bool}

theorem next_le_of_failed (h : Keeps reconcile c log s) (hphase : s.phase = .reading now taken [])
    (hfailed : Failed c log) : s.schedule.next c ≤ now := by
  rcases h.retried hfailed with ⟨_, _, hworking, -⟩ | hnext
  · cases hphase.symm.trans hworking
  · exact hnext.trans (h.reading hphase).ge

theorem next_le_of_lastDue {last : Nat} (h : Keeps reconcile c log s)
    (hphase : s.phase = .reading now taken []) (hlast : LastDue c last log)
    (hinterval : last + reconcile ≤ now) : s.schedule.next c ≤ now :=
  (h.reconciled hlast).trans (max_le hinterval (h.reading hphase).ge)

theorem decided (h : Keeps reconcile c log s) (hphase : s.phase = .reading now taken []) :
    Keeps reconcile c (log ++ [.decided now (s.schedule.due now taken s.wake.healthy).1])
      { s with
        schedule := (s.schedule.due now taken s.wake.healthy).2
        phase := .working (s.schedule.due now taken s.wake.healthy).1 Channel.works } where
  interval := h.interval
  reading := by rintro _ _ _ ⟨⟩
  flag hlog := h.flag (by simpa [Pending, since_snoc] using hlog)
  taken := by rintro - _ _ _ ⟨⟩
  retried hlog := by
    have hfailed : Failed c log := by simpa [Failed, since_snoc] using hlog
    refine .inl ⟨_, _, rfl, c.mem_works, ?_⟩
    simp [Schedule.due, Schedule.isDue, h.next_le_of_failed hphase hfailed]
  reconciled {last} hlog := by
    have hlog' := since_snoc.mp hlog
    simp only [Schedule.due, Label.decided.injEq] at hlog' ⊢
    rcases hlog' with ⟨_, ⟨rfl, rfl⟩, hdue⟩ | ⟨hnot, hlog⟩
    · rw [if_pos hdue, h.interval]
      exact le_max_left _ _
    · have hdue : s.schedule.isDue now taken s.wake.healthy c = false := hnot _ _ ⟨rfl, rfl⟩
      rw [if_neg (by simp [hdue])]
      exact h.reconciled hlog

end Decided

section Working
variable {due : Channel → Bool} {steps : List Channel} {outcome : Outcome} {now : Nat}

theorem attempt (h : Keeps reconcile c log s) (hagain : outcome = .again → c = .jobs)
    (hclock : s.clock ≤ now) :
    Keeps reconcile c (log ++ [.attempt c outcome now])
      { s with
        schedule := s.schedule.after now c outcome
        clock := now
        phase := .working due steps } where
  interval := (Schedule.reconcile_after ..).trans h.interval
  reading := by rintro _ _ _ ⟨⟩
  flag hlog := h.flag (by simpa [Pending, since_snoc] using hlog)
  taken := by rintro - _ _ _ ⟨⟩
  retried hlog := by
    refine .inr (le_of_eq (Schedule.next_after_self hagain ?_))
    rcases since_snoc.mp hlog with ⟨_, ⟨⟩⟩ | ⟨hkeeps, -⟩
    · decide
    · simp [hkeeps _ _ rfl]
  reconciled hlog := by
    by_cases hdone : outcome = .done
    · subst hdone
      exact (h.reconciled (by simpa [LastDue, since_snoc] using hlog)).trans
        (max_le_max_left _ hclock)
    · exact (Schedule.next_after_self hagain hdone).trans_le (le_max_right _ _)

theorem attempt_other {c' : Channel} (h : Keeps reconcile c log s)
    (hphase : s.phase = .working due (c' :: steps)) (hagain : outcome = .again → c' = .jobs)
    (hclock : s.clock ≤ now) (hc : c ≠ c') :
    Keeps reconcile c log
      { s with
        schedule := s.schedule.after now c' outcome
        clock := now
        phase := .working due steps } where
  interval := (Schedule.reconcile_after ..).trans h.interval
  reading := by rintro _ _ _ ⟨⟩
  flag := h.flag
  taken := by rintro - _ _ _ ⟨⟩
  retried hlog := by
    rw [Schedule.next_after_of_ne hagain hc]
    rcases h.retried hlog with ⟨_, _, hworking, hmem, hdue⟩ | hnext
    · cases hphase.symm.trans hworking
      exact .inl ⟨_, _, rfl, (List.mem_cons.mp hmem).resolve_left hc, hdue⟩
    · exact .inr (hnext.trans hclock)
  reconciled hlog := by
    rw [Schedule.next_after_of_ne hagain hc]
    exact (h.reconciled hlog).trans (max_le_max_left _ hclock)

theorem skip (h : Keeps reconcile c log s) (hphase : s.phase = .working due (.jobs :: steps))
    (hskip : due .jobs = false) :
    Keeps reconcile c log { s with phase := .working due steps } where
  interval := h.interval
  reading := by rintro _ _ _ ⟨⟩
  flag := h.flag
  taken := by rintro - _ _ _ ⟨⟩
  retried hlog := by
    rcases h.retried hlog with ⟨_, _, hworking, hmem, hdue⟩ | hnext
    · cases hphase.symm.trans hworking
      rcases List.mem_cons.mp hmem with rfl | hmem
      · simp [hskip] at hdue
      · exact .inl ⟨_, _, rfl, hmem, hdue⟩
    · exact .inr hnext
  reconciled := h.reconciled

theorem ended (h : Keeps reconcile c log s) (hphase : s.phase = .working due []) :
    Keeps reconcile c log { s with phase := .idle } where
  interval := h.interval
  reading := by rintro _ _ _ ⟨⟩
  flag := h.flag
  taken := by rintro - _ _ _ ⟨⟩
  retried hlog := by
    rcases h.retried hlog with ⟨_, _, hworking, hmem, -⟩ | hnext
    · cases hphase.symm.trans hworking
      cases hmem
    · exact .inr hnext
  reconciled := h.reconciled

end Working

theorem step (h : Keeps reconcile c log s) (hstep : Step s e s') :
    Keeps reconcile c (log ++ [e]) s' := by
  cases hstep with
  | store name => exact h.store
  | setHealthy healthy => exact (h.setHealthy healthy).of_silent rfl
  | start hphase hclock => exact (h.start hphase hclock).of_silent rfl
  | @take _ _ c' _ hphase =>
    by_cases hc : c = c'
    · subst hc
      exact h.take hphase
    · exact (h.take_other hphase hc).of_silent (by simp [Label.concerns, Ne.symm hc])
  | decided hphase => exact h.decided hphase
  | @attempt _ c' _ _ _ hphase _ hagain hclock =>
    by_cases hc : c = c'
    · subst hc
      exact h.attempt hagain hclock
    · exact (h.attempt_other hphase hagain hclock hc).of_silent
        (by simp [Label.concerns, Ne.symm hc])
  | skip hphase hdue => exact (h.skip hphase hdue).of_silent rfl
  | ended hphase => exact (h.ended hphase).of_silent rfl

end Keeps

theorem keeps_of_logged {reconcile begun : Nat} {log : List Label} {s : Loop}
    (h : Logged Step (Loop.new reconcile begun) log s) (c : Channel) :
    Keeps reconcile c log s := by
  induction h with
  | nil => exact .new
  | snoc _ hstep ih => exact ih.step hstep

/-- An iteration has a channel due that was marked before it read the flag, of which the last
attempt failed, or that was last due at least the reconcile interval ago. -/
theorem due_of_owed {reconcile begun now : Nat} {log : List Label} {due : Channel → Bool} {s : Loop}
    (h : Logged Step (Loop.new reconcile begun) (log ++ [.decided now due]) s) (c : Channel)
    (howed : Marked c log ∨ Failed c log ∨ ∃ last, LastDue c last log ∧ last + reconcile ≤ now) :
    due c = true := by
  obtain ⟨before, hlogged, hstep⟩ := logged_snoc.mp h
  have hkeeps := keeps_of_logged hlogged c
  cases hstep with
  | @decided _ taken hphase =>
    show (!before.wake.healthy || taken c || decide (before.schedule.next c ≤ now)) = true
    rcases howed with hmarked | hfailed | ⟨last, hlast, hinterval⟩
    · simp [hkeeps.taken hmarked hphase (List.not_mem_nil)]
    · simp [hkeeps.next_le_of_failed hphase hfailed]
    · simp [hkeeps.next_le_of_lastDue hphase hlast hinterval]

/-- The log of an iteration in which the lease step fails, and of the next one up to its flag
reads, before which a job is announced. -/
def sampleLog : List Label :=
  [.start 0, .take .jobs, .take .authorizations, .take .leases, .decided 0 (fun _ => true),
    .setHealthy true, .attempt .leases .failed 1, .attempt .authorizations .done 2,
    .attempt .jobs .done 3, .ended, .start 4, .store "jobs", .take .jobs, .take .authorizations,
    .take .leases]

/-- A stored event and a failed step are due in the next round, a finished one is not. -/
theorem due_of_owed_sampleLog :
    ∃ due s, Logged Step (Loop.new 10 0) (sampleLog ++ [.decided 4 due]) s ∧
      due .jobs = true ∧ due .leases = true ∧ due .authorizations = false := by
  obtain ⟨due, s, hlogged, hnot⟩ : ∃ due s,
      Logged Step (Loop.new 10 0) (sampleLog ++ [.decided 4 due]) s ∧
        due .authorizations = false :=
    ⟨_, _, .cons (.start rfl (by decide)) (.cons (.take rfl) (.cons (.take rfl) (.cons (.take rfl)
      (.cons (.decided rfl) (.cons (.setHealthy true)
      (.cons (.attempt rfl (by decide) (by decide) (by decide))
      (.cons (.attempt rfl (by decide) (by decide) (by decide))
      (.cons (.attempt rfl (fun _ => rfl) (by decide) (by decide)) (.cons (.ended rfl)
      (.cons (.start rfl (by decide)) (.cons (.store "jobs") (.cons (.take rfl)
      (.cons (.take rfl) (.cons (.take rfl) (.cons (.decided rfl) .nil))))))))))))))), rfl⟩
  refine ⟨due, s, hlogged, due_of_owed hlogged .jobs (.inl ?_),
    due_of_owed hlogged .leases (.inr (.inl ?_)), hnot⟩
  · refine ⟨sampleLog.take 12, _, sampleLog.drop 13, rfl, ⟨rfl, ?_⟩, by simp [sampleLog]⟩
    exact ⟨sampleLog.take 11, _, [], rfl, ⟨"jobs", rfl, rfl⟩, by simp⟩
  · exact ⟨sampleLog.take 6, _, sampleLog.drop 7, rfl, ⟨1, rfl⟩, by simp [sampleLog]⟩

end SingboxVpn.Events
