import SingboxVpn.Model
import SingboxVpn.Lib.Run

namespace SingboxVpn.ReportQueue

/-!
# The completion report queue

Reports to the control plane are kept in a file.  `enqueue` reads the file, adds a report and
writes it back; a background task reads the file, delivers each report over the network and
writes back what remains.  Both sides interleave freely, at the granularity of one read or one
write of the file.
-/

/-- The largest number of reports that wait. -/
def MAX_PENDING : Nat := 4096

/-- How often a report is tried. -/
def MAX_ATTEMPTS : Nat := 8

/-- What a job came to. -/
inductive Outcome where
  | complete (result : Json)
  | fail (message : String)
deriving DecidableEq

/-- A report that waits, with the claim that it answers. -/
structure Entry where
  jobId : Int
  claimToken : String
  leaseExpiresAt : String
  outcome : Outcome
  attempts : Nat
deriving DecidableEq

def completeEntry (jobId : Int) (claimToken leaseExpiresAt : String) (result : Json) : Entry :=
  ⟨jobId, claimToken, leaseExpiresAt, .complete result, 0⟩

def failEntry (jobId : Int) (claimToken leaseExpiresAt message : String) : Entry :=
  ⟨jobId, claimToken, leaseExpiresAt, .fail message, 0⟩

/-- At capacity the oldest report makes room. -/
def capped {α : Type} (entries : List α) : List α :=
  if MAX_PENDING ≤ entries.length then entries.tail else entries

/-- What the control plane makes of a report. -/
inductive ReportDisposition where
  | accepted
  | terminal
deriving DecidableEq

/-- What has come of one report in a round. -/
inductive Verdict where
  | expired
  | accepted
  | terminal
  | failed
deriving DecidableEq

def U32_MAX : Nat := 2 ^ 32 - 1

/-- One report in a round of the background task: what is kept of it, and why.  `rfc3339` reads
    a deadline; a report whose lease is over or unreadable is not sent at all. -/
def attempt (rfc3339 : Rfc3339) (now : Int)
    (answer : Except String ReportDisposition) (entry : Entry) : Option Entry × Verdict :=
  if (rfc3339 entry.leaseExpiresAt).all fun deadline => deadline ≤ now then (none, .expired)
  else match answer with
    | .ok .accepted => (none, .accepted)
    | .ok .terminal => (none, .terminal)
    | .error _ =>
      let attempts := min (entry.attempts + 1) U32_MAX
      if MAX_ATTEMPTS ≤ attempts then (none, .failed)
      else (some { entry with attempts := attempts }, .failed)

/-! ### The interleaved system -/

structure Queued where
  ticket : Nat
  entry : Entry
deriving DecidableEq

inductive Observation where
  | delivery (ticket : Nat) (verdict : Verdict)
  | evicted (ticket pending : Nat)
deriving DecidableEq

structure Call where
  ticket : Nat
  entry : Entry
  loaded : List Queued
  readAt : Nat
deriving DecidableEq

inductive Consumer where
  | idle
  | delivering (todo remaining : List Queued) (readAt : Nat)
deriving DecidableEq

/-- `writes` counts the files written by `enqueue`, `returned` the tickets of the calls that have
    returned. -/
structure State where
  file : List Queued
  writes : Nat
  consumer : Consumer
  calls : List Call
  nextTicket : Nat
  returned : List Nat
  log : List Observation
deriving DecidableEq

inductive Event where
  | enqueueLoad (jobId : Int) (claimToken leaseExpiresAt : String) (outcome : Outcome)
  | enqueueSave (ticket : Nat)
  | runLoad
  | deliver (now : Int) (answer : Except String ReportDisposition)
  | runSave

/-- The report that a full queue drops. -/
def evictions (loaded : List Queued) : List Observation :=
  if MAX_PENDING ≤ loaded.length then
    (loaded.take 1).map fun q => .evicted q.ticket loaded.length
  else []

def enqueueLoad (s : State) (entry : Entry) : State :=
  { s with
    calls := ⟨s.nextTicket, entry, s.file, s.writes⟩ :: s.calls
    nextTicket := s.nextTicket + 1 }

def enqueueSave (s : State) (c : Call) : State :=
  { s with
    file := capped c.loaded ++ [⟨c.ticket, c.entry⟩]
    writes := s.writes + 1
    calls := s.calls.filter (·.ticket != c.ticket)
    returned := c.ticket :: s.returned
    log := evictions c.loaded ++ s.log }

def deliverFirst (rfc3339 : Rfc3339) (now : Int)
    (answer : Except String ReportDisposition) (s : State) (q : Queued)
    (todo remaining : List Queued) (readAt : Nat) : State :=
  let (kept, verdict) := attempt rfc3339 now answer q.entry
  { s with
    consumer := .delivering todo (remaining ++ (kept.map (Queued.mk q.ticket)).toList) readAt
    log := .delivery q.ticket verdict :: s.log }

def step (rfc3339 : Rfc3339) (s : State) : Event → Option State
  | .enqueueLoad jobId claimToken leaseExpiresAt outcome =>
      some (enqueueLoad s ⟨jobId, claimToken, leaseExpiresAt, outcome, 0⟩)
  | .enqueueSave ticket => (s.calls.find? (·.ticket == ticket)).map (enqueueSave s)
  | .runLoad =>
      match s.consumer with
      -- an empty queue is looked at again later
      | .idle => some (if s.file.isEmpty then s
          else { s with consumer := .delivering s.file [] s.writes })
      | .delivering _ _ _ => none
  | .deliver now answer =>
      match s.consumer with
      | .delivering (q :: todo) remaining readAt =>
          some (deliverFirst rfc3339 now answer s q todo remaining readAt)
      | _ => none
  | .runSave =>
      match s.consumer with
      | .delivering [] remaining _ => some { s with file := remaining, consumer := .idle }
      | _ => none

/-! ### Reports that need not be in the file -/

/-- How often a report was tried in vain. -/
def failures (log : List Observation) (ticket : Nat) : Nat :=
  log.count (.delivery ticket .failed)

/-- The ways in which a report may leave the queue. -/
def Settled (log : List Observation) (ticket : Nat) : Prop :=
  .delivery ticket .accepted ∈ log ∨ .delivery ticket .terminal ∈ log ∨
    .delivery ticket .expired ∈ log ∨ MAX_ATTEMPTS ≤ failures log ticket ∨
    ∃ pending, MAX_PENDING ≤ pending ∧ .evicted ticket pending ∈ log

/-- Every report of a finished call is in the list or may have left it. -/
def Covers (s : State) (l : List Queued) : Prop :=
  ∀ t ∈ s.returned, t ∈ l.map Queued.ticket ∨ Settled s.log t

/-- Nobody writes back a list that is older than the last file written by `enqueue`. -/
def Undisturbed (s : State) : Event → Prop
  | .enqueueSave ticket => ∀ c ∈ s.calls, c.ticket = ticket → c.readAt = s.writes
  | .runSave => ∀ todo remaining readAt,
      s.consumer = .delivering todo remaining readAt → readAt = s.writes
  | _ => True

/-- A queue that nobody is working on.  The file may hold any reports from earlier. -/
structure Start (s : State) : Prop where
  consumer : s.consumer = .idle
  calls : s.calls = []
  returned : s.returned = []
  log : s.log = []
  tickets : ∀ q ∈ s.file, q.ticket < s.nextTicket

/-! ### The invariant -/

/-- The reports that somebody might yet write to the file. -/
inductive Held (s : State) : Queued → Prop
  | file {q : Queued} (h : q ∈ s.file) : Held s q
  | call {c : Call} {q : Queued} (hc : c ∈ s.calls) (h : q ∈ c.loaded) : Held s q
  | round {todo remaining : List Queued} {readAt : Nat} {q : Queued}
      (hround : s.consumer = .delivering todo remaining readAt) (h : q ∈ todo ++ remaining) :
      Held s q

structure Inv (base : Nat) (s : State) : Prop where
  file : Covers s s.file
  round : ∀ todo remaining readAt, s.consumer = .delivering todo remaining readAt →
    readAt ≤ s.writes ∧ (readAt = s.writes → Covers s (todo ++ remaining))
  calls : ∀ c ∈ s.calls, c.readAt ≤ s.writes ∧ (c.readAt = s.writes → Covers s c.loaded)
  attempts : ∀ q, Held s q → base ≤ q.ticket → q.entry.attempts ≤ failures s.log q.ticket
  pending : ∀ c ∈ s.calls, base ≤ c.ticket ∧ c.entry.attempts = 0
  returned : ∀ t ∈ s.returned, base ≤ t
  next : base ≤ s.nextTicket

section Inv

variable {rfc3339 : Rfc3339} {base : Nat} {s s' : State} {e : Event}

variable {more : List Observation} {l remaining : List Queued} {q : Queued} {readAt : Nat}

theorem Settled.mono {log : List Observation} {t : Nat} (h : Settled log t) :
    Settled (more ++ log) t := by
  have hmem : ∀ o ∈ log, o ∈ more ++ log := fun o ho => List.mem_append_right more ho
  rcases h with h | h | h | h | ⟨pending, hfull, h⟩
  · exact .inl (hmem _ h)
  · exact .inr (.inl (hmem _ h))
  · exact .inr (.inr (.inl (hmem _ h)))
  · refine .inr (.inr (.inr (.inl (h.trans ?_))))
    exact List.Sublist.count_le _ (List.sublist_append_right more log)
  · exact .inr (.inr (.inr (.inr ⟨pending, hfull, hmem _ h⟩)))

theorem failures_mono (log more : List Observation) (t : Nat) :
    failures log t ≤ failures (more ++ log) t :=
  List.Sublist.count_le _ (List.sublist_append_right more log)

theorem Covers.mono {l' : List Queued} (h : Covers s l) (hreturned : s'.returned = s.returned)
    (hlog : s'.log = more ++ s.log)
    (hl : ∀ q ∈ l, q.ticket ∈ s.returned → q.ticket ∈ l'.map Queued.ticket ∨
      Settled s'.log q.ticket) :
    Covers s' l' := by
  intro t ht
  rw [hreturned] at ht
  rcases h t ht with hmem | hsettled
  · obtain ⟨q, hq, rfl⟩ := List.mem_map.mp hmem
    exact hl q hq ht
  · rw [hlog]
    exact .inr hsettled.mono

theorem Covers.log (h : Covers s l) (hreturned : s'.returned = s.returned)
    (hlog : s'.log = more ++ s.log) : Covers s' l :=
  h.mono hreturned hlog fun _ hq _ => .inl (List.mem_map_of_mem hq)

theorem inv_enqueueLoad {entry : Entry} (hinv : Inv base s) (hentry : entry.attempts = 0) :
    Inv base (enqueueLoad s entry) := by
  refine ⟨hinv.file, hinv.round, ?_, ?_, ?_, hinv.returned, hinv.next.trans (Nat.le_succ _)⟩
  · intro c hc
    rcases List.mem_cons.mp hc with rfl | hc
    · exact ⟨le_rfl, fun _ => hinv.file⟩
    · exact hinv.calls c hc
  · intro q hq
    cases hq with
    | file h => exact hinv.attempts q (.file h)
    | call hc h =>
      rcases List.mem_cons.mp hc with rfl | hc
      · exact hinv.attempts q (.file h)
      · exact hinv.attempts q (.call hc h)
    | round hround h => exact hinv.attempts q (.round hround h)
  · intro c hc
    rcases List.mem_cons.mp hc with rfl | hc
    · exact ⟨hinv.next, hentry⟩
    · exact hinv.pending c hc

theorem mem_capped_or_evicted (hq : q ∈ l) (log : List Observation) :
    q.ticket ∈ (capped l).map Queued.ticket ∨ Settled (evictions l ++ log) q.ticket := by
  unfold capped evictions
  by_cases hfull : MAX_PENDING ≤ l.length
  · rw [if_pos hfull, if_pos hfull]
    cases l with
    | nil => cases hq
    | cons first rest =>
      rcases List.mem_cons.mp hq with rfl | hq
      · refine .inr (.inr (.inr (.inr (.inr ⟨_, hfull, ?_⟩))))
        simp
      · exact .inl (List.mem_map_of_mem hq)
  · rw [if_neg hfull]
    exact .inl (List.mem_map_of_mem hq)

theorem mem_of_mem_capped (hq : q ∈ capped l) : q ∈ l := by
  unfold capped at hq
  split at hq
  · exact List.mem_of_mem_tail hq
  · exact hq

theorem inv_enqueueSave {c : Call} (hinv : Inv base s) (hc : c ∈ s.calls)
    (hcurrent : c.readAt = s.writes) : Inv base (enqueueSave s c) := by
  have hloaded := (hinv.calls c hc).2 hcurrent
  refine ⟨?_, ?_, ?_, ?_, ?_, ?_, hinv.next⟩
  · intro t ht
    rcases List.mem_cons.mp ht with rfl | ht
    · exact .inl (by simp [enqueueSave])
    · rcases hloaded t ht with hmem | hsettled
      · obtain ⟨q, hq, rfl⟩ := List.mem_map.mp hmem
        refine (mem_capped_or_evicted hq s.log).imp_left fun h => ?_
        simp only [enqueueSave, List.map_append]
        exact List.mem_append_left _ h
      · exact .inr hsettled.mono
  · -- the other parties' lists are out of date from here on
    intro todo remaining readAt hround
    have hle := (hinv.round todo remaining readAt hround).1
    refine ⟨Nat.le_succ_of_le hle, fun h => ?_⟩
    simp only [enqueueSave] at h
    omega
  · intro c' hc'
    have hle := (hinv.calls c' (List.mem_filter.mp hc').1).1
    refine ⟨Nat.le_succ_of_le hle, fun h => ?_⟩
    simp only [enqueueSave] at h
    omega
  · intro q hq hbase
    have hold : Held s q → q.entry.attempts ≤ failures (enqueueSave s c).log q.ticket :=
      fun h => (hinv.attempts q h hbase).trans (failures_mono s.log _ _)
    cases hq with
    | file h =>
      rcases List.mem_append.mp h with h | h
      · exact hold (.call hc (mem_of_mem_capped h))
      · rw [List.mem_singleton.mp h, (hinv.pending c hc).2]
        exact Nat.zero_le _
    | call hc' h => exact hold (.call (List.mem_filter.mp hc').1 h)
    | round hround h => exact hold (.round hround h)
  · intro c' hc'
    exact hinv.pending c' (List.mem_filter.mp hc').1
  · intro t ht
    rcases List.mem_cons.mp ht with rfl | ht
    · exact (hinv.pending c hc).1
    · exact hinv.returned t ht

theorem attempt_cases (rfc3339 : Rfc3339) (now : Int)
    (answer : Except String ReportDisposition) (q : Queued) {log : List Observation}
    (hattempts : q.entry.attempts ≤ failures log q.ticket) :
    let r := attempt rfc3339 now answer q.entry
    (∃ kept, r.1 = some kept ∧
        kept.attempts ≤ failures (.delivery q.ticket r.2 :: log) q.ticket) ∨
      (r.1 = none ∧ Settled (.delivery q.ticket r.2 :: log) q.ticket) := by
  have hfailed : failures (.delivery q.ticket .failed :: log) q.ticket =
      failures log q.ticket + 1 := List.count_cons_self
  unfold attempt
  split
  · exact .inr ⟨rfl, .inr (.inr (.inl List.mem_cons_self))⟩
  · match answer with
    | .ok .accepted => exact .inr ⟨rfl, .inl List.mem_cons_self⟩
    | .ok .terminal => exact .inr ⟨rfl, .inr (.inl List.mem_cons_self)⟩
    | .error _ =>
      dsimp only
      split
      · next hlimit =>
        refine .inr ⟨rfl, .inr (.inr (.inr (.inl ?_)))⟩
        rw [hfailed]
        omega
      · refine .inl ⟨_, rfl, ?_⟩
        rw [hfailed]
        dsimp only
        omega

theorem inv_deliver {now : Int} {answer : Except String ReportDisposition} {todo : List Queued}
    (hinv : Inv base s) (hround : s.consumer = .delivering (q :: todo) remaining readAt) :
    Inv base (deliverFirst rfc3339 now answer s q todo remaining readAt) := by
  have hlog : (deliverFirst rfc3339 now answer s q todo remaining readAt).log =
      [.delivery q.ticket (attempt rfc3339 now answer q.entry).2] ++ s.log := rfl
  have hreturned : (deliverFirst rfc3339 now answer s q todo remaining readAt).returned =
      s.returned := rfl
  have hhead : Held s q := .round hround (List.mem_append_left _ List.mem_cons_self)
  have hcases := fun hbase => attempt_cases rfc3339 now answer q (hinv.attempts q hhead hbase)
  have hconsumer : (deliverFirst rfc3339 now answer s q todo remaining readAt).consumer =
      .delivering todo (remaining ++ ((attempt rfc3339 now answer q.entry).1.map
        (Queued.mk q.ticket)).toList) readAt := rfl
  refine ⟨hinv.file.log hreturned hlog, ?_, ?_, ?_, hinv.pending, hinv.returned, hinv.next⟩
  · intro todo' remaining' readAt' hround'
    rw [hconsumer, Consumer.delivering.injEq] at hround'
    obtain ⟨rfl, rfl, rfl⟩ := hround'
    obtain ⟨hle, hcurrent⟩ := hinv.round _ _ _ hround
    refine ⟨hle, fun heq => (hcurrent heq).mono hreturned hlog ?_⟩
    intro p hp hreturned'
    rcases List.mem_append.mp hp with hp | hp
    · rcases List.mem_cons.mp hp with rfl | hp
      · -- the report just dealt with
        rcases hcases (hinv.returned _ hreturned') with ⟨kept, hkept, -⟩ | ⟨-, hsettled⟩
        · rw [hkept]
          exact .inl (by simp)
        · exact .inr hsettled
      · exact .inl (List.mem_map_of_mem (List.mem_append_left _ hp))
    · refine .inl (List.mem_map_of_mem ?_)
      exact List.mem_append_right _ (List.mem_append_left _ hp)
  · intro c hc
    obtain ⟨hle, hcurrent⟩ := hinv.calls c hc
    exact ⟨hle, fun heq => (hcurrent heq).log hreturned hlog⟩
  · intro p hp hbase
    have hold : Held s p → p.entry.attempts ≤
        failures (deliverFirst rfc3339 now answer s q todo remaining readAt).log p.ticket :=
      fun h => hlog ▸ (hinv.attempts p h hbase).trans (failures_mono s.log _ _)
    cases hp with
    | file h => exact hold (.file h)
    | call hc h => exact hold (.call hc h)
    | round hround' h =>
      rw [hconsumer, Consumer.delivering.injEq] at hround'
      obtain ⟨rfl, rfl, rfl⟩ := hround'
      rcases List.mem_append.mp h with h | h
      · exact hold (.round hround (List.mem_append_left _ (List.mem_cons_of_mem _ h)))
      · rcases List.mem_append.mp h with h | h
        · exact hold (.round hround (List.mem_append_right _ h))
        · rw [Option.mem_toList, Option.map_eq_some_iff] at h
          obtain ⟨kept, hkept, rfl⟩ := h
          rcases hcases hbase with ⟨kept', hkept', hattempts⟩ | ⟨hnone, -⟩
          · rw [hkept] at hkept'
            cases hkept'
            exact hattempts
          · rw [hnone] at hkept
            cases hkept

theorem inv_runLoad (hinv : Inv base s) :
    Inv base { s with consumer := .delivering s.file [] s.writes } := by
  refine ⟨hinv.file, ?_, hinv.calls, ?_, hinv.pending, hinv.returned, hinv.next⟩
  · intro todo remaining readAt hround
    cases hround
    rw [List.append_nil]
    exact ⟨le_rfl, fun _ => hinv.file⟩
  · intro q hq
    cases hq with
    | file h => exact hinv.attempts q (.file h)
    | call hc h => exact hinv.attempts q (.call hc h)
    | round hround h =>
      cases hround
      rw [List.append_nil] at h
      exact hinv.attempts q (.file h)

/-- A round ends by writing back what it has kept of a file that nobody else has written. -/
theorem inv_runSave (hinv : Inv base s) (hround : s.consumer = .delivering [] remaining readAt)
    (hcurrent : readAt = s.writes) : Inv base { s with file := remaining, consumer := .idle } := by
  have hcovers := (hinv.round _ _ _ hround).2 hcurrent
  refine ⟨hcovers, nofun, hinv.calls, ?_, hinv.pending, hinv.returned, hinv.next⟩
  intro q hq
  cases hq with
  | file h => exact hinv.attempts q (.round hround h)
  | call hc h => exact hinv.attempts q (.call hc h)
  | round hround' _ => cases hround'

theorem inv_step (hinv : Inv base s) (hundisturbed : Undisturbed s e)
    (hstep : step rfc3339 s e = some s') : Inv base s' := by
  cases e with
  | enqueueLoad jobId claimToken leaseExpiresAt outcome =>
    cases hstep
    exact inv_enqueueLoad hinv rfl
  | enqueueSave ticket =>
    obtain ⟨c, hfind, rfl⟩ := Option.map_eq_some_iff.mp hstep
    have hc := List.mem_of_find?_eq_some hfind
    have hticket := List.find?_some hfind
    exact inv_enqueueSave hinv hc (hundisturbed c hc (beq_iff_eq.mp hticket))
  | runLoad =>
    simp only [step] at hstep
    split at hstep
    · cases hstep
      split
      · exact hinv
      · exact inv_runLoad hinv
    · cases hstep
  | deliver now answer =>
    simp only [step] at hstep
    split at hstep
    · next hround =>
      cases hstep
      exact inv_deliver hinv hround
    · cases hstep
  | runSave =>
    simp only [step] at hstep
    split at hstep
    · next remaining readAt hround =>
      cases hstep
      exact inv_runSave hinv hround (hundisturbed _ _ _ hround)
    · cases hstep

theorem inv_start (hstart : Start s) : Inv s.nextTicket s := by
  refine ⟨?_, ?_, ?_, ?_, ?_, ?_, le_rfl⟩
  · intro t ht
    rw [hstart.returned] at ht
    cases ht
  · intro todo remaining readAt hround
    rw [hstart.consumer] at hround
    cases hround
  · intro c hc
    rw [hstart.calls] at hc
    cases hc
  · intro q hq hbase
    cases hq with
    | file h => exact absurd (hstart.tickets q h) (Nat.not_lt.mpr hbase)
    | call hc _ =>
      rw [hstart.calls] at hc
      cases hc
    | round hround _ =>
      rw [hstart.consumer] at hround
      cases hround
  · intro c hc
    rw [hstart.calls] at hc
    cases hc
  · intro t ht
    rw [hstart.returned] at ht
    cases ht

end Inv

/-- In runs where no list is written back that another `enqueue` has overtaken, a report whose
    `enqueue` has returned is in the file until it is settled. -/
theorem no_report_lost {rfc3339 : Rfc3339} {s s' : State} (hstart : Start s)
    (hrun : Runs.Leads (step rfc3339) Undisturbed s s') :
    ∀ t ∈ s'.returned, t ∈ s'.file.map Queued.ticket ∨ Settled s'.log t :=
  (hrun.invariant (Inv s.nextTicket) (fun _ _ _ hinv hcond hstep => inv_step hinv hcond hstep)
    (inv_start hstart)).file

/-! ### A lost report -/

def sampleStart : State := ⟨[], 0, .idle, [], 0, [], []⟩

def sampleDeadline (_ : String) : Option Int := some 100

def sampleReport (jobId : Int) : Entry := completeEntry jobId "token" "lease" .null

def sampleEnqueue (jobId : Int) : Event :=
  .enqueueLoad jobId "token" "lease" (.complete .null)

/-- A report whose delivery has failed once is still there. -/
theorem no_report_lost_retried :
    ∃ s, Runs.Leads (step sampleDeadline) Undisturbed sampleStart s ∧ s.returned = [0] ∧
      (0 ∈ s.file.map Queued.ticket ∨ Settled s.log 0) := by
  have hrun : Runs.Leads (step sampleDeadline) Undisturbed sampleStart
      ⟨[⟨0, { sampleReport 7 with attempts := 1 }⟩], 1, .idle, [], 1, [0],
        [.delivery 0 .failed]⟩ := by
    refine Runs.Leads.snoc (e := .runSave) (Runs.Leads.snoc (e := .deliver 0 (.error "timeout"))
      (Runs.Leads.snoc (e := .runLoad) (Runs.Leads.snoc (e := .enqueueSave 0)
        (Runs.Leads.snoc (e := sampleEnqueue 7) (Runs.Leads.refl _) trivial rfl) ?_ rfl)
        trivial rfl) trivial rfl) ?_ rfl
    · intro c hc _
      rw [List.mem_singleton.mp hc]
      rfl
    · intro todo remaining readAt hround
      cases hround
      rfl
  have hstart : Start sampleStart := ⟨rfl, rfl, rfl, rfl, nofun⟩
  exact ⟨_, hrun, rfl, no_report_lost hstart hrun 0 List.mem_cons_self⟩

/-- The second report is enqueued while the first is being delivered; the background task then
    writes back what is left of the list that it has read. -/
theorem enqueued_report_lost :
    Start sampleStart ∧
      Runs.after (step sampleDeadline) sampleStart
        [sampleEnqueue 7, .enqueueSave 0, .runLoad, sampleEnqueue 8, .enqueueSave 1,
          .deliver 0 (.ok .accepted), .runSave] =
        some ⟨[], 2, .idle, [], 2, [1, 0], [.delivery 0 .accepted]⟩ ∧
      ¬ Settled [.delivery 0 .accepted] 1 := by
  refine ⟨⟨rfl, rfl, rfl, rfl, nofun⟩, rfl, ?_⟩
  unfold Settled failures
  simp [MAX_ATTEMPTS]

end SingboxVpn.ReportQueue
