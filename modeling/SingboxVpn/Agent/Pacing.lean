import SingboxVpn.Lib.Text

namespace SingboxVpn.Pacing

/-!
# The pacing of control-plane calls

`apps/provisioning-agent/src/pacing.rs`: after a failure no polling call leaves the node until the
gate opens again.  The wait is the longer of an own backoff, of which the jitter is left open, and
of what the server demands in `Retry-After`.  Times and durations are nanoseconds.
-/

def SECOND : Nat := 10 ^ 9

/-- The longest wait that a server may ask for. -/
def MAX_RETRY_AFTER : Nat := 3600 * SECOND

/-! ### What the server demands -/

def parseU64 (s : String) : Option Nat :=
  let digits : List Char := match s.toList with
    | '+' :: rest => rest
    | chars => chars
  let n := digits.foldl (fun n c => 10 * n + (c.toNat - '0'.toNat)) 0
  if digits ≠ [] ∧ digits.all Char.isDigit = true ∧ n < 2 ^ 64 then some n else none

section
variable (rfc2822 : String → Option Int)

/-- Seconds, or a date that is not in the past, with a fraction of a second rounded up. -/
def parseRetryAfterAt (header : Option String) (now : Int) : Option Nat := do
  let raw := Text.trim (← header)
  match parseU64 raw with
  | some seconds => some (min (seconds * SECOND) MAX_RETRY_AFTER)
  | none =>
    let delta := (← rfc2822 raw) - now
    if delta < 0 then none
    else
      let secs := delta.toNat / SECOND + (if 0 < delta.toNat % SECOND then 1 else 0)
      some (min (secs * SECOND) MAX_RETRY_AFTER)

theorem le_of_parseRetryAfterAt {header : Option String} {now : Int} {server : Nat}
    (h : parseRetryAfterAt rfc2822 header now = some server) : server ≤ MAX_RETRY_AFTER := by
  unfold parseRetryAfterAt at h
  obtain ⟨text, -, h⟩ := Option.bind_eq_some_iff.mp h
  dsimp only at h
  split at h
  · cases h
    exact min_le_right _ _
  · obtain ⟨at_, -, h⟩ := Option.bind_eq_some_iff.mp h
    split at h
    · cases h
    · cases h
      exact min_le_right _ _

end

/-! ### The gate -/

/-- Exponential delays, half fixed and half drawn. -/
structure Backoff where
  base : Nat
  cap : Nat
  failures : Nat

def DURATION_MAX : Nat := (2 ^ 64 - 1) * SECOND + (SECOND - 1)

namespace Backoff

/-- The exponential step that the next delay is drawn from. -/
def step (b : Backoff) : Nat :=
  let product := b.base * 2 ^ min b.failures 20
  min (if product ≤ DURATION_MAX then product else b.cap) b.cap

def Draws (b : Backoff) (own : Nat) : Prop := b.step / 2 ≤ own ∧ own ≤ b.step

def bump (b : Backoff) : Backoff := { b with failures := min (b.failures + 1) (2 ^ 32 - 1) }

/-- Back to the first delay. -/
def reset (b : Backoff) : Backoff := { b with failures := 0 }

end Backoff

/-- The circuit breaker in front of the control plane. -/
structure ControlPlaneGate where
  backoff : Backoff
  blockedUntil : Option Nat
  serverMinimumUntil : Option Nat
  consecutiveFailures : Nat

/-- A success, or a failure with the header of its response, the wall clock at which that is read,
    and the own delay that was drawn. -/
inductive Event where
  | success
  | failure (header : Option String) (wall : Int) (own : Nat)

namespace ControlPlaneGate

/-- A breaker that has seen nothing. -/
def new (base cap : Nat) : ControlPlaneGate where
  backoff := ⟨base, cap, 0⟩
  blockedUntil := none
  serverMinimumUntil := none
  consecutiveFailures := 0

/-- Whether a call may leave the node, and otherwise the remaining wait. -/
def checkAt (gate : ControlPlaneGate) (now : Nat) : Except Nat Unit :=
  match gate.blockedUntil with
  | some until_ => if now < until_ then .error (until_ - now) else .ok ()
  | none => .ok ()

def recordSuccessAt (gate : ControlPlaneGate) (now : Nat) : ControlPlaneGate where
  backoff := gate.backoff.reset
  blockedUntil := gate.serverMinimumUntil.filter (now < ·)
  serverMinimumUntil := gate.serverMinimumUntil
  consecutiveFailures := 0

/-- A wait that is running is never shortened. -/
def recordFailureAt (gate : ControlPlaneGate) (now : Nat) (retryAfter : Option Nat) (own : Nat) :
    ControlPlaneGate :=
  let delay := retryAfter.elim own (max · own)
  let until_ := now + delay
  { backoff := gate.backoff.bump
    blockedUntil := some (gate.blockedUntil.elim until_ (max · until_))
    serverMinimumUntil := match retryAfter with
      | some server => some (gate.serverMinimumUntil.elim (now + server) (max · (now + server)))
      | none => gate.serverMinimumUntil
    consecutiveFailures := min (gate.consecutiveFailures + 1) (2 ^ 32 - 1) }

/-- What the breaker makes of an outcome. -/
def record (rfc2822 : String → Option Int) (gate : ControlPlaneGate) (now : Nat) :
    Event → ControlPlaneGate
  | .success => gate.recordSuccessAt now
  | .failure header wall own =>
    gate.recordFailureAt now (parseRetryAfterAt rfc2822 header wall) own

def Admits (gate : ControlPlaneGate) : Event → Prop
  | .success => True
  | .failure _ _ own => gate.backoff.Draws own

end ControlPlaneGate

/-! ### Runs -/

/-- The gates after any history of events at times that do not decrease, oldest first. -/
inductive Paced (rfc2822 : String → Option Int) (base cap : Nat) :
    List (Nat × Event) → ControlPlaneGate → Prop
  | start : Paced rfc2822 base cap [] (.new base cap)
  | record {history : List (Nat × Event)} {gate : ControlPlaneGate} {now : Nat} {e : Event} :
      Paced rfc2822 base cap history gate → (∀ past ∈ history, past.1 ≤ now) → gate.Admits e →
      Paced rfc2822 base cap (history ++ [(now, e)]) (gate.record rfc2822 now e)

/-- The end of the wait that a server demanded. -/
def deadline (rfc2822 : String → Option Int) : Nat × Event → Option Nat
  | (_, .success) => none
  | (now, .failure header wall _) => (parseRetryAfterAt rfc2822 header wall).map (now + ·)

def deadlines (rfc2822 : String → Option Int) (history : List (Nat × Event)) : List Nat :=
  history.filterMap (deadline rfc2822)

def failureTime : Nat × Event → Option Nat
  | (_, .success) => none
  | (now, .failure ..) => some now

def lastFailure (history : List (Nat × Event)) : Option Nat := (history.filterMap failureTime).getLast?

/-! ### When the gate is closed -/

def ControlPlaneGate.ClosedAt (gate : ControlPlaneGate) (t : Nat) : Prop :=
  gate.checkAt t ≠ .ok ()

theorem closedAt_iff {gate : ControlPlaneGate} {t : Nat} :
    gate.ClosedAt t ↔ ∃ until_, gate.blockedUntil = some until_ ∧ t < until_ := by
  unfold ControlPlaneGate.ClosedAt ControlPlaneGate.checkAt
  cases gate.blockedUntil with
  | none => simp
  | some until_ =>
    by_cases h : t < until_
    · simp [h]
    · simp [h]

section
variable {rfc2822 : String → Option Int} {base cap : Nat} {history : List (Nat × Event)}
  {gate : ControlPlaneGate} {now : Nat}

theorem Backoff.step_le (b : Backoff) : b.step ≤ b.cap := min_le_right _ _

variable {t own : Nat} {wall : Int} {retryAfter : Option Nat}

theorem closedAt_success (hle : now ≤ t) :
    (gate.recordSuccessAt now).ClosedAt t ↔ ∃ m, gate.serverMinimumUntil = some m ∧ t < m := by
  rw [closedAt_iff]
  unfold ControlPlaneGate.recordSuccessAt
  cases gate.serverMinimumUntil with
  | none => simp
  | some m =>
    by_cases hm : now < m
    · simp [Option.filter, hm]
    · simp only [Option.filter, decide_eq_true_eq, hm, if_false, reduceCtorEq, false_and,
        exists_const, Option.some.injEq, exists_eq_left', false_iff]
      omega

theorem deadlines_append (history : List (Nat × Event)) (e : Nat × Event) :
    deadlines rfc2822 (history ++ [e]) = deadlines rfc2822 history ++ (deadline rfc2822 e).toList := by
  unfold deadlines
  rw [List.filterMap_append]
  cases h : deadline rfc2822 e <;> simp [h]

theorem exists_deadline_failure {header : Option String} :
    (∃ d ∈ deadlines rfc2822 (history ++ [(now, .failure header wall own)]), t < d) ↔
      (∃ d ∈ deadlines rfc2822 history, t < d) ∨
        ∃ server, parseRetryAfterAt rfc2822 header wall = some server ∧ t < now + server := by
  rw [deadlines_append]
  simp only [deadline, List.mem_append, Option.mem_toList, Option.map_eq_some_iff, or_and_right,
    exists_or]
  refine or_congr_right ⟨?_, ?_⟩
  · rintro ⟨_, ⟨server, hserver, rfl⟩, hlt⟩
    exact ⟨server, hserver, hlt⟩
  · rintro ⟨server, hserver, hlt⟩
    exact ⟨_, ⟨server, hserver, rfl⟩, hlt⟩

theorem minimum_failure :
    (∃ m, (gate.recordFailureAt now retryAfter own).serverMinimumUntil = some m ∧ t < m) ↔
      (∃ m, gate.serverMinimumUntil = some m ∧ t < m) ∨
        ∃ server, retryAfter = some server ∧ t < now + server := by
  unfold ControlPlaneGate.recordFailureAt
  cases retryAfter with
  | none => simp
  | some server =>
    cases gate.serverMinimumUntil with
    | none => simp
    | some m => simp

theorem closedAt_failure_iff :
    (gate.recordFailureAt now retryAfter own).ClosedAt t ↔
      gate.ClosedAt t ∨ t < now + retryAfter.elim own (max · own) := by
  rw [closedAt_iff, closedAt_iff]
  unfold ControlPlaneGate.recordFailureAt
  cases gate.blockedUntil with
  | none => simp
  | some current => simp

theorem lastFailure_success (history : List (Nat × Event)) :
    lastFailure (history ++ [(now, .success)]) = lastFailure history := by
  simp [lastFailure, failureTime]

theorem lastFailure_failure (history : List (Nat × Event)) (header : Option String) (wall : Int)
    (own : Nat) : lastFailure (history ++ [(now, .failure header wall own)]) = some now := by
  simp [lastFailure, failureTime]

theorem lastFailure_le {f : Nat} (hpast : ∀ past ∈ history, past.1 ≤ now)
    (h : lastFailure history = some f) : f ≤ now := by
  obtain ⟨⟨at_, e⟩, hmem, hf⟩ := List.mem_filterMap.mp (List.mem_of_getLast? h)
  cases e with
  | success => cases hf
  | failure header wall own =>
    cases hf
    exact hpast _ hmem

structure Tracks (rfc2822 : String → Option Int) (cap : Nat) (history : List (Nat × Event))
    (gate : ControlPlaneGate) : Prop where
  backoff : gate.backoff.cap = cap
  /-- the minimum is the latest deadline -/
  minimum : ∀ t, (∃ m, gate.serverMinimumUntil = some m ∧ t < m) ↔
    ∃ d ∈ deadlines rfc2822 history, t < d
  closed : ∀ t, (∀ past ∈ history, past.1 ≤ t) → (∃ d ∈ deadlines rfc2822 history, t < d) →
    gate.ClosedAt t
  /-- deadlines and waits are not long after the last failure -/
  demanded : ∀ d ∈ deadlines rfc2822 history, ∃ f, lastFailure history = some f ∧
    d ≤ f + MAX_RETRY_AFTER
  bounded : ∀ t, gate.ClosedAt t → ∃ f, lastFailure history = some f ∧
    t < f + max MAX_RETRY_AFTER cap

theorem Tracks.start : Tracks rfc2822 cap [] (.new base cap) where
  backoff := rfl
  minimum := by simp [ControlPlaneGate.new, deadlines]
  closed := by simp [deadlines]
  demanded := by simp [deadlines]
  bounded := by simp [closedAt_iff, ControlPlaneGate.new]

theorem Tracks.success (h : Tracks rfc2822 cap history gate) (now : Nat) :
    Tracks rfc2822 cap (history ++ [(now, .success)]) (gate.recordSuccessAt now) := by
  have hdeadlines : deadlines rfc2822 (history ++ [(now, .success)]) = deadlines rfc2822 history := by
    rw [deadlines_append]
    exact List.append_nil _
  refine ⟨h.backoff, ?_, ?_, ?_, ?_⟩
  · rw [hdeadlines]
    exact h.minimum
  · rw [hdeadlines]
    intro t ht hd
    exact (closedAt_success (ht (now, .success) (by simp))).mpr ((h.minimum t).mpr hd)
  · rw [hdeadlines, lastFailure_success]
    exact h.demanded
  · rw [lastFailure_success]
    intro t ht
    -- whatever is left of the wait is a deadline of the server
    have hminimum : ∃ m, gate.serverMinimumUntil = some m ∧ t < m := by
      obtain ⟨until_, huntil, hlt⟩ := closedAt_iff.mp ht
      exact ⟨until_, (Option.filter_eq_some_iff.mp huntil).1, hlt⟩
    obtain ⟨d, hd, hlt⟩ := (h.minimum t).mp hminimum
    obtain ⟨f, hf, hle⟩ := h.demanded d hd
    exact ⟨f, hf, lt_of_lt_of_le hlt (hle.trans (Nat.add_le_add_left (le_max_left _ _) f))⟩

theorem Tracks.failure (h : Tracks rfc2822 cap history gate)
    (hpast : ∀ past ∈ history, past.1 ≤ now) {header : Option String}
    (hown : gate.backoff.Draws own) :
    Tracks rfc2822 cap (history ++ [(now, .failure header wall own)])
      (gate.recordFailureAt now (parseRetryAfterAt rfc2822 header wall) own) := by
  have hownCap : own ≤ cap := h.backoff ▸ hown.2.trans gate.backoff.step_le
  have hserver : ∀ server, parseRetryAfterAt rfc2822 header wall = some server →
      server ≤ MAX_RETRY_AFTER := fun _ => le_of_parseRetryAfterAt rfc2822
  have hlast : lastFailure (history ++ [(now, .failure header wall own)]) = some now :=
    lastFailure_failure history header wall own
  refine ⟨h.backoff, fun t => ?_, fun t ht hd => ?_, fun d hd => ?_, fun t ht => ?_⟩
  · rw [minimum_failure, exists_deadline_failure, h.minimum]
  · refine closedAt_failure_iff.mpr ?_
    rcases exists_deadline_failure.mp hd with hold | ⟨server, hparse, hlt⟩
    · exact .inl (h.closed t (fun past hpast => ht past (List.mem_append_left _ hpast)) hold)
    · rw [hparse]
      exact .inr (lt_of_lt_of_le hlt (Nat.add_le_add_left (le_max_left server own) now))
  · refine ⟨now, hlast, ?_⟩
    rw [deadlines_append] at hd
    rcases List.mem_append.mp hd with hold | hnew
    · obtain ⟨f, hf, hle⟩ := h.demanded d hold
      have := lastFailure_le hpast hf
      omega
    · obtain ⟨server, hparse, rfl⟩ := Option.map_eq_some_iff.mp (Option.mem_toList.mp hnew)
      have := hserver server hparse
      omega
  · refine ⟨now, hlast, ?_⟩
    rcases closedAt_failure_iff.mp ht with hold | hnew
    · obtain ⟨f, hf, hlt⟩ := h.bounded t hold
      have := lastFailure_le hpast hf
      omega
    · refine lt_of_lt_of_le hnew (Nat.add_le_add_left ?_ now)
      cases hparse : parseRetryAfterAt rfc2822 header wall with
      | none => exact hownCap.trans (le_max_right _ _)
      | some server => exact max_le_max (hserver server hparse) hownCap

theorem Paced.tracks (h : Paced rfc2822 base cap history gate) :
    Tracks rfc2822 cap history gate := by
  induction h with
  | start => exact .start
  | @record history gate now e _ hpast hadmits ih =>
    cases e with
    | success => exact ih.success now
    | failure header wall own => exact ih.failure hpast hadmits

/-- **Pacing.**  The gate is closed before every deadline of the server; a failure never opens it
    earlier; a success leaves it closed exactly before a deadline; and it opens within the longest
    wait after the last failure. -/
theorem paced_law (h : Paced rfc2822 base cap history gate) :
    (∀ t, (∀ past ∈ history, past.1 ≤ t) → ∀ d ∈ deadlines rfc2822 history, t < d →
      gate.ClosedAt t) ∧
    (∀ now header wall own t, gate.ClosedAt t →
      (gate.record rfc2822 now (.failure header wall own)).ClosedAt t) ∧
    (∀ now, (∀ past ∈ history, past.1 ≤ now) → ∀ t, now ≤ t →
      ((gate.record rfc2822 now .success).ClosedAt t ↔
        ∃ d ∈ deadlines rfc2822 history, t < d)) ∧
    ∀ t, gate.ClosedAt t → ∃ f, lastFailure history = some f ∧
      t < f + max MAX_RETRY_AFTER cap := by
  have htracks := h.tracks
  refine ⟨fun t ht d hd hlt => htracks.closed t ht ⟨d, hd, hlt⟩, ?_, ?_, htracks.bounded⟩
  · intro now header wall own t ht
    exact closedAt_failure_iff.mpr (.inl ht)
  · intro now _ t hle
    exact (closedAt_success hle).trans (htracks.minimum t)

end

/-- A refusal that demands seven seconds, and a success that was in flight. -/
theorem paced_law_sample : ∃ gate,
    Paced (fun _ => none) (2 * SECOND) (300 * SECOND)
      [(0, .failure (some "7") 0 SECOND), (SECOND, .success)] gate ∧
    gate.ClosedAt (6 * SECOND) := by
  have hfailure : Paced (fun _ => none) (2 * SECOND) (300 * SECOND)
      [(0, .failure (some "7") 0 SECOND)] _ := .record .start (by simp) ⟨by decide, by decide⟩
  have hboth : Paced (fun _ => none) (2 * SECOND) (300 * SECOND)
      ([(0, .failure (some "7") 0 SECOND)] ++ [(SECOND, .success)]) _ :=
    .record hfailure (by simp) trivial
  exact ⟨_, hboth, (paced_law hboth).1 (6 * SECOND) (by decide) (7 * SECOND) (by decide +kernel)
    (by decide)⟩

end SingboxVpn.Pacing
