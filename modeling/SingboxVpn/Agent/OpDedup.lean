import SingboxVpn.Agent.Jobs
import SingboxVpn.Lib.Keyed
import SingboxVpn.Lib.Owned

namespace SingboxVpn.OpDedup

open Jobs

/-!
# The log of applied jobs on disk

`apps/provisioning-agent/src/op_dedup.rs`: the log is a file that each call reads and writes as a
whole.  `record` reads the clock twice, once for the new entry and once to prune, and nothing is
assumed of the clock.

* `Law` — what `record` is for; `law_iff` says when a call keeps it.
-/

inductive Content where
  | missing
  | empty
  | malformed
  | entries (log : List DedupEntry)
deriving DecidableEq

/-- How a write ends; the messages of its failures are left open. -/
inductive Write where
  | done
  | notInstalled (message : String)
  | notSynced (message : String)
deriving DecidableEq

/-- A call of `record`, with the two readings of the clock and what the file system answers. -/
structure Call where
  jobId : Int
  outcome : ReportQueue.Outcome
  recordedAt : Nat
  prunedAt : Nat
  readable : Bool
  write : Write

section
variable (path : String)

/-- The log in a file; a missing or empty one is no error. -/
def load (readable : Bool) (file : Content) : Except String (List DedupEntry) :=
  match readable, file with
  | true, .missing => .ok []
  | true, .empty => .ok []
  | true, .malformed => .error ("parsing op dedup log " ++ Text.debug path)
  | true, .entries log => .ok log
  | false, _ => .error ("reading op dedup log " ++ Text.debug path)

/-- The outcome of a job that the file records. -/
def lookup (readable : Bool) (file : Content) (jobId : Int) :
    Except String (Option ReportQueue.Outcome) := do
  return Jobs.lookup (← load path readable file) jobId

/-- Replace the file, and sync its directory. -/
def save (file : Content) (log : List DedupEntry) : Write → Except String Unit × Content
  | .done => (.ok (), .entries log)
  | .notInstalled message => (.error message, file)
  -- the new file is in place, but its directory could not be synced
  | .notSynced message => (.error message, .entries log)

/-- Load, add the outcome, prune, and save. -/
def record (file : Content) (call : Call) : Except String Unit × Content :=
  match load path call.readable file with
  | .error message => (.error message, file)
  | .ok log =>
      let log := withEntry log call.jobId call.outcome call.recordedAt
      save file (prune call.prunedAt log) call.write

/-- The file after some calls. -/
def run (file : Content) (calls : List Call) : Content :=
  calls.foldl (fun file call => (record path file call).2) file

end

/-! ### One list -/

section Prune
variable {log : List DedupEntry} {call : Call} {e : DedupEntry} {now : Nat}

def written (log : List DedupEntry) (call : Call) : List DedupEntry :=
  prune call.prunedAt (withEntry log call.jobId call.outcome call.recordedAt)

/-- The entry that a call adds. -/
def Call.entry (call : Call) : DedupEntry := ⟨call.jobId, call.outcome, call.recordedAt⟩

/-- The entries of other jobs that are recent enough to stay. -/
def others (log : List DedupEntry) (call : Call) : List DedupEntry :=
  log.filter fun e => e.jobId ≠ call.jobId ∧ call.prunedAt - RETENTION_SECS ≤ e.recordedAtUnix

theorem mem_of_mem_prune (h : e ∈ prune now log) :
    e ∈ log ∧ now - RETENTION_SECS ≤ e.recordedAtUnix := by
  have hkept : e ∈ log.filter fun e => now - RETENTION_SECS ≤ e.recordedAtUnix := by
    unfold prune at h
    dsimp only at h
    split at h
    · exact (List.mem_insertionSort _).mp (List.mem_of_mem_drop h)
    · exact h
  simpa using hkept

theorem length_prune_le : (prune now log).length ≤ MAX_ENTRIES := by
  unfold prune
  dsimp only
  split
  · rw [List.length_drop, List.length_insertionSort]
    omega
  · next h => exact Nat.not_lt.mp h

theorem nodup_prune (h : (log.map DedupEntry.jobId).Nodup) :
    ((prune now log).map DedupEntry.jobId).Nodup := by
  unfold prune
  dsimp only
  have hkept := h.sublist ((List.filter_sublist (p := fun e : DedupEntry =>
    decide (now - RETENTION_SECS ≤ e.recordedAtUnix))).map DedupEntry.jobId)
  split
  · refine .sublist ((List.drop_sublist _ _).map _) ?_
    exact ((List.perm_insertionSort _ _).map _).nodup_iff.mpr hkept
  · exact hkept

theorem mem_withEntry {jobId : Int} {outcome : ReportQueue.Outcome} :
    e ∈ withEntry log jobId outcome now ↔
      (e ∈ log ∧ e.jobId ≠ jobId) ∨ e = ⟨jobId, outcome, now⟩ := by
  simp [withEntry]

theorem nodup_written (h : (log.map DedupEntry.jobId).Nodup) :
    ((written log call).map DedupEntry.jobId).Nodup := by
  refine nodup_prune ?_
  rw [withEntry, List.map_append]
  refine (h.sublist (List.filter_sublist.map _)).append (List.nodup_singleton _) ?_
  intro id hid hlast
  obtain ⟨e, he, rfl⟩ := List.mem_map.mp hid
  rw [List.map_singleton, List.mem_singleton] at hlast
  simp [hlast] at he

theorem filter_withEntry (hrecent : call.prunedAt - RETENTION_SECS ≤ call.recordedAt) :
    (withEntry log call.jobId call.outcome call.recordedAt).filter
        (fun e => call.prunedAt - RETENTION_SECS ≤ e.recordedAtUnix) =
      others log call ++ [call.entry] := by
  rw [withEntry, List.filter_append, List.filter_filter, List.filter_singleton,
    decide_eq_true hrecent, cond_true]
  refine congrArg (· ++ [call.entry]) (List.filter_congr fun e _ => ?_)
  rw [Bool.eq_iff_iff]
  simp [and_comm]

theorem countP_others (hrecent : call.prunedAt - RETENTION_SECS ≤ call.recordedAt) :
    (others log call).countP (fun e => call.recordedAt < e.recordedAtUnix) =
      log.countP (fun e => e.jobId ≠ call.jobId ∧ call.recordedAt < e.recordedAtUnix) := by
  rw [others, List.countP_filter]
  refine List.countP_congr fun e _ => ?_
  simp only [Bool.and_eq_true, decide_eq_true_eq]
  omega

/-- The new entry stays if it is not too old by the second reading of the clock, and if there are
not enough entries from its future to fill the log. -/
theorem entry_mem_written :
    call.entry ∈ written log call ↔
      call.prunedAt ≤ call.recordedAt + RETENTION_SECS ∧
        log.countP (fun e => e.jobId ≠ call.jobId ∧ call.recordedAt < e.recordedAtUnix) <
          MAX_ENTRIES := by
  by_cases hrecent : call.prunedAt - RETENTION_SECS ≤ call.recordedAt
  · have hfresh : call.entry ∉ others log call := by simp [others, Call.entry]
    have hsplit := List.length_eq_countP_add_countP
      (fun e : DedupEntry => decide (e.recordedAtUnix ≤ call.recordedAt)) (l := others log call)
    simp only [decide_eq_true_eq, not_le] at hsplit
    rw [countP_others hrecent] at hsplit
    rw [and_iff_right (Nat.sub_le_iff_le_add.mp hrecent), written, prune]
    rw [filter_withEntry hrecent, List.length_append, List.length_singleton]
    split
    · next hfull =>
      rw [Keyed.mem_drop_insertionSort hfresh]
      show _ ≤ List.countP (fun e : DedupEntry => decide (e.recordedAtUnix ≤ call.recordedAt)) _ ↔ _
      omega
    · next hroom =>
      refine iff_of_true (List.mem_append_right _ (List.mem_singleton_self _)) ?_
      omega
  · refine iff_of_false (fun h => hrecent (mem_of_mem_prune h).2) fun h => ?_
    exact hrecent (Nat.sub_le_iff_le_add.mpr h.1)

theorem lookup_written (h : (log.map DedupEntry.jobId).Nodup) :
    Jobs.lookup (written log call) call.jobId = some call.outcome ↔
      call.entry ∈ written log call := by
  unfold Jobs.lookup
  constructor
  · intro hfound
    obtain ⟨e, hfind, houtcome⟩ := Option.map_eq_some_iff.mp hfound
    have hmem := List.mem_of_find?_eq_some hfind
    have hid : e.jobId = call.jobId := by simpa using List.find?_some hfind
    rcases mem_withEntry.mp (mem_of_mem_prune hmem).1 with ⟨-, hne⟩ | rfl
    · exact absurd hid hne
    · exact hmem
  · intro hmem
    have hfind := Owned.find?_key (nodup_written h) hmem
    exact Option.map_eq_some_iff.mpr ⟨call.entry, hfind, rfl⟩

end Prune

/-! ### Calls -/

def Content.log : Content → List DedupEntry
  | .entries log => log
  | _ => []

def Content.UniqueIds (file : Content) : Prop := (file.log.map DedupEntry.jobId).Nodup

structure Law (path : String) (file : Content) (call : Call) : Prop where
  found : (record path file call).1 = .ok () →
    lookup path true (record path file call).2 call.jobId = .ok (some call.outcome)
  unique : (record path file call).2.UniqueIds
  bounded : (record path file call).1 = .ok () →
    (record path file call).2.log.length ≤ MAX_ENTRIES
  kept : ∀ e ∈ (record path file call).2.log, e.jobId ≠ call.jobId → e ∈ file.log

/-- The log has room for the new entry: if the call goes through, the clock does not run away
between its two readings, and the entries of other jobs that are newer do not fill the log. -/
def Roomy (path : String) (file : Content) (call : Call) : Prop :=
  ∀ log, load path call.readable file = .ok log → call.write = .done →
    call.prunedAt ≤ call.recordedAt + RETENTION_SECS ∧
      log.countP (fun e => e.jobId ≠ call.jobId ∧ call.recordedAt < e.recordedAtUnix) < MAX_ENTRIES

section
variable {path : String} {file : Content} {call : Call} {log : List DedupEntry}

theorem log_of_load {readable : Bool} (h : load path readable file = .ok log) : file.log = log := by
  cases readable <;> cases file <;> cases h <;> rfl

/-- A call fails and leaves the file alone, or puts the new list in place. -/
theorem record_cases (path : String) (file : Content) (call : Call) :
    ((record path file call).1 ≠ .ok () ∧ (record path file call).2 = file ∧
      ∀ log, load path call.readable file = .ok log → call.write ≠ .done) ∨
    ∃ log, load path call.readable file = .ok log ∧
      (record path file call).2 = .entries (written log call) ∧
      ((record path file call).1 = .ok () ↔ call.write = .done) := by
  unfold record
  cases hload : load path call.readable file with
  | error message => exact .inl ⟨by simp, rfl, by simp⟩
  | ok log =>
    cases hwrite : call.write with
    | done => exact .inr ⟨log, rfl, rfl, by simp [save]⟩
    | notInstalled message => exact .inl ⟨by simp [save], rfl, by simp⟩
    | notSynced message => exact .inr ⟨log, rfl, rfl, by simp [save]⟩

theorem uniqueIds_record (h : file.UniqueIds) : (record path file call).2.UniqueIds := by
  rcases record_cases path file call with ⟨-, hfile, -⟩ | ⟨log, hload, hfile, -⟩
  · rwa [hfile]
  · rw [hfile]
    exact nodup_written (log_of_load hload ▸ h)

theorem uniqueIds_run (h : file.UniqueIds) (calls : List Call) :
    (run path file calls).UniqueIds := by
  induction calls generalizing file with
  | nil => exact h
  | cons call calls ih => exact ih (uniqueIds_record h)

theorem lookup_entries_written (h : (log.map DedupEntry.jobId).Nodup) :
    lookup path true (.entries (written log call)) call.jobId = .ok (some call.outcome) ↔
      call.entry ∈ written log call := by
  rw [← lookup_written h]
  exact iff_of_eq (Except.ok.injEq _ _)

theorem law_of_unique (h : file.UniqueIds) : Law path file call ↔ Roomy path file call := by
  rcases record_cases path file call with ⟨herror, hfile, hwrite⟩ | ⟨log, hload, hfile, hok⟩
  · refine iff_of_true
      ⟨fun hok => absurd hok herror, uniqueIds_record h, fun hok => absurd hok herror, ?_⟩
      fun log hload hdone => absurd hdone (hwrite log hload)
    intro e he _
    rwa [hfile] at he
  · have hlog := log_of_load hload
    have hunique : (log.map DedupEntry.jobId).Nodup := hlog ▸ h
    constructor
    · intro hlaw log' hload' hdone
      cases hload.symm.trans hload'
      have hfound := hlaw.found (hok.mpr hdone)
      rw [hfile] at hfound
      exact entry_mem_written.mp ((lookup_entries_written hunique).mp hfound)
    · intro hroomy
      refine ⟨fun hdone => ?_, uniqueIds_record h, fun _ => ?_, fun e he hne => ?_⟩
      · rw [hfile]
        exact (lookup_entries_written hunique).mpr
          (entry_mem_written.mpr (hroomy log hload (hok.mp hdone)))
      · rw [hfile]
        exact length_prune_le
      · rw [hfile] at he
        rcases mem_withEntry.mp (mem_of_mem_prune he).1 with ⟨hmem, -⟩ | rfl
        · rwa [hlog]
        · exact absurd rfl hne

end

/-- After any calls on a log with distinct jobs, the next call keeps the law exactly if there is
room for its entry. -/
theorem law_iff (path : String) (file : Content) (hunique : file.UniqueIds) (calls : List Call)
    (call : Call) :
    Law path (run path file calls) call ↔ Roomy path (run path file calls) call :=
  law_of_unique (uniqueIds_run hunique calls)

def sampleCall : Call := ⟨0, .fail "no such user", 5, 5, true, .done⟩

/-- A log of another job, to which a third job is added. -/
theorem law_iff_sampleCall :
    Law "/var/lib/dedup.json" (run "/var/lib/dedup.json" (.entries [⟨1, .fail "no such user", 3⟩])
      [sampleCall, { sampleCall with jobId := 2 }]) sampleCall := by
  refine (law_iff _ (.entries [⟨1, .fail "no such user", 3⟩]) (List.nodup_singleton _) _ _).mpr
    fun log hload _ => ?_
  rw [← log_of_load hload]
  decide +kernel

/-- A full log of which every entry was made at time 10. -/
def futureEntries : List DedupEntry :=
  (List.range MAX_ENTRIES).map fun n : Nat => ⟨(n : Int) + 1, .fail "no such user", 10⟩

theorem nodup_futureEntries : (futureEntries.map DedupEntry.jobId).Nodup := by
  unfold futureEntries
  generalize MAX_ENTRIES = bound
  rw [List.map_map]
  refine List.nodup_range.map fun m n h => ?_
  simpa using h

theorem countP_futureEntries :
    futureEntries.countP (fun e => e.jobId ≠ sampleCall.jobId ∧
      sampleCall.recordedAt < e.recordedAtUnix) = MAX_ENTRIES := by
  unfold futureEntries
  generalize MAX_ENTRIES = bound
  rw [List.countP_eq_length.mpr]
  · simp
  · intro e he
    obtain ⟨n, -, rfl⟩ := List.mem_map.mp he
    have hid : (n : Int) + 1 ≠ 0 := by omega
    simpa [sampleCall] using hid

/-- The clock is set back and the log is full: the new entry is the oldest, and goes.  The same
happens if the clock is set forward by more than a day between its two readings. -/
theorem law_futureEntries_fails :
    (Content.entries futureEntries).UniqueIds ∧
    (record "/var/lib/dedup.json" (.entries futureEntries) sampleCall).1 = .ok () ∧
    lookup "/var/lib/dedup.json" true
      (record "/var/lib/dedup.json" (.entries futureEntries) sampleCall).2 0 ≠
        .ok (some (.fail "no such user")) ∧
    ∃ call, (record "/var/lib/dedup.json" .missing call).1 = .ok () ∧
      lookup "/var/lib/dedup.json" true (record "/var/lib/dedup.json" .missing call).2 call.jobId =
        .ok none := by
  have hunique := nodup_futureEntries
  have hcount := countP_futureEntries
  generalize futureEntries = log at hunique hcount ⊢
  refine ⟨hunique, rfl, fun hfound => ?_,
    { sampleCall with prunedAt := 5 + RETENTION_SECS + 1 }, rfl, by decide +kernel⟩
  have hmem : sampleCall.entry ∈ written log sampleCall :=
    (lookup_entries_written hunique).mp hfound
  exact absurd hcount (entry_mem_written.mp hmem).2.ne

end SingboxVpn.OpDedup
