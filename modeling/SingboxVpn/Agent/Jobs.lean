import SingboxVpn.Model
import SingboxVpn.Agent.ReportQueue
import Mathlib.Data.List.Sort

namespace SingboxVpn.Jobs

/-!
# Applying jobs

The agent claims jobs from the control plane and applies each by running `vpn-admin`.  A job may
be delivered again, with a new claim; a log of the jobs that have succeeded keeps it from being
applied again.  A `vpn-admin` process may commit its change and still end badly.
-/

/-! ### Jobs -/

/-- A job as the control plane hands it out. -/
structure Job where
  id : Int
  jobType : String
  payload : Json
  claimToken : String
  leaseExpiresAt : String
deriving DecidableEq

/-- The claim's lease has not run out. -/
def leaseIsLive (rfc3339 : Rfc3339) (job : Job) (now : Int) : Except String Bool :=
  match rfc3339 job.leaseExpiresAt with
  | some deadline => .ok (now < deadline)
  | none => .error "claim lease_expires_at is not RFC3339"

/-- A text field of a job's payload. -/
def payloadStr (job : Job) (key : String) : Except String String :=
  match (job.payload.get? key).bind Json.asStr with
  | some s => .ok s
  | none => .error ("job " ++ toString job.id ++ " payload missing string field " ++ Text.debug key)

/-- A number field of a job's payload. -/
def payloadU64 (job : Job) (key : String) : Except String Nat :=
  match (job.payload.get? key).bind Json.asU64 with
  | some n => .ok n
  | none => .error ("job " ++ toString job.id ++ " payload missing non-negative integer field " ++
      Text.debug key)

/-- The expiry in a job's payload, which may be missing or null. -/
def payloadOptionalExpiresAtUnix (rfc3339 : Rfc3339) (job : Job) : Except String (Option Int) :=
  match job.payload.get? "expires_at" with
  | none => .ok none
  | some .null => .ok none
  | some (.str raw) =>
      match rfc3339 raw with
      | some t => .ok (some (unixTimestamp t))
      | none => .error ("parsing expires_at " ++ Text.debug raw ++ " as RFC3339 (job " ++
          toString job.id ++ ")")
  | some _ => .error ("job " ++ toString job.id ++ " payload field \"expires_at\" is not a string")

/-- The expiry in a job's payload, which has to be there. -/
def payloadExpiresAtUnix (rfc3339 : Rfc3339) (job : Job) : Except String Int := do
  match ← payloadOptionalExpiresAtUnix rfc3339 job with
  | some t => .ok t
  | none => .error ("job " ++ toString job.id ++ " payload missing string field \"expires_at\"")

/-! ### One process -/

/-- What a process that has ended leaves: its standard output is `none` if it is no JSON. -/
structure Output where
  success : Bool
  status : String
  stdout : Option Json
  stdoutLen : Nat
  stderrLen : Nat
deriving DecidableEq

/-- How a `vpn-admin` process ends, and whether it has committed its change by then. -/
inductive Child where
  | notSpawned
  | waitFailed (committed : Bool)
  | timedOut (committed : Bool)
  | exited (output : Output) (committed : Bool)
deriving DecidableEq

def Child.committed : Child → Bool
  | .notSpawned => false
  | .waitFailed committed | .timedOut committed | .exited _ committed => committed

/-- A process that runs into the time limit is killed. -/
def runVpnAdmin (context : String) : Child → Except String Output
  | .notSpawned => .error ("spawning " ++ context)
  | .waitFailed _ => .error ("waiting for " ++ context)
  | .timedOut _ => .error (context ++ " timed out after 60s and was terminated")
  | .exited output _ => .ok output

/-- A child that failed is an error; its output is not shown. -/
def requireSuccess (output : Output) (what : String) : Except String Unit :=
  Check.refuseIf (!output.success)
    ("vpn-admin " ++ what ++ " exited with " ++ output.status ++ " (" ++
      toString output.stderrLen ++ " bytes of stderr)")

/-- The JSON document that a child printed. -/
def parseJsonOutput (output : Output) (what : String) : Except String Json := do
  requireSuccess output what
  match output.stdout with
  | some parsed => .ok parsed
  | none => .error ("parsing vpn-admin " ++ what ++ " --json output (" ++
      toString output.stdoutLen ++ " bytes): does not look like valid JSON")

def outputStr (parsed : Json) (what key : String) : Except String Json :=
  match (parsed.get? key).bind Json.asStr with
  | some s => .ok (.str s)
  | none => .error (what ++ " --json output missing " ++ key)

/-! ### The commands -/

structure Command where
  args : List String
  context : String
  finish : Output → Except String Json

def plainCommand (args : List String) (what : String) (result : Json) : Command where
  args := args
  context := "vpn-admin " ++ what
  finish output := do
    requireSuccess output what
    .ok result

/-- Create an account. -/
def createUser (rfc3339 : Rfc3339) (job : Job) : Except String Command := do
  let userId ← payloadStr job "user_id"
  let expiresAt ← payloadOptionalExpiresAtUnix rfc3339 job
  .ok {
    args := ["user", "create", "--name", userId] ++
      -- a grant without an end has no such argument
      (expiresAt.map fun t => ["--expires-at", toString t]).getD [] ++ ["--json"]
    context := "vpn-admin user create"
    finish := fun output => do
      let parsed ← parseJsonOutput output "user create"
      let vpnUserId ← outputStr parsed "user create" "id"
      let subscriptionUrl ← outputStr parsed "user create" "subscription_url"
      let provisioningUrl ← outputStr parsed "user create" "provisioning_url"
      .ok (.object [("vpn_user_id", vpnUserId), ("subscription_url", subscriptionUrl),
        ("provisioning_url", provisioningUrl)]) }

/-- Set the expiry of an account. -/
def setExpiry (rfc3339 : Rfc3339) (job : Job) : Except String Command := do
  let vpnUserId ← payloadStr job "vpn_user_id"
  let expiresAt ← payloadExpiresAtUnix rfc3339 job
  .ok (plainCommand ["user", "set-expiry", vpnUserId, "--expires-at", toString expiresAt]
    "user set-expiry" (.object []))

def accountCommand (job : Job) (subcommand : String) : Except String Command := do
  let vpnUserId ← payloadStr job "vpn_user_id"
  .ok (plainCommand ["user", subcommand, vpnUserId] ("user " ++ subcommand) (.object []))

/-- Remove the expiry of an account. -/
def clearExpiry (job : Job) : Except String Command := accountCommand job "clear-expiry"

/-- Rotate the credentials of an account. -/
def rotateCredentials (job : Job) : Except String Command := accountCommand job "rotate-credentials"

/-- Enable or disable an account. -/
def enableOrDisable (job : Job) (subcommand : String) : Except String Command :=
  accountCommand job subcommand

/-- Rotate the subscription token of an account. -/
def rotateToken (job : Job) : Except String Command := do
  let vpnUserId ← payloadStr job "vpn_user_id"
  .ok {
    args := ["user", "rotate-token", vpnUserId, "--json"]
    context := "vpn-admin user rotate-token"
    finish := fun output => do
      let parsed ← parseJsonOutput output "user rotate-token"
      let subscriptionUrl ← outputStr parsed "user rotate-token" "subscription_url"
      let provisioningUrl ← outputStr parsed "user rotate-token" "provisioning_url"
      .ok (.object [("subscription_url", subscriptionUrl),
        ("provisioning_url", provisioningUrl)]) }

/-- What an attempt meets: whether the revision document could be fetched, where it was put (or
    why not), and the end of the process. -/
structure Attempt where
  fetched : Bool
  inputFile : Except String String
  child : Child

/-- Fetch a revision's document and hand it to `vpn-admin`. -/
def applyNodeRevision (job : Job) (attempt : Attempt) : Except String Command := do
  let revision ← payloadU64 job "revision"
  Check.refuseIf (!attempt.fetched)
    ("fetching revision " ++ toString revision ++ " config (job " ++ toString job.id ++ ")")
  let inputPath ← attempt.inputFile
  .ok (plainCommand ["apply-revision", "--revision", toString revision, "--input", inputPath]
    "apply-revision" (.object [("revision", .num revision)]))

def command (rfc3339 : Rfc3339) (job : Job) (attempt : Attempt) : Except String Command :=
  match job.jobType with
  | "CREATE_USER" => createUser rfc3339 job
  | "SET_EXPIRY" => setExpiry rfc3339 job
  | "CLEAR_EXPIRY" => clearExpiry job
  | "ENABLE_USER" => enableOrDisable job "enable"
  | "DISABLE_USER" => enableOrDisable job "disable"
  | "ROTATE_SUBSCRIPTION_TOKEN" => rotateToken job
  | "ROTATE_CREDENTIALS" => rotateCredentials job
  | "APPLY_NODE_REVISION" => applyNodeRevision job attempt
  | other => .error ("unknown job_type " ++ Text.debug other ++ " (job " ++ toString job.id ++ ")")

/-! ### Running a job -/

structure Invocation where
  jobId : Int
  jobType : String
  args : List String
  committed : Bool
deriving DecidableEq

/-- Nothing is started for a job whose payload is not in order. -/
def runJobOnce (rfc3339 : Rfc3339) (job : Job) (attempt : Attempt) :
    Except String Json × List Invocation :=
  match command rfc3339 job attempt with
  | .error e => (.error e, [])
  | .ok cmd =>
      (do cmd.finish (← runVpnAdmin cmd.context attempt.child),
        [⟨job.id, job.jobType, cmd.args, attempt.child.committed⟩])

/-- How often a job is tried. -/
def MAX_ATTEMPTS : Nat := 3

def retry (rfc3339 : Rfc3339) (job : Job) (attempts : Nat → Attempt) :
    Nat → Nat → Except String Json × List Invocation
  | _, 0 => (.error "job failed with no recorded error", [])
  | n, left + 1 =>
      match runJobOnce rfc3339 job (attempts n) with
      | (.ok result, started) => (.ok result, started)
      | (.error e, started) =>
          if left = 0 then (.error e, started)
          else
            let (result, more) := retry rfc3339 job attempts (n + 1) left
            (result, started ++ more)

/-- Run the subcommand of a job, again after a transient failure. -/
def runJob (rfc3339 : Rfc3339) (job : Job) (attempts : Nat → Attempt) :
    Except String Json × List Invocation :=
  retry rfc3339 job attempts 1 MAX_ATTEMPTS

/-! ### The log of applied jobs -/

/-- The largest number of entries that is kept. -/
def MAX_ENTRIES : Nat := 4096

/-- How long an outcome is kept, in seconds. -/
def RETENTION_SECS : Nat := 24 * 60 * 60

structure DedupEntry where
  jobId : Int
  outcome : ReportQueue.Outcome
  recordedAtUnix : Nat
deriving DecidableEq

/-- The recorded outcome of a job. -/
def lookup (log : List DedupEntry) (jobId : Int) : Option ReportQueue.Outcome :=
  (log.find? (·.jobId == jobId)).map DedupEntry.outcome

/-- Old entries go, then the oldest ones above the bound. -/
def prune (now : Nat) (log : List DedupEntry) : List DedupEntry :=
  let kept := log.filter fun e => now - RETENTION_SECS ≤ e.recordedAtUnix
  if MAX_ENTRIES < kept.length then
    (kept.insertionSort fun a b => a.recordedAtUnix ≤ b.recordedAtUnix).drop
      (kept.length - MAX_ENTRIES)
  else kept

def withEntry (log : List DedupEntry) (jobId : Int) (outcome : ReportQueue.Outcome) (now : Nat) :
    List DedupEntry :=
  log.filter (·.jobId != jobId) ++ [⟨jobId, outcome, now⟩]

/-- The log with an outcome in place of an older one of the same job. -/
def record (log : List DedupEntry) (jobId : Int) (outcome : ReportQueue.Outcome) (now : Nat) :
    List DedupEntry :=
  prune now (withEntry log jobId outcome now)

/-! ### Deliveries -/

structure Delivery where
  job : Job
  claimedAt : Int
  attempts : Nat → Attempt
  recordedAt : Nat
  finishedAt : Int

/-- The log on disk, and what has been done: the reports enqueued, the processes started, and the
    jobs that `run_job` has returned a result for. -/
structure State where
  dedup : List DedupEntry
  reports : List ReportQueue.Entry
  invocations : List Invocation
  finished : List (Int × Json)

def completeJob (rfc3339 : Rfc3339) (s : State) (d : Delivery) (result : Json) : State :=
  let s := { s with
    dedup := record s.dedup d.job.id (.complete result) d.recordedAt
    finished := s.finished ++ [(d.job.id, result)] }
  match leaseIsLive rfc3339 d.job d.finishedAt with
  | .ok true => { s with
      reports := s.reports ++ [ReportQueue.completeEntry d.job.id d.job.claimToken
        d.job.leaseExpiresAt result] }
  | _ => s

/-- A job that was completed is not run again; one that failed is. -/
def applyJob (rfc3339 : Rfc3339) (s : State) (d : Delivery) : State :=
  match lookup s.dedup d.job.id with
  | some (.complete result) => { s with
      reports := s.reports ++ [ReportQueue.completeEntry d.job.id d.job.claimToken
        d.job.leaseExpiresAt result] }
  -- a recorded failure does not keep the job from being tried again
  | _ =>
      let (result, started) := runJob rfc3339 d.job d.attempts
      let s := { s with invocations := s.invocations ++ started }
      match result with
      | .ok result => completeJob rfc3339 s d result
      | .error message => { s with
          reports := s.reports ++ [ReportQueue.failEntry d.job.id d.job.claimToken
            d.job.leaseExpiresAt message] }

/-- Claim a job and apply it if its lease is live. -/
def pollOnce (rfc3339 : Rfc3339) (s : State) (d : Delivery) : State :=
  match leaseIsLive rfc3339 d.job d.claimedAt with
  | .ok true => applyJob rfc3339 s d
  | _ => s

inductive Event where
  | deliver (d : Delivery)
  -- everything is on disk
  | restart

def step (rfc3339 : Rfc3339) (s : State) : Event → State
  | .deliver d => pollOnce rfc3339 s d
  | .restart => s

/-! ### What a run of a job starts -/

def isMutation (jobType : String) : Bool :=
  ["CREATE_USER", "ROTATE_CREDENTIALS", "ROTATE_SUBSCRIPTION_TOKEN"].contains jobType

def Invocation.mutates (i : Invocation) (jobId : Int) : Bool :=
  i.jobId == jobId && isMutation i.jobType && i.committed

/-- A process that commits also ends with success, and its output passes the command's check. -/
def EndsWell (rfc3339 : Rfc3339) (job : Job) (attempt : Attempt) : Prop :=
  ∀ cmd, command rfc3339 job attempt = .ok cmd → attempt.child.committed = true →
    ∃ output result, attempt.child = .exited output true ∧ cmd.finish output = .ok result

section RunJob

variable {rfc3339 : Rfc3339} {job : Job} {attempts : Nat → Attempt}

theorem runJobOnce_started (rfc3339 : Rfc3339) (job : Job) (attempt : Attempt) :
    ∀ i ∈ (runJobOnce rfc3339 job attempt).2, i.jobId = job.id ∧ i.jobType = job.jobType := by
  intro i hi
  unfold runJobOnce at hi
  split at hi
  · cases hi
  · rw [List.mem_singleton.mp hi]
    exact ⟨rfl, rfl⟩

theorem runJobOnce_commits {attempt : Attempt} (hends : EndsWell rfc3339 job attempt) :
    (runJobOnce rfc3339 job attempt).2.countP (·.mutates job.id) ≤ 1 ∧
      (∀ e, (runJobOnce rfc3339 job attempt).1 = .error e →
        (runJobOnce rfc3339 job attempt).2.countP (·.mutates job.id) = 0) := by
  unfold runJobOnce
  cases hcmd : command rfc3339 job attempt with
  | error e => exact ⟨Nat.zero_le 1, fun _ _ => rfl⟩
  | ok cmd =>
    refine ⟨List.countP_le_length, fun e he => ?_⟩
    rw [List.countP_eq_zero]
    intro i hi hmutates
    rw [List.mem_singleton.mp hi] at hmutates
    obtain ⟨output, result, hchild, hfinish⟩ :=
      hends cmd hcmd (Bool.and_eq_true_iff.mp hmutates).2
    dsimp only at he
    rw [hchild] at he
    change cmd.finish output = .error e at he
    rw [hfinish] at he
    cases he

theorem retry_started (rfc3339 : Rfc3339) (job : Job) (attempts : Nat → Attempt) (n left : Nat) :
    ∀ i ∈ (retry rfc3339 job attempts n left).2, i.jobId = job.id ∧ i.jobType = job.jobType := by
  induction left generalizing n with
  | zero => exact fun i hi => absurd hi List.not_mem_nil
  | succ left ih =>
    have honce := runJobOnce_started rfc3339 job (attempts n)
    unfold retry
    split
    · next heq =>
      rw [heq] at honce
      exact honce
    · next heq =>
      rw [heq] at honce
      split
      · exact honce
      · intro i hi
        rcases List.mem_append.mp hi with hi | hi
        · exact honce i hi
        · exact ih (n + 1) i hi

theorem retry_commits (hends : ∀ n, EndsWell rfc3339 job (attempts n)) (n left : Nat) :
    (retry rfc3339 job attempts n left).2.countP (·.mutates job.id) ≤ 1 ∧
      (∀ e, (retry rfc3339 job attempts n left).1 = .error e →
        (retry rfc3339 job attempts n left).2.countP (·.mutates job.id) = 0) := by
  induction left generalizing n with
  | zero => exact ⟨Nat.zero_le 1, fun _ _ => rfl⟩
  | succ left ih =>
    have honce := runJobOnce_commits (hends n)
    unfold retry
    split
    · next heq =>
      rw [heq] at honce
      exact honce
    · next e started heq =>
      rw [heq] at honce
      have hnone : started.countP (·.mutates job.id) = 0 := honce.2 e rfl
      split
      · exact honce
      · dsimp only
        rw [List.countP_append, hnone, Nat.zero_add]
        exact ih (n + 1)

end RunJob

/-! ### What a delivery does -/

section Deliver

variable {rfc3339 : Rfc3339} {s s' : State} {d : Delivery}

def NothingPruned (s : State) : Event → Prop
  | .deliver d => ∀ outcome, record s.dedup d.job.id outcome d.recordedAt =
      withEntry s.dedup d.job.id outcome d.recordedAt
  | .restart => True

theorem nothingPruned_of_recent (hlength : s.dedup.length < MAX_ENTRIES)
    (hrecent : ∀ e ∈ s.dedup, d.recordedAt - RETENTION_SECS ≤ e.recordedAtUnix) :
    NothingPruned s (.deliver d) := by
  intro outcome
  have hkept : (withEntry s.dedup d.job.id outcome d.recordedAt).filter
      (fun e => d.recordedAt - RETENTION_SECS ≤ e.recordedAtUnix) =
        withEntry s.dedup d.job.id outcome d.recordedAt := by
    refine List.filter_eq_self.mpr fun e he => decide_eq_true ?_
    rcases List.mem_append.mp he with he | he
    · exact hrecent e (List.mem_filter.mp he).1
    · rw [List.mem_singleton.mp he]
      exact Nat.sub_le _ _
  have hshort : (withEntry s.dedup d.job.id outcome d.recordedAt).length ≤ MAX_ENTRIES := by
    have hfilter := List.length_filter_le (·.jobId != d.job.id) s.dedup
    rw [withEntry, List.length_append, List.length_singleton]
    omega
  unfold record prune
  rw [hkept, if_neg (Nat.not_lt.mpr hshort)]

theorem lookup_withEntry (log : List DedupEntry) (jobId : Int) (outcome : ReportQueue.Outcome)
    (now : Nat) (id : Int) :
    lookup (withEntry log jobId outcome now) id =
      if id = jobId then some outcome else lookup log id := by
  unfold lookup withEntry
  rw [List.find?_append, List.find?_filter]
  split
  · next heq =>
    subst heq
    have hnone : log.find? (fun e => decide ((e.jobId != id) = true ∧ (e.jobId == id) = true)) =
        none := by
      refine List.find?_eq_none.mpr fun e _ => ?_
      simp
    rw [hnone]
    simp
  · next hne =>
    have hsame : (fun e : DedupEntry => decide ((e.jobId != jobId) = true ∧
        (e.jobId == id) = true)) = (fun e => e.jobId == id) := by
      funext e
      by_cases he : e.jobId = id
      · simp [he, hne]
      · simp [he]
    have hlast : [(⟨jobId, outcome, now⟩ : DedupEntry)].find? (·.jobId == id) = none := by
      simp [Ne.symm hne]
    rw [hsame, hlast, Option.or_none]

theorem applyJob_cases (rfc3339 : Rfc3339) (s : State) (d : Delivery) :
    (∃ result, lookup s.dedup d.job.id = some (.complete result) ∧
      applyJob rfc3339 s d = { s with
        reports := s.reports ++ [ReportQueue.completeEntry d.job.id d.job.claimToken
          d.job.leaseExpiresAt result] }) ∨
    ((∀ result, lookup s.dedup d.job.id ≠ some (.complete result)) ∧
      (applyJob rfc3339 s d).invocations =
        s.invocations ++ (runJob rfc3339 d.job d.attempts).2 ∧
      ((∃ result, (runJob rfc3339 d.job d.attempts).1 = .ok result ∧
          (applyJob rfc3339 s d).dedup =
            record s.dedup d.job.id (.complete result) d.recordedAt ∧
          (applyJob rfc3339 s d).finished = s.finished ++ [(d.job.id, result)]) ∨
        (∃ e, (runJob rfc3339 d.job d.attempts).1 = .error e ∧
          (applyJob rfc3339 s d).dedup = s.dedup ∧
          (applyJob rfc3339 s d).finished = s.finished))) := by
  unfold applyJob
  split
  · next result hlookup => exact .inl ⟨result, hlookup, rfl⟩
  · next hmiss =>
    refine .inr ⟨fun result h => hmiss result h, ?_⟩
    cases hrun : runJob rfc3339 d.job d.attempts with
    | mk result started =>
      cases result with
      | ok result =>
        have hkept : ∀ t : State, (completeJob rfc3339 t d result).invocations = t.invocations ∧
            (completeJob rfc3339 t d result).dedup =
              record t.dedup d.job.id (.complete result) d.recordedAt ∧
            (completeJob rfc3339 t d result).finished = t.finished ++ [(d.job.id, result)] := by
          intro t
          unfold completeJob
          split <;> exact ⟨rfl, rfl, rfl⟩
        obtain ⟨hinv, hdedup, hfinished⟩ := hkept { s with invocations := s.invocations ++ started }
        exact ⟨hinv, .inl ⟨result, rfl, hdedup, hfinished⟩⟩
      | error e => exact ⟨rfl, .inr ⟨e, rfl, rfl, rfl⟩⟩

end Deliver

/-! ### At most one change for a job -/

def State.commits (s : State) (jobId : Int) : Nat := s.invocations.countP (·.mutates jobId)

def CommitsEndWell (rfc3339 : Rfc3339) : Event → Prop
  | .deliver d => isMutation d.job.jobType = true → ∀ n, EndsWell rfc3339 d.job (d.attempts n)
  | .restart => True

/-- A change has been committed only for jobs that the log knows. -/
def CommitsRecorded (s : State) : Prop :=
  ∀ jobId, s.commits jobId ≤ 1 ∧
    (s.commits jobId = 0 ∨ ∃ result, lookup s.dedup jobId = some (.complete result))

def FinishedRecorded (s : State) : Prop :=
  ∀ p ∈ s.finished, lookup s.dedup p.1 = some (.complete p.2)

section Once

variable {rfc3339 : Rfc3339} {s s' : State} {d : Delivery} {e : Event}

theorem commits_started (hends : CommitsEndWell rfc3339 (.deliver d)) (jobId : Int) :
    (runJob rfc3339 d.job d.attempts).2.countP (·.mutates jobId) ≤ 1 ∧
      ((runJob rfc3339 d.job d.attempts).2.countP (·.mutates jobId) = 0 ∨
        jobId = d.job.id ∧ ∀ e, (runJob rfc3339 d.job d.attempts).1 ≠ .error e) := by
  have hstarted := retry_started rfc3339 d.job d.attempts 1 MAX_ATTEMPTS
  by_cases hown : jobId = d.job.id ∧ isMutation d.job.jobType = true
  · obtain ⟨rfl, hmutation⟩ := hown
    obtain ⟨hle, herror⟩ := retry_commits (hends hmutation) 1 MAX_ATTEMPTS
    refine ⟨hle, ?_⟩
    by_cases hfailed : ∃ e, (runJob rfc3339 d.job d.attempts).1 = .error e
    · obtain ⟨e, he⟩ := hfailed
      exact .inl (herror e he)
    · exact .inr ⟨rfl, fun e he => hfailed ⟨e, he⟩⟩
  · have hnone : (runJob rfc3339 d.job d.attempts).2.countP (·.mutates jobId) = 0 := by
      rw [List.countP_eq_zero]
      intro i hi hmutates
      obtain ⟨hid, htype⟩ := hstarted i hi
      unfold Invocation.mutates at hmutates
      rw [hid, htype, Bool.and_eq_true, Bool.and_eq_true, beq_iff_eq] at hmutates
      exact hown ⟨hmutates.1.1.symm, hmutates.1.2⟩
    rw [hnone]
    exact ⟨Nat.zero_le 1, .inl rfl⟩

theorem commitsRecorded_applyJob (hinv : CommitsRecorded s)
    (hpruned : NothingPruned s (.deliver d)) (hends : CommitsEndWell rfc3339 (.deliver d)) :
    CommitsRecorded (applyJob rfc3339 s d) := by
  rcases applyJob_cases rfc3339 s d with ⟨result, -, hnext⟩ | ⟨hmiss, hinvocations, hresult⟩
  · rw [hnext]
    exact hinv
  · intro jobId
    obtain ⟨hle, hnew⟩ := commits_started hends jobId
    obtain ⟨hold, hrecorded⟩ := hinv jobId
    have hcommits : (applyJob rfc3339 s d).commits jobId = s.commits jobId +
        (runJob rfc3339 d.job d.attempts).2.countP (·.mutates jobId) := by
      unfold State.commits
      rw [hinvocations, List.countP_append]
    rcases hnew with hnone | ⟨rfl, hok⟩
    · -- nothing new for this job; what was recorded of it is still there
      rw [hcommits, hnone, Nat.add_zero]
      refine ⟨hold, ?_⟩
      rcases hrecorded with hzero | ⟨result, hlookup⟩
      · exact .inl hzero
      · refine .inr ⟨result, ?_⟩
        have hne : jobId ≠ d.job.id := fun h => hmiss result (h ▸ hlookup)
        rcases hresult with ⟨r, -, hdedup, -⟩ | ⟨e, -, hdedup, -⟩
        · rw [hdedup, hpruned, lookup_withEntry, if_neg hne]
          exact hlookup
        · rw [hdedup]
          exact hlookup
    · -- the job had not been applied before, and now it is recorded
      have hzero : s.commits d.job.id = 0 := by
        rcases hrecorded with hzero | ⟨result, hlookup⟩
        · exact hzero
        · exact absurd hlookup (hmiss result)
      rw [hcommits, hzero, Nat.zero_add]
      refine ⟨hle, .inr ?_⟩
      rcases hresult with ⟨r, -, hdedup, -⟩ | ⟨e, herror, -⟩
      · refine ⟨r, ?_⟩
        rw [hdedup, hpruned, lookup_withEntry, if_pos rfl]
      · exact absurd herror (hok e)

theorem finishedRecorded_applyJob (hinv : FinishedRecorded s)
    (hpruned : NothingPruned s (.deliver d)) : FinishedRecorded (applyJob rfc3339 s d) := by
  rcases applyJob_cases rfc3339 s d with ⟨result, -, hnext⟩ | ⟨hmiss, -, hresult⟩
  · rw [hnext]
    exact hinv
  · intro p hp
    rcases hresult with ⟨r, -, hdedup, hfinished⟩ | ⟨e, -, hdedup, hfinished⟩
    · rw [hfinished] at hp
      rw [hdedup, hpruned, lookup_withEntry]
      rcases List.mem_append.mp hp with hp | hp
      · have hne : p.1 ≠ d.job.id := fun h => hmiss p.2 (h ▸ hinv p hp)
        rw [if_neg hne]
        exact hinv p hp
      · rw [List.mem_singleton.mp hp, if_pos rfl]
    · rw [hfinished] at hp
      rw [hdedup]
      exact hinv p hp

theorem step_cases (rfc3339 : Rfc3339) (s : State) (e : Event) :
    step rfc3339 s e = s ∨ ∃ d, e = .deliver d ∧ step rfc3339 s e = applyJob rfc3339 s d := by
  cases e with
  | restart => exact .inl rfl
  | deliver d =>
    show pollOnce rfc3339 s d = s ∨ ∃ d', Event.deliver d = .deliver d' ∧
      pollOnce rfc3339 s d = applyJob rfc3339 s d'
    unfold pollOnce
    split
    · exact .inr ⟨d, rfl, rfl⟩
    · exact .inl rfl

theorem replay_of_finished (hinv : FinishedRecorded s) {result : Json}
    (hfinished : (d.job.id, result) ∈ s.finished)
    (hlive : leaseIsLive rfc3339 d.job d.claimedAt = .ok true) :
    step rfc3339 s (.deliver d) = { s with
      reports := s.reports ++ [ReportQueue.completeEntry d.job.id d.job.claimToken
        d.job.leaseExpiresAt result] } := by
  have hlookup := hinv _ hfinished
  show pollOnce rfc3339 s d = _
  unfold pollOnce
  rw [hlive]
  unfold applyJob
  rw [hlookup]

end Once

/-- Nothing has been done yet; the log may know jobs from before. -/
structure Start (s : State) : Prop where
  invocations : s.invocations = []
  finished : s.finished = []

/-- In runs where every process that commits also ends well, at most one process commits for a
    job; in all runs, a live delivery of a finished job enqueues the recorded result under its own
    claim, and starts nothing. -/
theorem job_mutates_once {rfc3339 : Rfc3339} {s : State} (hstart : Start s) :
    (∀ s', Runs.Leads (Runs.total (step rfc3339))
        (fun s e => NothingPruned s e ∧ CommitsEndWell rfc3339 e) s s' →
      ∀ jobId, s'.commits jobId ≤ 1) ∧
    (∀ s', Runs.Leads (Runs.total (step rfc3339)) NothingPruned s s' →
      ∀ d result, (d.job.id, result) ∈ s'.finished →
        leaseIsLive rfc3339 d.job d.claimedAt = .ok true →
        step rfc3339 s' (.deliver d) = { s' with
          reports := s'.reports ++ [ReportQueue.completeEntry d.job.id d.job.claimToken
            d.job.leaseExpiresAt result] }) := by
  constructor
  · intro s' hrun jobId
    have hzero : CommitsRecorded s := by
      intro id
      have hnone : s.commits id = 0 := by
        unfold State.commits
        rw [hstart.invocations]
        rfl
      rw [hnone]
      exact ⟨Nat.zero_le 1, .inl rfl⟩
    refine (hrun.invariant CommitsRecorded ?_ hzero jobId).1
    rintro t e t' hinv ⟨hpruned, hends⟩ hstep
    cases hstep
    rcases step_cases rfc3339 t e with hsame | ⟨d, rfl, happly⟩
    · rw [hsame]
      exact hinv
    · rw [happly]
      exact commitsRecorded_applyJob hinv hpruned hends
  · intro s' hrun d result hfinished hlive
    have hnone : FinishedRecorded s := by
      intro p hp
      rw [hstart.finished] at hp
      cases hp
    refine replay_of_finished (hrun.invariant FinishedRecorded ?_ hnone) hfinished hlive
    intro t e t' hinv hpruned hstep
    cases hstep
    rcases step_cases rfc3339 t e with hsame | ⟨d, rfl, happly⟩
    · rw [hsame]
      exact hinv
    · rw [happly]
      exact finishedRecorded_applyJob hinv hpruned

/-! ### A job that is applied twice -/

def sampleJob : Job where
  id := 7
  jobType := "CREATE_USER"
  payload := .object [("user_id", .str "customer")]
  claimToken := "token"
  leaseExpiresAt := "1970-01-01T00:01:40Z"

def sampleCreated : Child :=
  .exited
    { success := true
      status := "exit status: 0"
      stdout := some (.object [("id", .str "user_1"), ("subscription_url", .str "/sub/t"),
        ("provisioning_url", .str "/v1/provision/t")])
      stdoutLen := 80
      stderrLen := 0 }
    true

/-- A delivery whose processes end one after the other as given, and then well. -/
def sampleDelivery (first : Child) : Delivery where
  job := sampleJob
  claimedAt := 0
  attempts n := ⟨true, .ok "", if n = 1 then first else sampleCreated⟩
  recordedAt := 0
  finishedAt := 1

def sampleStart : State := ⟨[], [], [], []⟩

/-- A job that is delivered again. -/
theorem job_mutates_once_redelivered :
    (step sampleParse (step sampleParse sampleStart (.deliver (sampleDelivery sampleCreated)))
      (.deliver (sampleDelivery sampleCreated))).commits 7 ≤ 1 := by
  have hends : CommitsEndWell sampleParse (.deliver (sampleDelivery sampleCreated)) := by
    intro _ n cmd hcmd _
    have hchild : ((sampleDelivery sampleCreated).attempts n).child = sampleCreated := by
      simp [sampleDelivery]
    cases hcmd
    exact ⟨_, _, hchild, rfl⟩
  have hfirst : Runs.Leads (Runs.total (step sampleParse))
      (fun s e => NothingPruned s e ∧ CommitsEndWell sampleParse e) sampleStart
      (step sampleParse sampleStart (.deliver (sampleDelivery sampleCreated))) :=
    (Runs.Leads.refl _).snoc ⟨nothingPruned_of_recent (by decide) (by decide), hends⟩ rfl
  have hrun := hfirst.snoc ⟨nothingPruned_of_recent (by decide) (by decide), hends⟩ rfl
  exact (job_mutates_once ⟨rfl, rfl⟩).1 _ hrun 7

/-- The first process creates the account and is killed at the time limit; the retry creates
    another one. -/
theorem killed_job_mutates_twice :
    (step sampleParse sampleStart (.deliver (sampleDelivery (.timedOut true)))).commits 7 = 2 ∧
      (∀ outcome, record sampleStart.dedup 7 outcome 0 =
        withEntry sampleStart.dedup 7 outcome 0) := by
  exact ⟨rfl, fun _ => rfl⟩

end SingboxVpn.Jobs
