import SingboxVpn.Agent.OpDedup
import SingboxVpn.Agent.Snapshot
import SingboxVpn.Lib.Fallible

namespace SingboxVpn.ExternalReconciler

open Fallible Snapshot

/-!
# The external reconciler

The agent fetches snapshots of the external authorizations, keeps the accepted one in memory and
in a file, has `vpn-admin` apply it, and acknowledges its revision to the control plane.  A tick
does each of these at most once; it ends at the first save, apply or acknowledgement that fails.
What the process knows beyond the file is lost at a restart.

* `ensures_fetchSnapshot`, `ensures_applyDesired`, `ensures_acknowledge`, `ensures_tick` — what each
  part of a tick can do; every invariant below comes from these.
-/

/-! ### Processes, files and what has happened -/

structure Process where
  state : PersistedExternalState
  appliedActiveFingerprint : Option (List Authorization)
  appliedThisProcess : Bool
  etag : Option String
  quarantined : List String

inductive Observation where
  -- a snapshot was adopted; the flag says whether it has changed the state
  | accepted (snapshot : ParsedSnapshot) (changed : Bool)
  -- `vpn-admin` was run on a set, at a revision, with a file on disk
  | applied (desired : AuthorizationSet) (revision : Option Nat) (file : Option StateFile)
      (ok : Bool)
  | acknowledged (revision : Nat)

/-- The newest observation comes first.  `outstanding` says that the save of an adopted snapshot
    has failed in this process. -/
structure World where
  proc : Process
  file : Option StateFile
  outstanding : Bool
  log : List Observation

/-- A process that has loaded a state. -/
def Process.open (state : PersistedExternalState) : Process := ⟨state, none, false, none, []⟩

/-- The answer to a conditional fetch of the authorizations. -/
inductive AuthorizationsFetch where
  | failed (error : String)
  | notModified
  | fresh (body : Json) (etag : Option String)

/-- What a tick meets: whether and what it fetches, the time, and how each save, process and
    request ends. -/
structure Tick where
  fetch : Option AuthorizationsFetch
  saveAdopted : OpDedup.Write
  now : Int
  input : Except String Unit
  child : Jobs.Child
  saveApplied : OpDedup.Write
  ack : Except String Unit
  saveAcknowledged : OpDedup.Write

/-! ### A tick -/

/-- Add to the log. -/
def observe (o : Observation) : Prog World Unit := modify fun w => { w with log := o :: w.log }

def setState (f : PersistedExternalState → PersistedExternalState) : Prog World Unit :=
  modify fun w => { w with proc := { w.proc with state := f w.proc.state } }

def setEtag (etag : Option String) : Prog World Unit :=
  modify fun w => { w with proc := { w.proc with etag := etag } }

/-- Write the state; one that was not installed leaves the file as it was. -/
def save (outcome : OpDedup.Write) : Prog World Unit := do
  let installed : Prog World Unit := modify fun w => { w with file := some (.current w.proc.state) }
  match outcome with
  | .done => installed
  | .notInstalled message => require (.error message)
  -- the new file is in place, but its directory could not be synced
  | .notSynced message => do
      installed
      require (.error message)

def saveAhead (outcome : OpDedup.Write) : Prog World Unit := do
  modify fun w => { w with outstanding := true }
  save outcome
  modify fun w => { w with outstanding := false }

/-- The answer of an adopted snapshot: it is made durable before anything is done with it. -/
def adopted (t : Tick) (next : ParsedSnapshot) (etag : Option String) (changed : Bool) :
    Prog World (Option String) := do
  modify fun w => { w with proc := { w.proc with quarantined := next.quarantined } }
  observe (.accepted next changed)
  runIf changed (saveAhead t.saveAdopted)
  setEtag etag
  pure none

def adopt (t : Tick) (next : ParsedSnapshot) (etag : Option String) :
    Prog World (Option String) := do
  let w ← get
  let (state, result) := adoptSnapshot w.proc.state next
  setState fun _ => state
  match result with
  | .ok changed => adopted t next etag changed
  | .error e => do
      setEtag none
      pure (some e)

def fetchSnapshot (rfc3339 : Rfc3339) (t : Tick) : Prog World (Option String) :=
  match t.fetch with
  | none => pure none
  | some .notModified => pure none
  | some (.failed e) => pure (some e)
  | some (.fresh body etag) =>
      match parseSnapshot rfc3339 body with
      | .ok next => adopt t next etag
      | .error e => do
          setEtag none
          pure (some e)

def proveLive (child : Jobs.Child) : Except String Unit := do
  let output ← Jobs.runVpnAdmin "vpn-admin external-authorizations" child
  let parsed ← Jobs.parseJsonOutput output "external-authorizations"
  Check.refuseIf ((parsed.get? "live").bind asBool != some true)
    "external authorization state was not proven live"

/-- Hand the desired set to `vpn-admin` and require that it went live. -/
def apply (t : Tick) : Prog World Unit := do
  require t.input
  let w ← get
  observe (.applied w.proc.state.desired w.proc.state.snapshotRevision w.file
    (proveLive t.child).toBool)
  require (proveLive t.child)

def needsApply (p : Process) (now : Int) : Bool :=
  !p.appliedThisProcess || some (p.state.desired.activeAt now) != p.appliedActiveFingerprint ||
    (p.state.snapshotRevision.isSome &&
      p.state.appliedSnapshotRevision != p.state.snapshotRevision)

def applyDesired (t : Tick) : Prog World Unit := do
  let w ← get
  runIf (needsApply w.proc t.now) do
    apply t
    modify fun w => { w with proc := { w.proc with
      appliedActiveFingerprint := some (w.proc.state.desired.activeAt t.now)
      appliedThisProcess := true } }
    setState fun state => { state with appliedSnapshotRevision := state.snapshotRevision }
    save t.saveApplied

def ackable (p : Process) : Option Nat :=
  p.state.snapshotRevision.filter fun revision =>
    p.state.appliedSnapshotRevision == some revision &&
      p.state.acknowledgedSnapshotRevision != some revision && p.quarantined.isEmpty

def acknowledge (t : Tick) : Prog World Unit := do
  let w ← get
  match ackable w.proc with
  | none => pure ()
  | some revision => do
      observe (.acknowledged revision)
      require t.ack
      setState fun state => { state with acknowledgedSnapshotRevision := some revision }
      save t.saveAcknowledged

/-- What the tick returns: nothing that was left undone is passed over in silence. -/
def report (fetchError : Option String) : Prog World Unit := do
  let w ← get
  match fetchError with
  | some e => require (.error e)
  | none => require (Check.refuseIf (!w.proc.quarantined.isEmpty)
      (toString w.proc.quarantined.length ++
        " credential(s) quarantined and excluded (fail closed), revision not acknowledged: " ++
        ", ".intercalate w.proc.quarantined))

/-- Fetch, apply what is desired, acknowledge, and report a failed fetch. -/
def tick (rfc3339 : Rfc3339) (t : Tick) : Prog World Unit := do
  let fetchError ← fetchSnapshot rfc3339 t
  applyDesired t
  acknowledge t
  report fetchError

/-! ### What a tick can do -/

def World.tagged (etag : Option String) (w : World) : World :=
  { w with proc := { w.proc with etag := etag } }

def World.holding (state : PersistedExternalState) (w : World) : World :=
  { w with proc := { w.proc with state := state } }

def World.accepted (next : ParsedSnapshot) (changed : Bool) (w : World) : World :=
  { w with
    proc := { w.proc with quarantined := next.quarantined }
    log := .accepted next changed :: w.log }

def World.saved (w : World) : World := { w with file := some (.current w.proc.state) }

def World.ran (live : Bool) (w : World) : World :=
  { w with log := .applied w.proc.state.desired w.proc.state.snapshotRevision w.file live :: w.log }

def World.proved (now : Int) (w : World) : World :=
  { w with proc := { w.proc with
      state := { w.proc.state with appliedSnapshotRevision := w.proc.state.snapshotRevision }
      appliedActiveFingerprint := some (w.proc.state.desired.activeAt now)
      appliedThisProcess := true } }

def World.sent (revision : Nat) (w : World) : World :=
  { w with log := .acknowledged revision :: w.log }

def World.acked (revision : Nat) (w : World) : World :=
  { w with proc := { w.proc with
      state := { w.proc.state with acknowledgedSnapshotRevision := some revision } } }

section Rules

variable {rfc3339 : Rfc3339} {t : Tick} {pre mid late post failed : World → Prop}

variable {outcome : OpDedup.Write} {etag : Option String}

/-- A save that fails has left the file, or has put the new one in its place. -/
theorem wp_save {w : World} {ok : Unit → World → Prop} (hsaved : ok () w.saved) (hfailed : failed w)
    (hsync : ∀ w, failed w → failed w.saved) : wp (save outcome) w ok failed := by
  cases outcome with
  | done => exact hsaved
  | notInstalled message => exact hfailed
  | notSynced message => exact hsync w hfailed

/-- A fetch changes nothing but the tag, or finds the snapshot that is held, or brings a new one,
    whose save may fail. -/
theorem ensures_fetchSnapshot (hkeep : ∀ w, pre w → mid w)
    (htag : ∀ w etag, mid w → mid (w.tagged etag))
    (hsame : ∀ w next, pre w → next.desired = w.proc.state.desired →
      next.snapshotRevision = w.proc.state.snapshotRevision → mid (w.accepted next false))
    (hsaved : ∀ w body next, pre w → parseSnapshot rfc3339 body = .ok next →
      mid { ((w.holding next.state).accepted next true).saved with outstanding := false })
    (hfailed : ∀ w body next, pre w → parseSnapshot rfc3339 body = .ok next →
      failed { (w.holding next.state).accepted next true with outstanding := true })
    (hsync : ∀ w, failed w → failed w.saved) :
    Ensures pre (fetchSnapshot rfc3339 t) (fun _ => mid) failed := by
  intro w h
  have hrefused : mid (w.tagged none) := htag w none (hkeep w h)
  unfold fetchSnapshot
  split
  · exact hkeep w h
  · exact hkeep w h
  · exact hkeep w h
  · next body etag _ =>
    split
    · next next hparse =>
      simp only [adopt, setState, wp_bind, wp_get, wp_modify]
      rcases adoptSnapshot_cases w.proc.state next with ⟨e, hadopt⟩ |
        ⟨hadopt, hdesired, hrevision⟩ | ⟨hadopt, -⟩
      · rw [hadopt]
        exact hrefused
      · rw [hadopt]
        exact htag _ etag (hsame w next h hdesired hrevision)
      · simp only [hadopt, adopted, saveAhead, wp_bind, observe, wp_modify, wp_runIf]
        refine ⟨fun _ => wp_save ?_ (hfailed w body next h hparse) hsync, fun h => by cases h⟩
        exact htag _ etag (hsaved w body next h hparse)
    · exact hrefused

theorem wp_apply {w : World} {ok : Unit → World → Prop} (hfailed : failed w)
    (hran : failed (w.ran false)) (hlive : ok () (w.ran true)) : wp (apply t) w ok failed := by
  simp only [apply, observe, wp_bind, wp_require, wp_get, wp_modify]
  refine ⟨fun _ _ => hfailed, fun _ _ => ?_⟩
  cases proveLive t.child with
  | ok _ => exact ⟨fun _ h => (by cases h), fun _ _ => hlive⟩
  | error e => exact ⟨fun _ _ => hran, fun _ h => by cases h⟩

/-- A run of `vpn-admin` ends the tick unless the state is live and the save of that succeeds. -/
theorem ensures_applyDesired (hskip : ∀ w, pre w → needsApply w.proc t.now = false → mid w)
    (hfailed : ∀ w, pre w → failed w) (hran : ∀ w, pre w → failed (w.ran false))
    (hsaved : ∀ w, pre w → mid ((w.ran true).proved t.now).saved)
    (hunsaved : ∀ w, pre w → failed ((w.ran true).proved t.now))
    (hsync : ∀ w, failed w → failed w.saved) :
    Ensures pre (applyDesired t) (fun _ => mid) failed := by
  intro w h
  simp only [applyDesired, wp_bind, wp_get, wp_runIf]
  refine ⟨fun _ => wp_apply (hfailed w h) (hran w h) ?_, hskip w h⟩
  simp only [setState, wp_modify]
  exact wp_save (hsaved w h) (hunsaved w h) hsync

theorem ensures_acknowledge (hskip : ∀ w, pre w → mid w)
    (hsent : ∀ w r, pre w → ackable w.proc = some r → failed (w.sent r))
    (hsaved : ∀ w r, pre w → ackable w.proc = some r → mid ((w.sent r).acked r).saved)
    (hunsaved : ∀ w r, pre w → ackable w.proc = some r → failed ((w.sent r).acked r))
    (hsync : ∀ w, failed w → failed w.saved) :
    Ensures pre (acknowledge t) (fun _ => mid) failed := by
  intro w h
  rw [acknowledge, wp_bind, wp_get]
  split
  · exact hskip w h
  · next r hackable =>
    simp only [observe, setState, wp_bind, wp_modify, wp_require]
    exact ⟨fun _ _ => hsent w r h hackable, fun _ _ => wp_save (hsaved w r h hackable)
      (hunsaved w r h hackable) hsync⟩

theorem ensures_tick (hfetch : Ensures pre (fetchSnapshot rfc3339 t) (fun _ => mid) failed)
    (happly : Ensures mid (applyDesired t) (fun _ => late) failed)
    (hack : Ensures late (acknowledge t) (fun _ => post) failed)
    (hend : ∀ w, post w → failed w) :
    Ensures pre (tick rfc3339 t) (fun _ => post) failed := by
  apply Ensures.bind (fun _ => mid) hfetch
  intro fetchError
  apply Ensures.bind (fun _ => late) happly
  intro _
  apply Ensures.bind (fun _ => post) hack
  intro _ w h
  rw [report, wp_bind, wp_get]
  split
  · exact wp_require.mpr ⟨fun _ _ => hend w h, fun _ _ => h⟩
  · exact wp_require.mpr ⟨fun _ _ => hend w h, fun _ _ => h⟩

end Rules

/-! ### Runs -/

inductive Event where
  | tick (t : Tick)
  | restart

def step (rfc3339 : Rfc3339) (w : World) : Event → Option World
  | .tick t => some (exec (tick rfc3339 t) w).2
  | .restart => (loadState w.file).toOption.map fun state =>
      { w with proc := .open state, outstanding := false }

/-- Nothing has been fetched yet, and there is no file. -/
def start : World := ⟨.open .empty, none, false, []⟩

/-! ### Restarts -/

structure Valid (w : World) : Prop where
  held : w.proc.state.desired.validate = .ok ()
  stored : ∀ file, w.file = some file → file.state.desired.validate = .ok ()

variable {w : World} {rfc3339 : Rfc3339}

theorem Valid.saved (h : Valid w) : Valid w.saved := by
  refine ⟨h.held, fun file hfile => ?_⟩
  cases hfile
  exact h.held

theorem Valid.proved (h : Valid w) (now : Int) : Valid ((w.ran true).proved now) :=
  ⟨h.held, h.stored⟩

theorem Valid.acked (h : Valid w) (r : Nat) : Valid ((w.sent r).acked r) :=
  ⟨h.held, h.stored⟩

theorem Valid.accepted {body : Json} {next : ParsedSnapshot} (h : Valid w)
    (hparse : parseSnapshot rfc3339 body = .ok next) :
    Valid ((w.holding next.state).accepted next true) :=
  ⟨(parseSnapshot_ok hparse).2.1, h.stored⟩

theorem valid_fetchSnapshot (rfc3339 : Rfc3339) (t : Tick) :
    Ensures Valid (fetchSnapshot rfc3339 t) (fun _ => Valid) Valid := by
  apply ensures_fetchSnapshot
  · exact fun _ h => h
  · exact fun _ _ h => ⟨h.held, h.stored⟩
  · exact fun _ _ h _ _ => ⟨h.held, h.stored⟩
  · exact fun _ _ _ h hparse => ⟨(h.accepted hparse).held, (h.accepted hparse).saved.stored⟩
  · exact fun _ _ _ h hparse => ⟨(h.accepted hparse).held, h.stored⟩
  · exact fun _ h => h.saved

theorem valid_applyDesired (t : Tick) :
    Ensures Valid (applyDesired t) (fun _ => Valid) Valid := by
  apply ensures_applyDesired
  · exact fun _ h _ => h
  · exact fun _ h => h
  · exact fun _ h => ⟨h.held, h.stored⟩
  · exact fun _ h => (h.proved t.now).saved
  · exact fun _ h => h.proved t.now
  · exact fun _ h => h.saved

theorem valid_acknowledge (t : Tick) : Ensures Valid (acknowledge t) (fun _ => Valid) Valid := by
  apply ensures_acknowledge
  · exact fun _ h => h
  · exact fun _ _ h _ => ⟨h.held, h.stored⟩
  · exact fun _ r h _ => (h.acked r).saved
  · exact fun _ r h _ => h.acked r
  · exact fun _ h => h.saved

theorem loadState_valid {file : Option StateFile} {state : PersistedExternalState}
    (h : loadState file = .ok state) : state.desired.validate = .ok () := by
  cases file with
  | none =>
    cases h
    rfl
  | some file =>
    obtain ⟨hvalid, hstate⟩ := Check.bind_ok.mp h
    cases hstate
    exact hvalid

theorem loadState_of_valid (h : Valid w) : ∃ state, loadState w.file = .ok state := by
  cases hfile : w.file with
  | none => exact ⟨_, rfl⟩
  | some file => exact ⟨file.state, Check.bind_ok.mpr ⟨h.stored file hfile, rfl⟩⟩

/-- Whatever a process has met, one can be started after it: a set that fails the check of a
    start is never saved. -/
theorem restart_ready (hrun : Runs.Leads (step rfc3339) (fun _ _ => True) start w) :
    ∃ w', step rfc3339 w .restart = some w' := by
  have hkeep : ∀ w e w', Valid w → True → step rfc3339 w e = some w' → Valid w' := by
    intro w e w' h _ hstep
    cases e with
    | tick t =>
      cases hstep
      exact (ensures_tick (valid_fetchSnapshot rfc3339 t) (valid_applyDesired t)
        (valid_acknowledge t) fun _ h => h).state h
    | restart =>
      obtain ⟨state, hload, rfl⟩ := Option.map_eq_some_iff.mp hstep
      exact ⟨loadState_valid (loaded_of_toOption hload), h.stored⟩
  have hvalid := hrun.invariant Valid hkeep ⟨rfl, nofun⟩
  obtain ⟨state, hload⟩ := loadState_of_valid hvalid
  refine ⟨{ w with proc := .open state, outstanding := false }, ?_⟩
  simp only [step, hload]
  rfl

/-! ### Acknowledgements -/

def lastAccepted : List Observation → Option ParsedSnapshot
  | [] => none
  | .accepted p _ :: _ => some p
  | _ :: log => lastAccepted log

def acceptedAt (revision : Nat) : List Observation → Option ParsedSnapshot
  | [] => none
  | .accepted p _ :: log =>
      if p.snapshotRevision = some revision then some p else acceptedAt revision log
  | _ :: log => acceptedAt revision log

/-- A set was applied with success after the stored state has changed for the last time. -/
def AppliedSince (desired : AuthorizationSet) : List Observation → Prop
  | [] => False
  | .accepted _ true :: _ => False
  | .applied d _ _ true :: log => d = desired ∨ AppliedSince desired log
  | _ :: log => AppliedSince desired log

/-- What an acknowledgement says: the last accepted snapshot of the revision is whole, and it has
    been applied since it was stored. -/
def AckSound (revision : Nat) (log : List Observation) : Prop :=
  ∃ p, acceptedAt revision log = some p ∧ p.quarantined = [] ∧ AppliedSince p.desired log

theorem acceptedAt_of_last {log : List Observation} {p : ParsedSnapshot} {revision : Nat}
    (h : lastAccepted log = some p) (hrevision : p.snapshotRevision = some revision) :
    acceptedAt revision log = some p := by
  induction log with
  | nil => cases h
  | cons o log ih =>
    cases o with
    | accepted q changed =>
      cases h
      simp [acceptedAt, hrevision]
    | applied d r f ok => exact ih h
    | acknowledged r => exact ih h

structure Tracks (w : World) : Prop where
  held : match lastAccepted w.log with
    | none => w.proc.state.snapshotRevision = none
    | some p => p.desired = w.proc.state.desired ∧
        p.snapshotRevision = w.proc.state.snapshotRevision ∧ p.quarantined = w.proc.quarantined
  applied : w.proc.appliedThisProcess = true → ∀ r, w.proc.state.snapshotRevision = some r →
    w.proc.state.appliedSnapshotRevision = some r → AppliedSince w.proc.state.desired w.log
  acks : ∀ r log, (.acknowledged r :: log) <:+ w.log → AckSound r log

section Acks

variable {t : Tick} {w : World} {rfc3339 : Rfc3339}

theorem acks_cons {o : Observation} {log : List Observation}
    (hold : ∀ r l, (.acknowledged r :: l) <:+ log → AckSound r l)
    (hnew : ∀ r, o = .acknowledged r → AckSound r log) :
    ∀ r l, (.acknowledged r :: l) <:+ (o :: log) → AckSound r l := by
  intro r l h
  rcases List.suffix_cons_iff.mp h with heq | h
  · obtain ⟨ho, hl⟩ := List.cons.inj heq
    rw [hl]
    exact hnew r ho.symm
  · exact hold r l h

theorem Tracks.saved (h : Tracks w) : Tracks w.saved := ⟨h.held, h.applied, h.acks⟩

theorem Tracks.ran (h : Tracks w) (live : Bool) : Tracks (w.ran live) := by
  refine ⟨h.held, fun hproc r hr hr' => ?_, acks_cons h.acks nofun⟩
  have happlied : AppliedSince w.proc.state.desired w.log := h.applied hproc r hr hr'
  cases live with
  | true => exact .inr happlied
  | false => exact happlied

theorem Tracks.proved (h : Tracks w) (now : Int) : Tracks ((w.ran true).proved now) :=
  ⟨h.held, fun _ _ _ _ => .inl rfl, (h.ran true).acks⟩

variable {revision : Nat}

theorem ackSound_of_ackable (h : Tracks w) (hproc : w.proc.appliedThisProcess = true)
    (hackable : ackable w.proc = some revision) : AckSound revision w.log := by
  obtain ⟨hrevision, hguard⟩ := Option.filter_eq_some_iff.mp hackable
  simp only [Bool.and_eq_true, beq_iff_eq, List.isEmpty_iff] at hguard
  obtain ⟨⟨happlied, -⟩, hquarantined⟩ := hguard
  have hheld := h.held
  split at hheld
  · rw [hrevision] at hheld
    cases hheld
  · next p hlast =>
    obtain ⟨hdesired, hrev, hq⟩ := hheld
    refine ⟨p, acceptedAt_of_last hlast (hrev.trans hrevision), hq.trans hquarantined, ?_⟩
    rw [hdesired]
    exact h.applied hproc revision hrevision happlied

theorem Tracks.sent (h : Tracks w) (hproc : w.proc.appliedThisProcess = true)
    (hackable : ackable w.proc = some revision) : Tracks (w.sent revision) := by
  refine ⟨h.held, h.applied, acks_cons h.acks fun r hr => ?_⟩
  cases hr
  exact ackSound_of_ackable h hproc hackable

theorem Tracks.acked (h : Tracks w) : Tracks (w.acked revision) :=
  ⟨h.held, h.applied, h.acks⟩

/-- A snapshot that is held already changes the list of what it leaves out; a new one is neither
    applied nor acknowledged. -/
theorem tracks_fetchSnapshot (rfc3339 : Rfc3339) (t : Tick) :
    Ensures Tracks (fetchSnapshot rfc3339 t) (fun _ => Tracks) Tracks := by
  apply ensures_fetchSnapshot
  · exact fun _ h => h
  · exact fun _ _ h => ⟨h.held, h.applied, h.acks⟩
  · exact fun w next h hdesired hrevision =>
      ⟨⟨hdesired, hrevision, rfl⟩, h.applied, acks_cons h.acks nofun⟩
  · exact fun w body next h _ => ⟨⟨rfl, rfl, rfl⟩, nofun, acks_cons h.acks nofun⟩
  · exact fun w body next h _ => ⟨⟨rfl, rfl, rfl⟩, nofun, acks_cons h.acks nofun⟩
  · exact fun _ h => h.saved

theorem tracks_applyDesired (t : Tick) :
    Ensures Tracks (applyDesired t) (fun _ w => Tracks w ∧ w.proc.appliedThisProcess = true)
      Tracks := by
  apply ensures_applyDesired
  · intro w h hskip
    simp only [needsApply, Bool.or_eq_false_iff, Bool.not_eq_false'] at hskip
    exact ⟨h, hskip.1.1⟩
  · exact fun _ h => h
  · exact fun _ h => h.ran false
  · exact fun _ h => ⟨(h.proved t.now).saved, rfl⟩
  · exact fun _ h => h.proved t.now
  · exact fun _ h => h.saved

theorem tracks_acknowledge (t : Tick) :
    Ensures (fun w => Tracks w ∧ w.proc.appliedThisProcess = true) (acknowledge t)
      (fun _ => Tracks) Tracks := by
  apply ensures_acknowledge
  · exact fun _ h => h.1
  · exact fun _ _ h hr => h.1.sent h.2 hr
  · exact fun _ _ h hr => (h.1.sent h.2 hr).acked.saved
  · exact fun _ _ h hr => (h.1.sent h.2 hr).acked
  · exact fun _ h => h.saved

theorem tracks_tick (rfc3339 : Rfc3339) (t : Tick) :
    Ensures Tracks (tick rfc3339 t) (fun _ => Tracks) Tracks :=
  ensures_tick (tracks_fetchSnapshot rfc3339 t) (tracks_applyDesired t) (tracks_acknowledge t)
    fun _ h => h

end Acks

def RestartsClean (w : World) : Event → Prop
  | .tick _ => True
  | .restart => w.proc.quarantined = [] ∧ ∀ state, loadState w.file = .ok state →
      state.desired = w.proc.state.desired ∧
        state.snapshotRevision = w.proc.state.snapshotRevision

/-- In runs with clean restarts only, a revision is acknowledged only if the last accepted
    snapshot of it was whole and has been applied with success since it was stored. -/
theorem ack_sound {rfc3339 : Rfc3339} {w : World}
    (hrun : Runs.Leads (step rfc3339) RestartsClean start w) :
    ∀ r log, (.acknowledged r :: log) <:+ w.log → AckSound r log := by
  have hkeep : ∀ w e w', Tracks w → RestartsClean w e → step rfc3339 w e = some w' → Tracks w' := by
    intro w e w' h hclean hstep
    cases e with
    | tick t =>
      cases hstep
      exact (tracks_tick rfc3339 t).state h
    | restart =>
      obtain ⟨state, hload, rfl⟩ := Option.map_eq_some_iff.mp hstep
      obtain ⟨hquarantined, hdisk⟩ := hclean
      obtain ⟨hdesired, hrevision⟩ := hdisk state (loaded_of_toOption hload)
      refine ⟨?_, nofun, h.acks⟩
      have hheld := h.held
      show match lastAccepted w.log with
        | none => state.snapshotRevision = none
        | some p => p.desired = state.desired ∧ p.snapshotRevision = state.snapshotRevision ∧
            p.quarantined = []
      rw [hdesired, hrevision, ← hquarantined]
      exact hheld
  have hstart : Tracks start := ⟨rfl, nofun, fun r log h => by simp [start] at h⟩
  exact (hrun.invariant Tracks hkeep hstart).acks

/-! ### A forgotten quarantine -/

def sampleLive : Jobs.Child :=
  .exited
    { success := true
      status := "exit status: 0"
      stdout := some (.object [("live", .bool true)])
      stdoutLen := 13
      stderrLen := 0 }
    true

def sampleTick (fetch : Option AuthorizationsFetch) : Tick where
  fetch := fetch
  saveAdopted := .done
  now := 0
  input := .ok ()
  child := sampleLive
  saveApplied := .done
  ack := .ok ()
  saveAcknowledged := .done

def sampleSnapshot (items : List Json) : AuthorizationsFetch :=
  .fresh (.object [("schema_version", .num 2), ("snapshot_revision", .num 10),
    ("authorizations", .arr items)]) none

def sampleItem (validUntil : String) (protocol : List (String × Json)) : Json :=
  .object [("principal_id", .str "ext_principal001"), ("credential_id", .str "cred_aaaa0001"),
    ("class", .str "compatibility"), ("valid_from", .str "1970-01-01T00:00:00Z"),
    ("valid_until", .str validUntil), ("protocol", .object protocol)]

def sampleGoodItem : Json :=
  sampleItem "1970-01-02T00:00:00Z" [("vless_uuid", .str "00000000-0000-4000-8000-00000000000a"),
    ("hysteria2_password", .str "0123456789abcdef")]

def sampleBadItem : Json := sampleItem "tomorrow" []

def sampleApplied (file : PersistedExternalState) : Observation :=
  .applied file.desired (some 10) (some (.current file)) true

/-- A snapshot with one credential is applied, and its acknowledgement does not get through. -/
def unacknowledgedTick : Tick :=
  { sampleTick (some (sampleSnapshot [sampleGoodItem])) with ack := .error "timed out" }

def unacknowledged : World := (exec (tick sampleParse unacknowledgedTick) start).2

def restarted : World :=
  { unacknowledged with proc := .open unacknowledged.proc.state, outstanding := false }

/-- The process is restarted and acknowledges what it has applied once more. -/
theorem ack_sound_restarted :
    let set : AuthorizationSet := ⟨[sampleCredential]⟩
    AckSound 10 [sampleApplied ⟨set, some 10, some 10, none⟩, .acknowledged 10,
      sampleApplied ⟨set, some 10, none, none⟩, .accepted ⟨set, some 10, []⟩ true] := by
  have hfirst : Runs.Leads (step sampleParse) RestartsClean start unacknowledged :=
    (Runs.Leads.refl start).snoc (e := .tick unacknowledgedTick) trivial rfl
  have hclean : RestartsClean unacknowledged .restart := by
    refine ⟨rfl, fun state hload => ?_⟩
    obtain ⟨-, hok⟩ := Check.bind_ok.mp hload
    cases hok
    exact ⟨rfl, rfl⟩
  have hsecond : Runs.Leads (step sampleParse) RestartsClean start restarted :=
    hfirst.snoc hclean rfl
  have hrun : Runs.Leads (step sampleParse) RestartsClean start
      (exec (tick sampleParse (sampleTick none)) restarted).2 :=
    hsecond.snoc (e := .tick (sampleTick none)) trivial rfl
  exact ack_sound hrun 10 _ ⟨[], rfl⟩

/-- A process can restart from a snapshot with a quarantined credential. -/
theorem restart_ready_quarantined :
    ∃ w', step sampleParse (exec (tick sampleParse
      (sampleTick (some (sampleSnapshot [sampleBadItem])))) start).2 .restart = some w' :=
  restart_ready ((Runs.Leads.refl start).snoc (e := .tick _) trivial rfl)

/-- A snapshot with a quarantined credential is applied and not acknowledged; after a restart its
    revision is, though no other snapshot has come. -/
theorem quarantined_revision_acknowledged :
    ∃ w, Runs.after (step sampleParse) start
        [.tick (sampleTick (some (sampleSnapshot [sampleBadItem]))), .restart,
          .tick (sampleTick none)] = some w ∧
      w.log = [.acknowledged 10, sampleApplied ⟨⟨[]⟩, some 10, some 10, none⟩,
        sampleApplied ⟨⟨[]⟩, some 10, none, none⟩,
        .accepted ⟨⟨[]⟩, some 10, ["cred_aaaa0001"]⟩ true] ∧
      ¬ AckSound 10 [sampleApplied ⟨⟨[]⟩, some 10, some 10, none⟩,
        sampleApplied ⟨⟨[]⟩, some 10, none, none⟩,
        .accepted ⟨⟨[]⟩, some 10, ["cred_aaaa0001"]⟩ true] := by
  refine ⟨_, rfl, rfl, ?_⟩
  rintro ⟨p, hp, hquarantined, -⟩
  cases hp
  cases hquarantined

end SingboxVpn.ExternalReconciler
