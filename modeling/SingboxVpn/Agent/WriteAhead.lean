import SingboxVpn.Agent.External
import SingboxVpn.Agent.LeasePool

/-!
# What is applied is on disk

Both reconcilers of the agent save a change before `vpn-admin` is run on it, so that a process
that is killed meanwhile finds on disk what may be live.  A save that fails ends the tick but not
the process: the change stays in memory, and the next tick sees nothing new to save.

* `ExternalReconciler.applies_stored`, `SlotPool.applies_stored` — what is applied is on disk in
  runs where no tick follows a failed save.
-/

namespace SingboxVpn.ExternalReconciler

open Fallible Snapshot

/-! ### The external reconciler -/

/-- What a file holds, whether or not it passes the check of a restart. -/
def stored : Option StateFile → PersistedExternalState
  | none => .empty
  | some file => file.state

variable {file : Option StateFile}

theorem loadState_stored {state : PersistedExternalState} (h : loadState file = .ok state) :
    state = stored file := by
  cases file with
  | none =>
    cases h
    rfl
  | some file =>
    obtain ⟨-, hstate⟩ := Check.bind_ok.mp h
    cases hstate
    rfl

def Holds (file : Option StateFile) (desired : AuthorizationSet) (revision : Option Nat) : Prop :=
  ((stored file).desired = desired ∧ (stored file).snapshotRevision = revision) ∧
    ∀ state, loadState file = .ok state →
      state.desired = desired ∧ state.snapshotRevision = revision

theorem holds_iff {desired : AuthorizationSet} {revision : Option Nat} :
    Holds file desired revision ↔
      (stored file).desired = desired ∧ (stored file).snapshotRevision = revision := by
  refine ⟨And.left, fun h => ⟨h, fun state hload => ?_⟩⟩
  rw [loadState_stored hload]
  exact h

def AppliesStored (log : List Observation) : Prop :=
  ∀ d r f ok, .applied d r f ok ∈ log → Holds f d r

def InStep (w : World) : Prop :=
  Holds w.file w.proc.state.desired w.proc.state.snapshotRevision

/-- Unless a save is outstanding, the file has what the process holds. -/
structure Durable (w : World) : Prop where
  held : w.outstanding = false → InStep w
  applies : AppliesStored w.log

/-- No tick is run once the save of an adopted snapshot has failed: the process is restarted. -/
def SavesAhead (w : World) : Event → Prop
  | .tick _ => w.outstanding = false
  | .restart => True

def opened (file : Option StateFile) (state : PersistedExternalState) : World :=
  ⟨.open state, file, false, []⟩

section Durable

def Written (w : World) : Prop := w.outstanding = false ∧ InStep w ∧ AppliesStored w.log

variable {w : World}

theorem Written.durable (h : Written w) : Durable w := ⟨fun _ => h.2.1, h.2.2⟩

theorem Durable.saved (h : Durable w) : Durable w.saved :=
  ⟨fun _ => holds_iff.mpr ⟨rfl, rfl⟩, h.applies⟩

theorem appliesStored_cons {o : Observation} {log : List Observation} (hold : AppliesStored log)
    (hnew : ∀ d r f ok, o = .applied d r f ok → Holds f d r) : AppliesStored (o :: log) := by
  intro d r f ok h
  rcases List.mem_cons.mp h with heq | h
  · exact hnew d r f ok heq.symm
  · exact hold d r f ok h

theorem Written.saved (h : Written w) : Written w.saved :=
  ⟨h.1, holds_iff.mpr ⟨rfl, rfl⟩, h.2.2⟩

/-- The file at the time of a run is the one the process is in step with. -/
theorem Written.ran (h : Written w) (live : Bool) : Written (w.ran live) := by
  refine ⟨h.1, h.2.1, appliesStored_cons h.2.2 fun d r f ok heq => ?_⟩
  cases heq
  exact h.2.1

theorem Written.sent (h : Written w) (revision : Nat) : Written (w.sent revision) :=
  ⟨h.1, h.2.1, appliesStored_cons h.2.2 nofun⟩

theorem written_fetchSnapshot (rfc3339 : Rfc3339) (t : Tick) :
    Ensures Written (fetchSnapshot rfc3339 t) (fun _ => Written) Durable := by
  apply ensures_fetchSnapshot
  · exact fun _ h => h
  · exact fun _ _ h => h
  · exact fun _ _ h _ _ => ⟨h.1, h.2.1, appliesStored_cons h.2.2 nofun⟩
  · exact fun _ _ _ h _ => ⟨rfl, holds_iff.mpr ⟨rfl, rfl⟩, appliesStored_cons h.2.2 nofun⟩
  · exact fun _ _ _ h _ => ⟨nofun, appliesStored_cons h.2.2 nofun⟩
  · exact fun _ h => h.saved

theorem written_applyDesired (t : Tick) :
    Ensures Written (applyDesired t) (fun _ => Written) Durable := by
  apply ensures_applyDesired
  · exact fun _ h _ => h
  · exact fun _ h => h.durable
  · exact fun _ h => (h.ran false).durable
  · intro w h
    have hproved : Written ((w.ran true).proved t.now) := h.ran true
    exact hproved.saved
  · intro w h
    have hproved : Written ((w.ran true).proved t.now) := h.ran true
    exact hproved.durable
  · exact fun _ h => h.saved

theorem written_acknowledge (t : Tick) :
    Ensures Written (acknowledge t) (fun _ => Written) Durable := by
  apply ensures_acknowledge
  · exact fun _ h => h
  · exact fun _ r h _ => (h.sent r).durable
  · intro w r h _
    have hacked : Written ((w.sent r).acked r) := h.sent r
    exact hacked.saved
  · intro w r h _
    have hacked : Written ((w.sent r).acked r) := h.sent r
    exact hacked.durable
  · exact fun _ h => h.saved

theorem durable_tick (rfc3339 : Rfc3339) (t : Tick) :
    Ensures Written (tick rfc3339 t) (fun _ => Durable) Durable := by
  have hwritten : Ensures Written (tick rfc3339 t) (fun _ => Written) Durable :=
    ensures_tick (written_fetchSnapshot rfc3339 t) (written_applyDesired t) (written_acknowledge t)
      fun _ h => h.durable
  exact hwritten.weaken (fun _ h => h) (fun _ _ h => h.durable) (fun _ h => h)

end Durable

theorem inStep_of_load {state : PersistedExternalState} (hload : loadState file = .ok state)
    (outstanding : Bool) (log : List Observation) :
    InStep ⟨.open state, file, outstanding, log⟩ := by
  rw [loadState_stored hload]
  exact holds_iff.mpr ⟨rfl, rfl⟩

theorem applies_stored {rfc3339 : Rfc3339} {state : PersistedExternalState} {w : World}
    (hload : loadState file = .ok state)
    (hrun : Runs.Leads (step rfc3339) SavesAhead (opened file state) w) : AppliesStored w.log := by
  have hkeep : ∀ w e w', Durable w → SavesAhead w e → step rfc3339 w e = some w' → Durable w' := by
    intro w e w' h hsaved hstep
    cases e with
    | tick t =>
      cases hstep
      exact (durable_tick rfc3339 t).state ⟨hsaved, h.held hsaved, h.applies⟩
    | restart =>
      obtain ⟨state, hload, rfl⟩ := Option.map_eq_some_iff.mp hstep
      exact ⟨fun _ => inStep_of_load (loaded_of_toOption hload) _ _, h.applies⟩
  have hopened : Durable (opened file state) := ⟨fun _ => inStep_of_load hload _ _, nofun⟩
  exact (hrun.invariant Durable hkeep hopened).applies

end SingboxVpn.ExternalReconciler

namespace SingboxVpn.SlotPool

open Fallible

/-! ### The lease pool -/

def secrets (s : Slot) : Nat × Nat × String × String :=
  (s.slot, s.generation, s.vlessUuid, s.hysteria2Password)

def Holds (file : Option LeaseState) (slots : List Slot) : Prop :=
  ((stored file).slots.map secrets).Perm (slots.map secrets) ∧
    ∀ draws, ((loadState draws file).slots.map secrets).Perm (slots.map secrets)

variable {file : Option LeaseState}

theorem holds_iff {slots : List Slot} :
    Holds file slots ↔ ((stored file).slots.map secrets).Perm (slots.map secrets) := by
  refine ⟨And.left, fun h => ⟨h, fun draws => ?_⟩⟩
  rw [map_loadState fun _ _ _ => rfl]
  exact h

def AppliesStored (applies : List Applied) : Prop := ∀ a ∈ applies, Holds a.file a.slots

structure Durable (w : World) : Prop where
  held : w.outstanding = false → Holds w.file w.pool.state.slots
  applies : AppliesStored w.applies

/-- No tick is run once the save of a plan has failed: the process is restarted. -/
def SavesAhead (w : World) : Event → Prop
  | .tick _ => w.outstanding = false
  | .restart _ => True

section Durable

variable {rfc3339 : Rfc3339} {format : FormatTime} {t : Tick}

structure Written (w : World) : Prop where
  saved : w.outstanding = false
  held : Holds w.file w.pool.state.slots
  applies : AppliesStored w.applies

variable {w : World}

theorem Written.durable (h : Written w) : Durable w := ⟨fun _ => h.held, h.applies⟩

theorem holds_saved (state : LeaseState) : Holds (some state) state.slots :=
  holds_iff.mpr (List.Perm.refl _)

theorem written_planPool : Ensures Written (planPool t) (fun _ => Written) Durable := by
  apply ensures_planPool
  · intro w h hsame
    obtain ⟨-, hperm, -⟩ := planned_unchanged hsame
    exact ⟨h.saved, holds_iff.mpr (h.held.1.trans (hperm.map secrets).symm), h.applies⟩
  · exact fun w h _ => ⟨rfl, holds_saved _, h.applies⟩
  · exact fun _ w h => ⟨nofun, h.applies⟩

theorem written_synced {w' : World} (h : Written w) (hsynced : Synced rfc3339 format t w w') :
    Written w' := by
  obtain ⟨body, resp, state, view, obfsStored, -, -, habsorb, rfl⟩ := hsynced
  refine ⟨h.saved, holds_iff.mpr ?_, h.applies⟩
  show ((stored w.file).slots.map secrets).Perm ((synced t state view).slots.map secrets)
  rw [map_synced (fun _ _ _ _ _ => rfl) habsorb]
  exact h.held.1

theorem written_closed : Closed rfc3339 format t Written where
  saved _ h := ⟨rfl, holds_saved _, h.applies⟩
  ran _ h := ⟨h.saved, h.held, List.forall_mem_cons.mpr ⟨h.held, h.applies⟩⟩
  proved _ _ h := ⟨h.saved, h.held, h.applies⟩
  answer _ _ h := ⟨h.saved, h.held, h.applies⟩
  synced _ _ h hsynced := written_synced h hsynced

end Durable

theorem holds_load (file : Option LeaseState) (draws : Nat → MintDraw) :
    Holds file (loadState draws file).slots := by
  apply holds_iff.mpr
  rw [map_loadState fun _ _ _ => rfl]

theorem applies_stored {rfc3339 : Rfc3339} {format : FormatTime} {draws : Nat → MintDraw}
    {w : World} (hrun : Runs.Leads (step rfc3339 format) SavesAhead (opened file draws) w) :
    AppliesStored w.applies := by
  have hkeep : ∀ w e w', Durable w → SavesAhead w e → step rfc3339 format w e = some w' →
      Durable w' := by
    intro w e w' h hsaved hstep
    cases hstep
    cases e with
    | tick t =>
      have htick : Ensures Written (tick rfc3339 format t) (fun _ => Durable) Durable :=
        (ensures_tick_closed written_planPool written_closed fun _ h => h.durable).weaken
          (fun _ h => h) (fun _ _ h => h.durable) (fun _ h => h)
      exact htick.state ⟨hsaved, h.held hsaved, h.applies⟩
    | restart draws => exact ⟨fun _ => holds_load w.file draws, h.applies⟩
  have hopened : Durable (opened file draws) := ⟨fun _ => holds_load file draws, nofun⟩
  exact (hrun.invariant Durable hkeep hopened).applies

end SingboxVpn.SlotPool

namespace SingboxVpn

open Fallible

/-! ### Both reconcilers -/

/-- Whenever either reconciler runs `vpn-admin`, the file at that moment has what is applied: the
    desired set and its revision, or the slots with their generations and secrets. -/
theorem applied_is_stored {rfc3339 : Rfc3339} {format : SlotPool.FormatTime}
    {file : Option Snapshot.StateFile} {state : Snapshot.PersistedExternalState}
    {external : ExternalReconciler.World} {leases : Option SlotPool.LeaseState}
    {draws : Nat → SlotPool.MintDraw} {pool : SlotPool.World}
    (hload : Snapshot.loadState file = .ok state)
    (hexternal : Runs.Leads (ExternalReconciler.step rfc3339) ExternalReconciler.SavesAhead
      (ExternalReconciler.opened file state) external)
    (hpool : Runs.Leads (SlotPool.step rfc3339 format) SlotPool.SavesAhead
      (SlotPool.opened leases draws) pool) :
    ExternalReconciler.AppliesStored external.log ∧ SlotPool.AppliesStored pool.applies :=
  ⟨ExternalReconciler.applies_stored hload hexternal, SlotPool.applies_stored hpool⟩

/-- A first tick of each, with every save successful. -/
theorem applied_is_stored_first :
    ∃ (external : ExternalReconciler.World) (pool : SlotPool.World),
      external.log.length = 3 ∧ pool.applies.length = 1 ∧
      ExternalReconciler.AppliesStored external.log ∧ SlotPool.AppliesStored pool.applies := by
  have hexternal : Runs.Leads (ExternalReconciler.step sampleParse)
      ExternalReconciler.SavesAhead (ExternalReconciler.opened none .empty)
      (exec (ExternalReconciler.tick sampleParse
        (ExternalReconciler.sampleTick (some (ExternalReconciler.sampleSnapshot []))))
          (ExternalReconciler.opened none .empty)).2 :=
    (Runs.Leads.refl _).snoc (e := .tick (ExternalReconciler.sampleTick
      (some (ExternalReconciler.sampleSnapshot [])))) rfl rfl
  have hpool : Runs.Leads (SlotPool.step sampleParse SlotPool.sampleFormat)
      SlotPool.SavesAhead (SlotPool.opened none (SlotPool.sampleDraw ""))
      (exec (SlotPool.tick sampleParse SlotPool.sampleFormat
        (SlotPool.sampleTick 1 1000 "a")) (SlotPool.opened none (SlotPool.sampleDraw ""))).2 :=
    (Runs.Leads.refl _).snoc (e := .tick (SlotPool.sampleTick 1 1000 "a")) rfl
      (SlotPool.step_tick _ _)
  exact ⟨_, _, rfl, rfl, applied_is_stored rfl hexternal hpool⟩

/-- The save of a change fails, and the next tick of the same process applies the change: nothing
    of it is on disk. -/
theorem failed_save_applied :
    (∃ external, Runs.after (ExternalReconciler.step sampleParse)
        (ExternalReconciler.opened none .empty)
        [.tick { ExternalReconciler.sampleTick (some (ExternalReconciler.sampleSnapshot [])) with
            saveAdopted := .notInstalled "no space left on device" },
          .tick (ExternalReconciler.sampleTick none)] = some external ∧
      ¬ ExternalReconciler.AppliesStored external.log) ∧
    ∃ pool, Runs.after (SlotPool.step sampleParse SlotPool.sampleFormat)
        (SlotPool.opened none (SlotPool.sampleDraw ""))
        [.tick { SlotPool.sampleTick 1 1000 "a" with
            savePlanned := .error "no space left on device" },
          .tick (SlotPool.sampleTick 1 1100 "b")] = some pool ∧
      ¬ SlotPool.AppliesStored pool.applies := by
  refine ⟨⟨_, rfl, fun h => ?_⟩, ⟨_, rfl, fun h => ?_⟩⟩
  · have hholds := h _ _ _ _ (List.mem_cons_of_mem _ List.mem_cons_self)
    have hrevision : (none : Option Nat) = some 10 := hholds.1.2
    cases hrevision
  · have hholds := h _ List.mem_cons_self
    have hlength : 0 = 1 := hholds.1.length_eq
    cases hlength

end SingboxVpn
