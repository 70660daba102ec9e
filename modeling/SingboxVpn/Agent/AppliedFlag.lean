import SingboxVpn.Admin.LeaseSync
import SingboxVpn.Agent.LeasePool
import SingboxVpn.Lib.Run

/-!
# What the agent's `applied` flag says

The flag of a lease state is to say that its slots are what the last live run of `vpn-admin` was
given.  Planning and renewing take it back; an answer that withdraws a slot does not, and neither
does a restart from a file that is older than the last live run.
-/

namespace SingboxVpn.SlotPool

open Fallible
open LeasePool (LeasePoolInput Renewal)

/-! ### The flag -/

def World.lastLive (w : World) : Option LeasePoolInput :=
  (w.applies.find? (·.live)).map (·.input)

/-- A slot of the current schema that is not withdrawn.  Loading takes a start at the epoch for a
    missing one. -/
structure Slot.Plain (s : Slot) : Prop where
  kept : s.revoked = false
  native : s.cls = .native
  principal : s.principalId ≠ ""
  credential : s.credentialId ≠ ""
  started : s.validFrom ≠ 0

structure Tidy (state : LeaseState) : Prop where
  numbers : ∃ size, state.slots.map Slot.slot = List.range size
  plain : ∀ s ∈ state.slots, s.Plain

structure Truthful (w : World) : Prop where
  memory : Tidy w.pool.state
  file : Tidy (stored w.file)
  applied : w.pool.state.applied = true → w.lastLive = some (vpnAdminInput w.pool.state)
  saved : (stored w.file).applied = true → w.lastLive = some (vpnAdminInput (stored w.file))

def Renewed (w : World) : Prop :=
  ∃ old, w.lastLive = some old ∧ Renewal old (vpnAdminInput w.pool.state)

theorem Tidy.nodup {state : LeaseState} (h : Tidy state) : (state.slots.map Slot.slot).Nodup := by
  obtain ⟨size, hnumbers⟩ := h.numbers
  rw [hnumbers]
  exact List.nodup_range

theorem Tidy.sorted {state : LeaseState} (h : Tidy state) :
    state.slots.Pairwise fun a b => a.slot < b.slot := by
  obtain ⟨size, hnumbers⟩ := h.numbers
  rw [← List.pairwise_map, hnumbers]
  exact List.pairwise_lt_range

theorem tidy_empty : Tidy .empty := ⟨⟨0, rfl⟩, nofun⟩

theorem loadState_tidy {file : Option LeaseState} (h : Tidy (stored file))
    (draws : Nat → MintDraw) : loadState draws file = stored file := by
  cases file with
  | none => rfl
  | some state =>
    have hslots : (loadState draws (some state)).slots.map id = state.slots.map id := by
      refine map_loadState (fun d s hs => ?_) draws
      have hplain := h.plain s hs
      simp [migrate, hplain.principal, hplain.credential, hplain.started]
    rw [List.map_id, List.map_id] at hslots
    show { state with slots := (loadState draws (some state)).slots } = state
    rw [hslots]

/-! ### Planning -/

section Plan

variable {t : Tick} {pool : Pool}

theorem planned_tidy (h : Tidy pool.state) (hnow : t.now ≠ 0) : Tidy (planned t pool).1 := by
  refine ⟨⟨_, planned_numbers h.nodup⟩, fun s hs => ?_⟩
  -- a slot that is made now starts now
  have hmint : ∀ d slot generation principal, principal ≠ "" →
      { mint d slot generation t.now t.cfg.lifetime t.cfg.grid with
        principalId := principal }.Plain := by
    intro d slot generation principal hprincipal
    exact ⟨rfl, rfl, hprincipal, by simp [mint, MintDraw.credentialId], hnow⟩
  rcases planned_origin h.nodup hs with ⟨hkept, -⟩ | ⟨e, he, rfl⟩ | ⟨-, -, hnew⟩
  · exact h.plain s hkept
  · exact hmint _ _ _ _ (h.plain e he).principal
  · rw [hnew]
    exact hmint _ _ _ _ (by simp [MintDraw.principalId])

theorem planned_slots_same (h : Tidy pool.state) (hsame : (planned t pool).2 = false) :
    (planned t pool).1.slots = pool.state.slots := by
  obtain ⟨-, hperm, -⟩ := planned_unchanged hsame
  have hsorted : (planned t pool).1.slots.Pairwise fun a b => a.slot < b.slot := by
    rw [← List.pairwise_map, planned_numbers h.nodup]
    exact List.pairwise_lt_range
  refine hperm.eq_of_pairwise (fun a b _ _ hab hba => ?_) hsorted h.sorted
  exact absurd hab (not_lt_of_gt hba)

theorem vpnAdminInput_congr {state state' : LeaseState} (h : state'.slots = state.slots) :
    vpnAdminInput state' = vpnAdminInput state := by
  simp only [vpnAdminInput, h]

end Plan

/-! ### Answers -/

def RemoteView.Keeps (view : RemoteView) (slots : List Slot) : Prop :=
  ∀ s ∈ slots, ∀ entry, view.entry s = some entry → entry.state ≠ "revoked"

section Answer

variable {view : RemoteView} {later lifetime grid : Int} {s : Slot}

theorem absorbSlot_kept (hplain : s.Plain)
    (hkeeps : ∀ entry, view.entry s = some entry → entry.state ≠ "revoked") :
    absorbSlot view s = { s with reported := (view.entry s).isSome } := by
  have hnot : (view.entry s).any (·.state == "revoked") = false := by
    cases hentry : view.entry s with
    | none => rfl
    | some entry => simpa using hkeeps entry hentry
  unfold absorbSlot
  rw [hnot, ← hplain.kept]

theorem syncSlot_kept (hplain : s.Plain)
    (hkeeps : ∀ entry, view.entry s = some entry → entry.state ≠ "revoked") (hlater : later ≠ 0) :
    (syncSlot view later lifetime grid s).Plain ∧
      (slotInput s).RenewedTo (slotInput (syncSlot view later lifetime grid s)) := by
  unfold syncSlot
  rw [absorbSlot_kept hplain hkeeps]
  cases hext : extension view later lifetime grid
      { s with reported := (view.entry s).isSome } with
  | none =>
    exact ⟨⟨hplain.kept, hplain.native, hplain.principal, hplain.credential, hplain.started⟩,
      .inl rfl⟩
  | some s' =>
    obtain ⟨next, hnext, -, rfl⟩ := extension_some hext
    refine ⟨⟨rfl, hplain.native, hplain.principal, hplain.credential, hlater⟩, ?_⟩
    refine .inr ⟨later, next, hnext, ?_⟩
    show slotInput _ = _
    simp only [Option.getD_some, slotInput, hplain.kept]

variable {rfc3339 : Rfc3339} {t : Tick} {state state' : LeaseState} {resp : Json}

theorem synced_tidy (h : Tidy state) (hlater : t.later ≠ 0)
    (habsorb : absorbSyncResponse rfc3339 state resp = .ok (state', view))
    (hkeeps : view.Keeps state.slots) :
    Tidy (synced t state' view) ∧
      Renewal (vpnAdminInput state) (vpnAdminInput (synced t state' view)) := by
  have hslots := (synced_slots (t := t) habsorb).1
  refine ⟨⟨?_, fun s hs => ?_⟩, ?_⟩
  · rw [map_synced (fun _ _ _ _ _ => rfl) habsorb]
    exact h.numbers
  · rw [hslots] at hs
    obtain ⟨s₀, hs₀, rfl⟩ := List.mem_map.mp hs
    exact (syncSlot_kept (h.plain s₀ hs₀) (hkeeps s₀ hs₀) hlater).1
  · unfold Renewal
    rw [vpnAdminInput_slots, vpnAdminInput_slots, hslots, List.forall₂_map_left_iff,
      List.forall₂_map_right_iff, List.forall₂_map_right_iff]
    exact List.forall₂_same.mpr fun s hs =>
      (syncSlot_kept (h.plain s hs) (hkeeps s hs) hlater).2

theorem synced_applied (h : Tidy state)
    (habsorb : absorbSyncResponse rfc3339 state resp = .ok (state', view))
    (hkeeps : view.Keeps state.slots) (happlied : (synced t state' view).applied = true) :
    vpnAdminInput (synced t state' view) = vpnAdminInput state := by
  obtain ⟨view', -, hok⟩ := Check.bind_eq_ok.mp habsorb
  obtain ⟨rfl, rfl⟩ := Prod.mk.inj (Except.ok.inj hok)
  simp only [synced, adoptExtensions, Bool.and_eq_true, beq_iff_eq, List.length_eq_zero_iff,
    List.filterMap_eq_nil_iff] at happlied
  have hnone := happlied.2
  simp only [vpnAdminInput, synced, adoptExtensions, List.map_map]
  congr 1
  refine List.map_congr_left fun s hs => ?_
  have hs' := hnone (absorbSlot view' s) (List.mem_map_of_mem hs)
  simp only [Function.comp_apply, hs', Option.getD_none]
  rw [absorbSlot_kept (h.plain s hs) (hkeeps s hs)]
  rfl

end Answer

/-! ### One tick -/

def World.liveRuns (w : World) : Nat := w.applies.countP (·.live)

/-- What the flag needs of a tick: the clock is not at the epoch, the answer withdraws no slot of
    the pool, and a file that is not replaced after a live run does not call an older pool
    applied. -/
def Quiet (rfc3339 : Rfc3339) (w : World) : Event → Prop
  | .tick t => t.now ≠ 0 ∧ t.later ≠ 0 ∧
      (∀ resp view, t.answer = .ok resp → readView rfc3339 resp = .ok view →
        view.Keeps (planned t w.pool).1.slots) ∧
      (t.saveApplied = .ok () ∨ (planned t w.pool).2 = true ∨ (stored w.file).applied = false)
  | .restart _ => True

structure Ready (w₀ : World) (t : Tick) (settled : Bool) (w : World) : Prop where
  truthful : Truthful w
  slots : w.pool.state.slots = (planned t w₀.pool).1.slots
  runs : w.applies = w₀.applies
  renewed : settled = true → (planned t w₀.pool).2 = false → Renewed w
  file : t.saveApplied = .ok () ∨ (stored w.file).applied = false

structure Live (w₀ : World) (t : Tick) (w : World) : Prop where
  truthful : Truthful w
  slots : w.pool.state.slots = (planned t w₀.pool).1.slots
  applied : w.pool.state.applied = true

structure TickEnded (w₀ : World) (t : Tick) (settled : Bool) (w : World) : Prop where
  truthful : Truthful w
  renewed : w₀.liveRuns < w.liveRuns ∨ (settled = true ∧ (planned t w₀.pool).2 = false) → Renewed w

section Steps

variable {w₀ w w' : World} {t : Tick} {settled : Bool} {rfc3339 : Rfc3339} {format : FormatTime}

theorem truthful_plan (h : Truthful w) (hnow : t.now ≠ 0) : Truthful (w.plan t) := by
  refine ⟨planned_tidy h.memory hnow, h.file, fun happlied => ?_, h.saved⟩
  have hflag : (w.pool.state.applied && !(planned t w.pool).2) = true := by
    rw [← planned_applied]
    exact happlied
  rw [Bool.and_eq_true, Bool.not_eq_true'] at hflag
  have hinput : vpnAdminInput (w.plan t).pool.state = vpnAdminInput w.pool.state :=
    vpnAdminInput_congr (planned_slots_same h.memory hflag.2)
  rw [hinput]
  exact h.applied hflag.1

theorem renewed_plan (h : Tidy w.pool.state) (hrenewed : Renewed w)
    (hsame : (planned t w.pool).2 = false) : Renewed (w.plan t) := by
  obtain ⟨old, hlive, hrenewal⟩ := hrenewed
  refine ⟨old, hlive, ?_⟩
  have hinput : vpnAdminInput (w.plan t).pool.state = vpnAdminInput w.pool.state :=
    vpnAdminInput_congr (planned_slots_same h hsame)
  rw [hinput]
  exact hrenewal

theorem Truthful.saved_now (h : Truthful w) : Truthful w.saved :=
  ⟨h.memory, h.memory, h.applied, h.applied⟩

theorem lastLive_ran (child : Jobs.Child) (w : World) :
    (w.ran child).lastLive =
      if (proveLive child).toBool then some (vpnAdminInput w.pool.state) else w.lastLive := by
  unfold World.lastLive World.ran
  cases (proveLive child).toBool <;> rfl

theorem Truthful.ran_dead (h : Truthful w) {child : Jobs.Child}
    (hdead : (proveLive child).toBool = false) : Truthful (w.ran child) := by
  have hlast : (w.ran child).lastLive = w.lastLive := by
    rw [lastLive_ran, hdead]
    rfl
  refine ⟨h.memory, h.file, fun happlied => ?_, fun happlied => ?_⟩
  · rw [hlast]
    exact h.applied happlied
  · rw [hlast]
    exact h.saved happlied

theorem lastLive_proved {obfs : Option String} {child : Jobs.Child}
    (hlive : proveLive child = .ok obfs) :
    ((w.ran child).proved obfs).lastLive =
      some (vpnAdminInput ((w.ran child).proved obfs).pool.state) := by
  show (w.ran child).lastLive = _
  rw [lastLive_ran, hlive]
  rfl

/-- Before anything else happens, a live run is only as old as the pool in memory. -/
theorem Live.renewed (h : Live w₀ t w) : Renewed w :=
  ⟨_, h.truthful.applied h.applied, Renewal.refl _⟩

theorem Live.ended (h : Live w₀ t w) : TickEnded w₀ t settled w := ⟨h.truthful, fun _ => h.renewed⟩

theorem Ready.ended (h : Ready w₀ t settled w) : TickEnded w₀ t settled w := by
  refine ⟨h.truthful, ?_⟩
  rintro (hmore | ⟨hsettled, hsame⟩)
  · rw [World.liveRuns, World.liveRuns, h.runs] at hmore
    exact absurd hmore (lt_irrefl _)
  · exact h.renewed hsettled hsame

theorem ready_planPool (h : Truthful w₀) (hrenewed : settled = true → Renewed w₀)
    (hquiet : Quiet rfc3339 w₀ (.tick t)) :
    Ensures (fun w => w = w₀) (planPool t) (fun _ => Ready w₀ t settled)
      (TickEnded w₀ t settled) := by
  obtain ⟨hnow, -, -, hfile⟩ := hquiet
  have hplan := truthful_plan h hnow
  apply ensures_planPool
  · rintro w rfl hsame
    refine ⟨hplan, rfl, rfl, fun hsettled _ => renewed_plan h.memory (hrenewed hsettled) hsame, ?_⟩
    rcases hfile with hsave | hchanged | hold
    · exact .inl hsave
    · rw [hsame] at hchanged
      cases hchanged
    · exact .inr hold
  · rintro w rfl hchanged
    refine ⟨hplan.saved_now, rfl, rfl, fun _ hsame => ?_, .inr ?_⟩
    · rw [hchanged] at hsame
      cases hsame
    · show (planned t w.pool).1.applied = false
      rw [planned_applied, hchanged, Bool.not_true, Bool.and_false]
  · rintro - w rfl
    have hready : TickEnded w t settled (w.plan t) := by
      refine ⟨hplan, ?_⟩
      rintro (hmore | ⟨hsettled, hsame⟩)
      · exact absurd hmore (lt_irrefl _)
      · exact renewed_plan h.memory (hrenewed hsettled) hsame
    exact ⟨⟨hplan.memory, hplan.file, hplan.applied, hplan.saved⟩, hready.renewed⟩

theorem live_applyPool :
    Ensures (Ready w₀ t settled) (applyPool t) (fun _ => Live w₀ t) (TickEnded w₀ t settled) := by
  apply ensures_applyPool
  · exact fun w h happlied => ⟨h.truthful, h.slots, happlied⟩
  · exact fun w h => h.ended
  · intro hdead w h
    have hnot : (proveLive t.child).toBool = false := by
      cases hlive : proveLive t.child with
      | error e => rfl
      | ok obfs => exact absurd hlive (hdead obfs)
    refine ⟨h.truthful.ran_dead hnot, fun hor => ?_⟩
    have hruns : (w.ran t.child).liveRuns = w.liveRuns := by
      simp [World.liveRuns, World.ran, hnot]
    rw [hruns] at hor
    obtain ⟨old, hlast, hrenewal⟩ := h.ended.renewed hor
    refine ⟨old, ?_, hrenewal⟩
    rw [lastLive_ran, hnot]
    exact hlast
  · intro w obfs hlive h
    have hmemory : Tidy ((w.ran t.child).proved obfs).pool.state :=
      ⟨h.truthful.memory.numbers, h.truthful.memory.plain⟩
    exact ⟨⟨hmemory, hmemory, fun _ => lastLive_proved hlive, fun _ => lastLive_proved hlive⟩,
      h.slots, rfl⟩
  · intro hsave w obfs hlive h
    have hmemory : Tidy ((w.ran t.child).proved obfs).pool.state :=
      ⟨h.truthful.memory.numbers, h.truthful.memory.plain⟩
    refine ⟨⟨hmemory, h.truthful.file, fun _ => lastLive_proved hlive, fun hold => ?_⟩,
      fun _ => ⟨_, lastLive_proved hlive, Renewal.refl _⟩⟩
    -- the file that stays does not call its pool applied
    have hfile : (stored w.file).applied = true := hold
    rw [h.file.resolve_left hsave] at hfile
    cases hfile

theorem synced_ended (hquiet : Quiet rfc3339 w₀ (.tick t)) (h : Live w₀ t w)
    (hsynced : Synced rfc3339 format t w w') : TickEnded w₀ t settled w' := by
  obtain ⟨-, hlater, hkeeps, -⟩ := hquiet
  obtain ⟨body, resp, state, view, obfsStored, -, hanswer, habsorb, rfl⟩ := hsynced
  obtain ⟨view', hview, hok⟩ := Check.bind_eq_ok.mp habsorb
  obtain rfl : view' = view := (Prod.mk.inj (Except.ok.inj hok)).2
  have hkept : view'.Keeps w.pool.state.slots := by
    rw [h.slots]
    exact hkeeps resp view' hanswer hview
  have hlast := h.truthful.applied h.applied
  obtain ⟨htidy, hrenewal⟩ := synced_tidy (t := t) h.truthful.memory hlater habsorb hkept
  refine ⟨⟨htidy, h.truthful.file, fun happlied => ?_, h.truthful.saved⟩,
    fun _ => ⟨_, hlast, hrenewal⟩⟩
  show w.lastLive = some (vpnAdminInput (synced t state view'))
  rw [synced_applied h.truthful.memory habsorb hkept happlied]
  exact hlast

theorem ended_sync (hquiet : Quiet rfc3339 w₀ (.tick t)) :
    Ensures (Live w₀ t) (sync rfc3339 format t) (fun _ => TickEnded w₀ t settled)
      (TickEnded w₀ t settled) := by
  apply ensures_sync
  · exact fun w h => h.ended
  · intro w body h
    have hended : TickEnded w₀ t settled w := h.ended
    exact ⟨⟨h.truthful.memory, h.truthful.file, h.truthful.applied, h.truthful.saved⟩,
      hended.renewed⟩
  · exact fun w w' h hsynced _ => synced_ended hquiet h hsynced
  · intro w w' h hsynced
    have hended : TickEnded w₀ t settled w' := synced_ended hquiet h hsynced
    exact ⟨hended.truthful.saved_now, hended.renewed⟩
  · exact fun _ w w' h hsynced => synced_ended hquiet h hsynced

theorem ended_tick (h : Truthful w₀) (hrenewed : settled = true → Renewed w₀)
    (hquiet : Quiet rfc3339 w₀ (.tick t)) :
    TickEnded w₀ t settled (next rfc3339 format w₀ (.tick t)) := by
  have htick : Ensures (fun w => w = w₀) (tick rfc3339 format t) (fun _ => TickEnded w₀ t settled)
      (TickEnded w₀ t settled) :=
    ensures_tick (ready_planPool h hrenewed hquiet) live_applyPool (ended_sync hquiet)
      fun _ h => h.ended
  exact htick.state rfl

theorem truthful_reopen (h : Truthful w) (draws : Nat → MintDraw) : Truthful (reopen w draws) := by
  have hloaded : (reopen w draws).pool.state = stored w.file := loadState_tidy h.file draws
  refine ⟨?_, h.file, ?_, h.saved⟩
  · rw [hloaded]
    exact h.file
  · rw [hloaded]
    exact h.saved

end Steps

/-! ### Runs -/

/-- A world, and whether since the last live run the process has not been restarted and no plan has
    changed the pool. -/
structure Watched where
  world : World
  settled : Bool

def Watched.next (rfc3339 : Rfc3339) (format : FormatTime) (v : Watched) (e : Event) : Watched where
  world := SlotPool.next rfc3339 format v.world e
  settled := match e with
    | .tick t =>
      decide (v.world.liveRuns < (SlotPool.next rfc3339 format v.world e).liveRuns) ||
        (v.settled && !(planned t v.world.pool).2)
    | .restart _ => false

def Watched.Inv (v : Watched) : Prop := Truthful v.world ∧ (v.settled = true → Renewed v.world)

section Runs

variable {rfc3339 : Rfc3339} {format : FormatTime} {v : Watched}

theorem Watched.inv_next {e : Event} (h : v.Inv) (hquiet : Quiet rfc3339 v.world e) :
    (v.next rfc3339 format e).Inv := by
  obtain ⟨htruthful, hrenewed⟩ := h
  cases e with
  | tick t =>
    have hended : TickEnded v.world t v.settled (SlotPool.next rfc3339 format v.world (.tick t)) :=
      ended_tick htruthful hrenewed hquiet
    refine ⟨hended.truthful, fun hsettled => hended.renewed ?_⟩
    simpa [Watched.next] using hsettled
  | restart draws => exact ⟨truthful_reopen htruthful draws, nofun⟩

/-- In runs of quiet ticks and restarts the flag tells the truth.  If nothing but renewals has
    happened since the last live run, the next run of `vpn-admin` is given new windows of renewed
    slots and nothing else that is new; on a node that serves the pool as it was, this adds and
    withdraws no credential and leaves sing-box running. -/
theorem applied_flag_truthful
    (hrun : Runs.Leads (Runs.total (Watched.next rfc3339 format)) (fun v => Quiet rfc3339 v.world)
      ⟨start, false⟩ v) :
    (v.world.pool.state.applied = true →
      v.world.lastLive = some (vpnAdminInput v.world.pool.state)) ∧
    (v.settled = true → ∀ t, (planned t v.world.pool).2 = false →
      ∃ old, v.world.lastLive = some old ∧
        Renewal old (vpnAdminInput (planned t v.world.pool).1) ∧
        ∀ inst cfg now host tokenHash now' a store store',
          Apply.LaterSync inst cfg old (vpnAdminInput (planned t v.world.pool).1) now host tokenHash
            now' a store store' →
          LeasePool.enabledCredentials store' = LeasePool.enabledCredentials store ∧
            Killable.Returns (Apply.cmdLeasePoolSync inst cfg tokenHash
              (vpnAdminInput (planned t v.world.pool).1) now' a) host .current
              { host with users := .ok store' }) := by
  have hinv : v.Inv := by
    refine hrun.invariant Watched.Inv ?_ ⟨⟨tidy_empty, tidy_empty, nofun, nofun⟩, nofun⟩
    intro v e v' h hquiet hstep
    cases hstep
    exact Watched.inv_next h hquiet
  obtain ⟨htruthful, hrenewed⟩ := hinv
  refine ⟨htruthful.applied, fun hsettled t hsame => ?_⟩
  obtain ⟨old, hlast, hrenewal⟩ := hrenewed hsettled
  have hinput : vpnAdminInput (planned t v.world.pool).1 = vpnAdminInput v.world.pool.state :=
    vpnAdminInput_congr (planned_slots_same htruthful.memory hsame)
  rw [hinput]
  have hnative : ∀ s ∈ (vpnAdminInput v.world.pool.state).slots, s.cls = some .native := by
    intro s hs
    obtain ⟨s₀, hs₀, rfl⟩ := List.mem_map.mp hs
    exact congrArg some (htruthful.memory.plain s₀ hs₀).native
  refine ⟨old, hlast, hrenewal, fun inst cfg now host tokenHash now' a store store' hsync => ?_⟩
  exact Apply.sync_renewal hsync hrenewal (hrenewal.native hnative)

def sampleAnswer (entry : List (String × Json)) : Json :=
  .object [("as_of", .str "1970-01-01T00:33:20Z"),
    ("slots", .arr [.object ([("slot", .num 0), ("generation", .num 1)] ++ entry)])]

/-- The pool is made live at 1000 and the control plane answers at 2000. -/
def answeredTick (entry : List (String × Json)) : Tick :=
  { sampleTick 1 1000 "a" with
    draws := fun _ => ⟨"principal001", "slot0001", "00000000-0000-4000-8000-00000000000b",
      "0123456789abcdef"⟩
    answer := .ok (sampleAnswer entry)
    later := 2000 }

/-- The lease is to last until 4000. -/
def renewal : List (String × Json) :=
  [("state", .str "leased"), ("extend_to", .str "1970-01-01T01:06:40Z")]

def renewingTick : Tick := answeredTick renewal

theorem renewingTick_quiet : Quiet sampleParse start (.tick renewingTick) := by
  refine ⟨by decide, by decide, fun resp view hanswer hview s _ entry hentry => ?_, .inl rfl⟩
  obtain rfl : sampleAnswer renewal = resp :=
    Except.ok.inj hanswer
  obtain rfl : ⟨2000, 600, [(0, ⟨1, "leased", false, some 4000⟩)]⟩ = view := Except.ok.inj hview
  obtain ⟨hlookup, -⟩ := Option.filter_eq_some_iff.mp hentry
  obtain ⟨before, after, hslots, -⟩ := List.lookup_eq_some_iff.mp hlookup
  have hmem : (s.slot, entry) ∈ before ++ (s.slot, entry) :: after :=
    List.mem_append_right _ List.mem_cons_self
  rw [← hslots] at hmem
  obtain ⟨-, rfl⟩ := Prod.mk.inj (List.mem_singleton.mp hmem)
  decide

def renewedSample : Watched := Watched.next sampleParse sampleFormat ⟨start, false⟩ (.tick renewingTick)

def sampleInput (validFrom expiresAt : Int) : LeasePoolInput :=
  ⟨[⟨0, "00000000-0000-4000-8000-00000000000b", "0123456789abcdef", expiresAt,
    some "native_principal001", some "cred_slot0001", some .native, some validFrom, false⟩]⟩

def sampleAccount (validFrom expiresAt : Int) : CompatUser :=
  { LeasePool.freshLease (fun _ => "hash") 1000 "cred_slot0001" with
    name := "native_principal001"
    vlessUuid := "00000000-0000-4000-8000-00000000000b"
    hysteria2Password := "0123456789abcdef"
    createdAt := validFrom
    expiresAt := some expiresAt }

def smoothAnswers : Apply.Answers := ⟨2030, Apply.smooth⟩

theorem laterSync_sample : ∃ host : Apply.Host,
    Apply.LaterSync Apply.sampleInstallation sampleExit (sampleInput 1000 2400)
      (sampleInput 2000 3600) 1000 host (fun _ => "hash") 2030 ⟨smoothAnswers, true, smoothAnswers⟩
      [sampleAccount 1000 2400] [sampleAccount 2000 3600] := by
  have hdocument : ∀ {r : Except Apply.Unrendered Json}, r.isOk = true → ∃ doc, r = .ok doc := by
    intro r hok
    cases r with
    | ok doc => exact ⟨doc, rfl⟩
    | error e => cases hok
  obtain ⟨doc, hdoc⟩ : ∃ doc, Apply.candidate Apply.sampleInstallation sampleExit
      [sampleAccount 1000 2400] Apply.sampleHost 1000 = .ok doc := hdocument (by decide +kernel)
  have hdoc' : ∃ doc, Apply.candidate Apply.sampleInstallation sampleExit
      [sampleAccount 2000 3600] Apply.sampleHost 2030 = .ok doc := hdocument (by decide +kernel)
  refine ⟨{ Apply.sampleHost with
    users := .ok [sampleAccount 1000 2400]
    node := { Apply.installed with
      target := some (.doc doc)
      stamp := some (Apply.sampleInstallation.renderedConfigFingerprint doc)
      running := some doc } }, ?_⟩
  refine ⟨⟨doc, ?_⟩, ⟨true, by decide +kernel⟩, hdoc', ?_, ?_, by decide, ?_, ?_, rfl, rfl⟩
  · refine ⟨⟨fun _ => "hash", [], 1000, true, by decide +kernel⟩, rfl, by decide, ?_, hdoc, ?_, rfl⟩
    · decide
    · simp [Apply.Node.alreadyCurrent]
  · intro s hs
    obtain rfl := List.mem_singleton.mp hs
    exact ⟨⟨1000, rfl, by decide⟩, by decide⟩
  · intro s hs
    obtain rfl := List.mem_singleton.mp hs
    exact ⟨⟨2000, rfl, by decide⟩, by decide⟩
  · decide
  · exact ⟨rfl, rfl, rfl, rfl, rfl, rfl, rfl, rfl, ⟨_, rfl, by decide⟩, by decide, rfl⟩

/-- The control plane extends a lease; the next tick has nothing but that to apply, and a node that
    serves the pool is left running. -/
theorem applied_flag_truthful_renewal :
    renewedSample.settled = true ∧ renewedSample.world.pool.state.applied = false ∧
      renewedSample.world.lastLive = some (sampleInput 1000 2400) ∧
      Renewal (sampleInput 1000 2400) (sampleInput 2000 3600) ∧
      ∃ host : Apply.Host, Killable.Returns (Apply.cmdLeasePoolSync Apply.sampleInstallation
        sampleExit (fun _ => "hash") (sampleInput 2000 3600) 2030
        ⟨smoothAnswers, true, smoothAnswers⟩) host .current
        { host with users := .ok [sampleAccount 2000 3600] } := by
  have hrun : Runs.Leads (Runs.total (Watched.next sampleParse sampleFormat))
      (fun v => Quiet sampleParse v.world) ⟨start, false⟩ renewedSample :=
    (Runs.Leads.refl _).snoc renewingTick_quiet rfl
  have hlive : renewedSample.world.lastLive = some (sampleInput 1000 2400) := by decide +kernel
  have hinput : vpnAdminInput (planned (sampleTick 1 2030 "b") renewedSample.world.pool).1 =
      sampleInput 2000 3600 := by decide +kernel
  obtain ⟨old, hlast, hrenewal, hsync⟩ := (applied_flag_truthful hrun).2 (by decide +kernel)
    (sampleTick 1 2030 "b") (by decide +kernel)
  rw [hinput] at hrenewal hsync
  obtain rfl : sampleInput 1000 2400 = old := Option.some.inj (hlive.symm.trans hlast)
  obtain ⟨host, hlater⟩ := laterSync_sample
  exact ⟨by decide +kernel, by decide +kernel, hlive, hrenewal, host,
    (hsync _ _ _ _ _ _ _ _ _ hlater).2⟩

/-- The control plane withdraws a slot that has just gone live: the flag stays. -/
theorem applied_flag_after_withdrawal :
    ∃ v : Watched,
      Runs.Leads (Runs.total (Watched.next sampleParse sampleFormat)) (fun _ _ => True)
        ⟨start, false⟩ v ∧
      v.world.pool.state.applied = true ∧
      v.world.lastLive ≠ some (vpnAdminInput v.world.pool.state) := by
  refine ⟨_, (Runs.Leads.refl _).snoc (e := .tick (answeredTick
    [("state", .str "revoked")])) trivial rfl, ?_, ?_⟩
  · decide +kernel
  · decide +kernel

end Runs

end SingboxVpn.SlotPool
