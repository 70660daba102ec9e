import SingboxVpn.Agent.LeasePool

namespace SingboxVpn.SlotPool

open Fallible

/-!
# Rotations are batched

A rotation restarts the data plane.  Within a window of the grid only an urgent revocation may
cause more than one: ends of slots lie on the grid, so a slot that has expired since the last tick
has done so at a boundary, and what can wait is held back until one.
-/

/-! ### Windows of the grid -/

theorem clampBatchInterval_pos (secs : Nat) : 0 < clampBatchInterval secs := by
  unfold clampBatchInterval
  omega

/-- The lifetime is longer than a window, so that a new slot ends in the future. -/
theorem now_lt_mint (cfg : Config) (now : Int) :
    now < roundDownToGrid (now + cfg.lifetime) cfg.grid := by
  have hgrid : 0 < cfg.grid := clampBatchInterval_pos _
  have hlifetime : cfg.grid < cfg.lifetime := by
    unfold Config.lifetime clampLifetime DEFAULT_MIN_REMAINING_SECS
    omega
  have hfloor := Int.emod_add_mul_ediv (now + cfg.lifetime) cfg.grid
  have hrest := Int.emod_lt_of_pos (now + cfg.lifetime) hgrid
  unfold roundDownToGrid
  rw [mul_comm]
  omega

theorem window_lt {grid a b v : Int} (hgrid : 0 < grid) (hv : grid ∣ v) (ha : a < v) (hb : v ≤ b) :
    a / grid < b / grid := by
  obtain ⟨k, rfl⟩ := hv
  have hak : a / grid < k := Int.ediv_lt_of_lt_mul hgrid (by rw [mul_comm]; exact ha)
  have hkb : k ≤ b / grid := Int.le_ediv_of_mul_le hgrid (by rw [mul_comm]; exact hb)
  omega

/-! ### What the ticks say of a state -/

def timing (s : Slot) : Nat × Int := (s.slot, s.validUntil)

structure Sound (grid : Int) (ticks : List TickRecord) (state : LeaseState) : Prop where
  distinct : (state.slots.map Slot.slot).Nodup
  onGrid : ∀ s ∈ state.slots, grid ∣ s.validUntil
  ahead : ∀ r ∈ ticks, ∀ s ∈ state.slots, r.now < s.validUntil
  rotations : ∀ r ∈ ticks, r.rotated = true → r.now ≤ state.lastRotationAt

def SameTimes (a b : LeaseState) : Prop :=
  (a.slots.map timing).Perm (b.slots.map timing) ∧ a.lastRotationAt = b.lastRotationAt

section Sound

variable {grid : Int} {ticks : List TickRecord} {state : LeaseState} {t : Tick} {pool : Pool}

theorem Sound.congr {state' : LeaseState} (h : Sound grid ticks state)
    (hsame : SameTimes state state') : Sound grid ticks state' := by
  have hslot : ∀ s ∈ state'.slots, ∃ s' ∈ state.slots, s'.validUntil = s.validUntil := by
    intro s hs
    have hmem : timing s ∈ state.slots.map timing :=
      hsame.1.mem_iff.mpr (List.mem_map_of_mem hs)
    obtain ⟨s', hs', heq⟩ := List.mem_map.mp hmem
    exact ⟨s', hs', (Prod.mk.inj heq).2⟩
  refine ⟨?_, ?_, ?_, ?_⟩
  · have hperm := hsame.1.map Prod.fst
    simp only [List.map_map] at hperm
    exact hperm.nodup_iff.mp h.distinct
  · intro s hs
    obtain ⟨s', hs', heq⟩ := hslot s hs
    exact heq ▸ h.onGrid s' hs'
  · intro r hr s hs
    obtain ⟨s', hs', heq⟩ := hslot s hs
    exact heq ▸ h.ahead r hr s' hs'
  · exact hsame.2 ▸ h.rotations

theorem planned_slot {s : Slot} (h : Sound t.cfg.grid ticks pool.state)
    (hs : s ∈ (planned t pool).1.slots) : t.cfg.grid ∣ s.validUntil ∧ t.now < s.validUntil := by
  have hnew : t.cfg.grid ∣ roundDownToGrid (t.now + t.cfg.lifetime) t.cfg.grid :=
    dvd_mul_left t.cfg.grid _
  rcases planned_origin h.distinct hs with ⟨hold, hkept⟩ | ⟨e, -, rfl⟩ | ⟨-, -, hmint⟩
  · -- an expired slot would have been rotated
    refine ⟨h.onGrid s hold, ?_⟩
    by_contra hexpired
    exact hkept (mem_slotsToRotate_of_expired hold (not_lt.mp hexpired))
  · exact ⟨hnew, now_lt_mint t.cfg t.now⟩
  · rw [hmint]
    exact ⟨hnew, now_lt_mint t.cfg t.now⟩

theorem planned_sound (h : Sound t.cfg.grid ticks pool.state)
    (hclock : ∀ r ∈ ticks, r.now ≤ t.now) :
    Sound t.cfg.grid (tickRecord t pool :: ticks) (planned t pool).1 := by
  refine ⟨nodup_planned h.distinct, fun s hs => (planned_slot h hs).1, ?_, ?_⟩
  · intro r hr s hs
    have hnow := (planned_slot h hs).2
    rcases List.mem_cons.mp hr with rfl | hr
    · exact hnow
    · exact lt_of_le_of_lt (hclock r hr) hnow
  · intro r hr hrotated
    by_cases hrotate : slotsToRotate pool.state pool.remote t.now t.cfg.grid = []
    · simp only [planned, hrotate, if_true]
      rcases List.mem_cons.mp hr with rfl | hr
      · simp [tickRecord, hrotate] at hrotated
      · exact h.rotations r hr hrotated
    · simp only [planned, hrotate, if_false]
      show r.now ≤ t.now
      rcases List.mem_cons.mp hr with rfl | hr
      · exact le_refl _
      · exact hclock r hr

/-! ### Calm rotations -/

def calmIn (grid window : Int) (r : TickRecord) : Bool :=
  r.rotated && !r.urgent && decide (r.now / grid = window)

theorem calm_first {window : Int} (h : Sound t.cfg.grid ticks pool.state)
    (hcalm : calmIn t.cfg.grid window (tickRecord t pool) = true) :
    ∀ r ∈ ticks, r.rotated = true → r.now / t.cfg.grid ≠ window := by
  have hgrid : 0 < t.cfg.grid := clampBatchInterval_pos _
  simp only [calmIn, tickRecord, Bool.and_eq_true, Bool.not_eq_true',
    List.isEmpty_eq_false_iff] at hcalm
  obtain ⟨⟨hrotate, hurgent⟩, hwindow⟩ := hcalm
  intro r hr hrotated
  rw [← of_decide_eq_true hwindow]
  apply ne_of_lt
  rcases rotate_reason hrotate with hreason | ⟨s, hs, hexpired⟩ | hboundary
  · rw [hurgent] at hreason
    cases hreason
  · exact window_lt hgrid (h.onGrid s hs) (h.ahead r hr s hs) hexpired
  · exact lt_of_le_of_lt (Int.ediv_le_ediv hgrid (h.rotations r hr hrotated)) hboundary

theorem countP_calm (h : Sound t.cfg.grid ticks pool.state)
    (hcount : ∀ window, ticks.countP (calmIn t.cfg.grid window) ≤ 1) (window : Int) :
    (tickRecord t pool :: ticks).countP (calmIn t.cfg.grid window) ≤ 1 := by
  rw [List.countP_cons]
  split
  · next hcalm =>
    have hnone : ticks.countP (calmIn t.cfg.grid window) = 0 := by
      rw [List.countP_eq_zero]
      intro r hr hcalm'
      simp only [calmIn, Bool.and_eq_true, decide_eq_true_eq] at hcalm'
      exact calm_first h hcalm r hr hcalm'.1.1 hcalm'.2
    omega
  · exact hcount window

end Sound

/-! ### Runs -/

structure Batched (grid : Int) (w : World) : Prop where
  memory : Sound grid w.ticks w.pool.state
  file : SameTimes (stored w.file) w.pool.state
  calm : ∀ window, w.ticks.countP (calmIn grid window) ≤ 1

/-- The grid is fixed, the clock does not go back, and every save succeeds. -/
def Clocked (grid : Int) (w : World) : Event → Prop
  | .tick t => t.cfg.grid = grid ∧ (∀ r ∈ w.ticks, r.now ≤ t.now) ∧ t.savePlanned = .ok () ∧
      t.saveSynced = .ok ()
  | .restart _ => True

section Batched

variable {t : Tick} {rfc3339 : Rfc3339} {format : FormatTime}

theorem SameTimes.refl (state : LeaseState) : SameTimes state state := ⟨List.Perm.refl _, rfl⟩

theorem batched_planPool (hsave : t.savePlanned = .ok ()) :
    Ensures (fun w => Batched t.cfg.grid w ∧ ∀ r ∈ w.ticks, r.now ≤ t.now) (planPool t)
      (fun _ => Batched t.cfg.grid) (Batched t.cfg.grid) := by
  apply ensures_planPool
  · rintro w ⟨h, hclock⟩ hsame
    obtain ⟨-, hperm, hlast⟩ := planned_unchanged hsame
    refine ⟨planned_sound h.memory hclock, ?_, countP_calm h.memory h.calm⟩
    exact ⟨h.file.1.trans (hperm.map timing).symm, h.file.2.trans hlast.symm⟩
  · rintro w ⟨h, hclock⟩ -
    exact ⟨planned_sound h.memory hclock, SameTimes.refl _, countP_calm h.memory h.calm⟩
  · exact fun hfails => absurd hsave hfails

theorem batched_applyPool :
    Ensures (Batched t.cfg.grid) (applyPool t) (fun _ => Batched t.cfg.grid)
      (Batched t.cfg.grid) := by
  have hkeep : ∀ w obfs, Batched t.cfg.grid w → Batched t.cfg.grid ((w.ran t.child).proved obfs) :=
    fun w obfs h => ⟨⟨h.memory.distinct, h.memory.onGrid, h.memory.ahead, h.memory.rotations⟩,
      h.file, h.calm⟩
  apply ensures_applyPool
  · exact fun w h _ => h
  · exact fun w h => h
  · exact fun _ w h => ⟨h.memory, h.file, h.calm⟩
  · exact fun w obfs _ h => ⟨(hkeep w obfs h).memory, SameTimes.refl _, h.calm⟩
  · exact fun _ w obfs _ h => hkeep w obfs h

theorem synced_sound {w w' : World} (h : Sound t.cfg.grid w.ticks w.pool.state)
    (hsynced : Synced rfc3339 format t w w') : Sound t.cfg.grid w'.ticks w'.pool.state := by
  obtain ⟨body, resp, state, view, obfsStored, -, -, habsorb, rfl⟩ := hsynced
  obtain ⟨hslots, hlast⟩ := synced_slots (t := t) habsorb
  have hslot : ∀ s ∈ (synced t state view).slots, ∃ s₀ ∈ w.pool.state.slots,
      s.validUntil = s₀.validUntil ∨ s₀.validUntil < s.validUntil ∧ t.cfg.grid ∣ s.validUntil := by
    intro s hs
    rw [hslots] at hs
    obtain ⟨s₀, hs₀, rfl⟩ := List.mem_map.mp hs
    obtain ⟨_, _, _, heq, hend⟩ := syncSlot_spec view t.later t.cfg.lifetime t.cfg.grid s₀
    exact ⟨s₀, hs₀, heq ▸ hend⟩
  refine ⟨?_, ?_, ?_, ?_⟩
  · show ((synced t state view).slots.map Slot.slot).Nodup
    rw [map_synced (fun _ _ _ _ _ => rfl) habsorb]
    exact h.distinct
  · intro s hs
    obtain ⟨s₀, hs₀, heq | ⟨-, hgrid⟩⟩ := hslot s hs
    · exact heq ▸ h.onGrid s₀ hs₀
    · exact hgrid
  · intro r hr s hs
    have hold : ∀ s₀ ∈ w.pool.state.slots, r.now < s₀.validUntil := h.ahead r hr
    obtain ⟨s₀, hs₀, heq | ⟨hlater, -⟩⟩ := hslot s hs
    · exact heq ▸ hold s₀ hs₀
    · exact lt_trans (hold s₀ hs₀) hlater
  · show ∀ r ∈ w.ticks, r.rotated = true → r.now ≤ (synced t state view).lastRotationAt
    rw [hlast]
    exact h.rotations

theorem batched_sync (hsave : t.saveSynced = .ok ()) :
    Ensures (Batched t.cfg.grid) (sync rfc3339 format t) (fun _ => Batched t.cfg.grid)
      (Batched t.cfg.grid) := by
  have hcalm : ∀ w w', Batched t.cfg.grid w → Synced rfc3339 format t w w' →
      ∀ window, w'.ticks.countP (calmIn t.cfg.grid window) ≤ 1 := by
    rintro w w' h ⟨body, resp, state, view, obfsStored, -, -, -, rfl⟩
    exact h.calm
  apply ensures_sync
  · exact fun w h => h
  · exact fun w body h => ⟨h.memory, h.file, h.calm⟩
  · intro w w' h hsynced hstate
    refine ⟨synced_sound h.memory hsynced, ?_, hcalm w w' h hsynced⟩
    have hfile : w'.file = w.file := by
      obtain ⟨body, resp, state, view, obfsStored, -, -, -, rfl⟩ := hsynced
      rfl
    rw [hfile, hstate]
    exact h.file
  · intro w w' h hsynced
    have hsound := synced_sound h.memory hsynced
    exact ⟨⟨hsound.distinct, hsound.onGrid, hsound.ahead, hsound.rotations⟩, SameTimes.refl _,
      hcalm w w' h hsynced⟩
  · exact fun hfails => absurd hsave hfails

theorem batched_next {grid : Int} {w : World} {e : Event} (h : Batched grid w)
    (hclocked : Clocked grid w e) : Batched grid (next rfc3339 format w e) := by
  cases e with
  | tick t =>
    obtain ⟨rfl, hclock, hplanned, hsynced⟩ := hclocked
    have htick : Ensures (fun w => Batched t.cfg.grid w ∧ ∀ r ∈ w.ticks, r.now ≤ t.now)
        (tick rfc3339 format t) (fun _ => Batched t.cfg.grid) (Batched t.cfg.grid) :=
      ensures_tick (batched_planPool hplanned) batched_applyPool (batched_sync hsynced)
        fun _ h => h
    exact htick.state ⟨h, hclock⟩
  | restart draws =>
    have hloaded : SameTimes (stored w.file) (loadState draws w.file) := by
      refine ⟨?_, ?_⟩
      · rw [map_loadState fun _ _ _ => rfl]
      · cases w.file <;> rfl
    have hmemory : SameTimes w.pool.state (loadState draws w.file) :=
      ⟨h.file.1.symm.trans hloaded.1, h.file.2.symm.trans hloaded.2⟩
    exact ⟨h.memory.congr hmemory, hloaded, h.calm⟩

end Batched

def rotatedIn (grid window : Int) (r : TickRecord) : Bool :=
  r.rotated && decide (r.now / grid = window)

def urgentIn (grid window : Int) (r : TickRecord) : Bool :=
  r.urgent && decide (r.now / grid = window)

theorem countP_rotatedIn_le (grid window : Int) (ticks : List TickRecord) :
    ticks.countP (rotatedIn grid window) ≤
      ticks.countP (calmIn grid window) + ticks.countP (urgentIn grid window) := by
  induction ticks with
  | nil => exact Nat.zero_le _
  | cons r ticks ih =>
    simp only [List.countP_cons]
    have hsplit : (if rotatedIn grid window r = true then 1 else 0) ≤
        (if calmIn grid window r = true then 1 else 0) +
          if urgentIn grid window r = true then 1 else 0 := by
      unfold rotatedIn calmIn urgentIn
      cases r.rotated <;> cases r.urgent <;> simp
    omega

/-- In runs with a fixed grid, a clock that does not go back and successful saves, a window has at
    most one tick that rotates and one more for each tick with an urgent revocation; no tick leaves
    a slot whose end is not after it. -/
theorem rotations_bounded {rfc3339 : Rfc3339} {format : FormatTime} {grid : Int} {w : World}
    (hrun : Runs.Leads (step rfc3339 format) (Clocked grid) start w) :
    (∀ window, w.ticks.countP (rotatedIn grid window) ≤
        1 + w.ticks.countP (urgentIn grid window)) ∧
      ∀ r ∈ w.ticks, ∀ s ∈ w.pool.state.slots, r.now < s.validUntil := by
  have hstart : Batched grid start :=
    ⟨⟨List.nodup_nil, nofun, nofun, nofun⟩, SameTimes.refl _, fun _ => Nat.zero_le _⟩
  have hw : Batched grid w := by
    refine hrun.invariant (Batched grid) ?_ hstart
    intro w e w' h hclocked hstep
    cases hstep
    exact batched_next h hclocked
  refine ⟨fun window => ?_, hw.memory.ahead⟩
  have hsplit := countP_rotatedIn_le grid window w.ticks
  have hcalm := hw.calm window
  omega

/-- A slot that is minted on the first tick expires and is rotated on the second. -/
theorem rotations_bounded_expiry :
    ∃ w : World, w.ticks = [⟨3000, true, false⟩, ⟨1000, false, false⟩] ∧
      (∀ window, w.ticks.countP (rotatedIn 600 window) ≤
        1 + w.ticks.countP (urgentIn 600 window)) ∧
      ∀ r ∈ w.ticks, ∀ s ∈ w.pool.state.slots, r.now < s.validUntil := by
  have hfirst : Runs.Leads (step sampleParse sampleFormat) (Clocked 600) start
      (exec (tick sampleParse sampleFormat (sampleTick 1 1000 "a")) start).2 :=
    (Runs.Leads.refl start).snoc (e := .tick (sampleTick 1 1000 "a")) ⟨rfl, nofun, rfl, rfl⟩
      (step_tick _ _)
  have hclock : ∀ r ∈ (exec (tick sampleParse sampleFormat (sampleTick 1 1000 "a")) start).2.ticks,
      r.now ≤ 3000 := by
    show ∀ r ∈ [(⟨1000, false, false⟩ : TickRecord)], r.now ≤ 3000
    decide
  have hrun := hfirst.snoc (e := Event.tick (sampleTick 1 3000 "b")) ⟨rfl, hclock, rfl, rfl⟩
    (step_tick _ _)
  exact ⟨_, rfl, rotations_bounded hrun⟩

end SingboxVpn.SlotPool
