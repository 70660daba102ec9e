import SingboxVpn.Admin.LeasePool
import SingboxVpn.Agent.Jobs
import SingboxVpn.Agent.Snapshot
import SingboxVpn.Lib.Fallible
import SingboxVpn.Lib.Keyed
import Mathlib.Data.List.Sort

namespace SingboxVpn.SlotPool

open Fallible
open Snapshot (asBool)

/-!
# The agent's lease pool

A node keeps a pool of credential slots.  Each generation of a slot ends at an instant on a grid;
the agent rotates the slots that have to get a new generation, has `vpn-admin` apply the pool, and
tells the control plane, which answers with what it knows of each slot.

* `plan` — resizing and rotating; `mem_plan` says which slots there are afterwards.
-/

/-! ### Slots -/

/-- The largest pool. -/
def MAX_POOL_SIZE : Nat := 1024

/-- The grid of expiry times, in seconds. -/
def DEFAULT_BATCH_SECS : Int := 600

/-- The shortest time left in a lease, until the control plane says. -/
def DEFAULT_MIN_REMAINING_SECS : Int := 600

/-- A pre-provisioned credential. -/
structure Slot where
  slot : Nat
  generation : Nat
  validUntil : Int
  principalId : String
  credentialId : String
  cls : CredentialClass
  validFrom : Int
  revoked : Bool
  vlessUuid : String
  hysteria2Password : String
  reported : Bool
deriving DecidableEq

/-- What the agent stores of its pool. -/
structure LeaseState where
  slots : List Slot
  applied : Bool
  lastRotationAt : Int
deriving DecidableEq

def LeaseState.empty : LeaseState := ⟨[], false, 0⟩

/-- What the control plane says of a slot. -/
structure RemoteSlot where
  generation : Nat
  state : String
  urgent : Bool
  extendTo : Option Int

/-- What the control plane said last; of two entries for a slot the first counts. -/
structure RemoteView where
  asOf : Int
  minRemaining : Int
  slots : List (Nat × RemoteSlot)

/-- The entry for the generation that a slot is at. -/
def RemoteView.entry (view : RemoteView) (s : Slot) : Option RemoteSlot :=
  (view.slots.lookup s.slot).filter (·.generation == s.generation)

/-- The last point of the grid before an instant. -/
def roundDownToGrid (t grid : Int) : Int := t / grid * grid

/-- The grid is a minute at least and the default at most. -/
def clampBatchInterval (secs : Nat) : Int := max 60 (min (secs : Int) DEFAULT_BATCH_SECS)

/-- A fresh slot stays leasable for a minute at least; none outlives the native lease. -/
def clampLifetime (secs : Nat) (grid : Int) : Int :=
  max (max (DEFAULT_MIN_REMAINING_SECS + grid + 60) 900)
    (min (wrap64 secs) Authorization.NATIVE_LEASE_SECS)

structure MintDraw where
  principal : String
  credential : String
  vlessUuid : String
  hysteria2Password : String

def MintDraw.principalId (d : MintDraw) : String := "native_" ++ d.principal

def MintDraw.credentialId (d : MintDraw) : String := "cred_" ++ d.credential

/-- A fresh credential for a slot, which ends on the grid. -/
def mint (d : MintDraw) (slot generation : Nat) (now lifetime grid : Int) : Slot where
  slot := slot
  generation := generation
  validUntil := roundDownToGrid (now + lifetime) grid
  principalId := d.principalId
  credentialId := d.credentialId
  cls := .native
  validFrom := now
  revoked := false
  vlessUuid := d.vlessUuid
  hysteria2Password := d.hysteria2Password
  reported := false

/-! ### Which slots rotate -/

/-- Why a slot needs a new generation. -/
inductive Why where
  | expired
  | urgent
  | deferrable
deriving DecidableEq

/-- Whether a slot needs a new generation, and why. -/
def why (remote : Option RemoteView) (now : Int) (s : Slot) : Option Why :=
  let minRemaining := (remote.map (·.minRemaining)).getD DEFAULT_MIN_REMAINING_SECS
  let leasableUntil := wrap64 (s.validUntil - minRemaining)
  if s.validUntil ≤ now then some .expired
  -- never leasable, and nobody holds it
  else if !s.reported && decide (leasableUntil ≤ now) then some .deferrable
  else do
    let view ← remote
    let entry ← view.entry s
    if entry.state = "revoked" then some (if entry.urgent then .urgent else .deferrable)
    else if entry.state = "active" ∧ leasableUntil ≤ view.asOf then some .deferrable
    else none

/-- The slots that need a new generation, with the reasons. -/
def rotationCandidates (state : LeaseState) (remote : Option RemoteView) (now : Int) :
    List (Nat × Why) :=
  state.slots.filterMap fun s => (why remote now s).map (s.slot, ·)

/-- A slot that cannot wait takes every other candidate along; otherwise they all wait for the
    first tick past a boundary of the grid. -/
def slotsToRotate (state : LeaseState) (remote : Option RemoteView) (now grid : Int) : List Nat :=
  let candidates := rotationCandidates state remote now
  let forced := candidates.any (·.2 != .deferrable)
  let boundaryPassed := decide (state.lastRotationAt / grid < now / grid)
  if forced || (!candidates.isEmpty && boundaryPassed) then candidates.map (·.1) else []

def hasUrgent (state : LeaseState) (remote : Option RemoteView) (now : Int) : Bool :=
  (rotationCandidates state remote now).any (·.2 == .urgent)

section Rotation

variable {state : LeaseState} {remote : Option RemoteView} {now grid : Int}

variable {n : Nat} {s : Slot}

theorem mem_rotationCandidates {w : Why} :
    (n, w) ∈ rotationCandidates state remote now ↔
      ∃ s ∈ state.slots, why remote now s = some w ∧ s.slot = n := by
  simp [rotationCandidates, List.mem_filterMap, Option.map_eq_some_iff]

theorem why_expired : why remote now s = some .expired ↔ s.validUntil ≤ now := by
  constructor
  · intro h
    by_contra hlive
    simp only [why, hlive, if_false] at h
    split at h
    · cases h
    · obtain ⟨view, -, h⟩ := Option.bind_eq_some_iff.mp h
      obtain ⟨entry, -, h⟩ := Option.bind_eq_some_iff.mp h
      split at h
      · split at h <;> cases h
      · split at h <;> cases h
  · intro h
    simp [why, h]

theorem slot_of_mem_slotsToRotate (h : n ∈ slotsToRotate state remote now grid) :
    ∃ s ∈ state.slots, s.slot = n := by
  simp only [slotsToRotate] at h
  split at h
  · obtain ⟨⟨m, w⟩, hc, rfl⟩ := List.mem_map.mp h
    obtain ⟨s, hs, -, hslot⟩ := mem_rotationCandidates.mp hc
    exact ⟨s, hs, hslot⟩
  · cases h

theorem mem_slotsToRotate_of_expired (hs : s ∈ state.slots) (h : s.validUntil ≤ now) :
    s.slot ∈ slotsToRotate state remote now grid := by
  have hc : (s.slot, Why.expired) ∈ rotationCandidates state remote now :=
    mem_rotationCandidates.mpr ⟨s, hs, why_expired.mpr h, rfl⟩
  have hforced : (rotationCandidates state remote now).any (·.2 != .deferrable) = true :=
    List.any_eq_true.mpr ⟨_, hc, rfl⟩
  simp only [slotsToRotate, hforced, Bool.true_or, if_true]
  exact List.mem_map_of_mem hc

theorem rotate_reason (h : slotsToRotate state remote now grid ≠ []) :
    hasUrgent state remote now = true ∨ (∃ s ∈ state.slots, s.validUntil ≤ now) ∨
      state.lastRotationAt / grid < now / grid := by
  simp only [slotsToRotate] at h
  split at h
  · next hguard =>
    rcases Bool.or_eq_true_iff.mp hguard with hforced | hbatch
    · obtain ⟨⟨n, w⟩, hc, hw⟩ := List.any_eq_true.mp hforced
      cases w with
      | expired =>
        obtain ⟨s, hs, hwhy, -⟩ := mem_rotationCandidates.mp hc
        exact .inr (.inl ⟨s, hs, why_expired.mp hwhy⟩)
      | urgent => exact .inl (List.any_eq_true.mpr ⟨_, hc, rfl⟩)
      | deferrable => cases hw
    · rw [Bool.and_eq_true, decide_eq_true_eq] at hbatch
      exact .inr (.inr hbatch.2)
  · exact absurd rfl h

end Rotation

/-! ### Planning -/

def nextGeneration (d : MintDraw) (now lifetime grid : Int) (s : Slot) : Slot :=
  { mint d s.slot ((s.generation + 1) % 2 ^ 64) now lifetime grid with principalId := s.principalId }

section Plan

variable (rotate : List Nat) (draws : Nat → MintDraw) (now lifetime grid : Int)

def planExisting (slot : Nat) (s : Slot) : Slot :=
  if slot ∈ rotate then nextGeneration (draws slot) now lifetime grid s else s

def planMissing (slot : Nat) : Slot := mint (draws slot) slot 1 now lifetime grid

def planSlot (acc : List Slot × Bool) (slot : Nat) : List Slot × Bool :=
  (Keyed.upsert Slot.slot (planExisting rotate draws now lifetime grid)
      (planMissing draws now lifetime grid) slot acc.1,
    acc.2 || decide (slot ∈ rotate) || !acc.1.any (·.slot == slot))

/-- Resize the pool and rotate these slots; says whether anything changed. -/
def plan (state : LeaseState) (size : Nat) : LeaseState × Bool :=
  let size := min size MAX_POOL_SIZE
  let retained := state.slots.filter (·.slot < size)
  let planned := (List.range size).foldl (planSlot rotate draws now lifetime grid)
    (retained, retained.length != state.slots.length)
  ({ state with
      slots := planned.1.insertionSort fun a b => a.slot ≤ b.slot
      applied := state.applied && !planned.2 },
    planned.2)

end Plan

section Planned

variable {rotate : List Nat} {draws : Nat → MintDraw} {now lifetime grid : Int}
  {state : LeaseState} {size : Nat}

theorem keepsKey_plan : Keyed.KeepsKey Slot.slot (planExisting rotate draws now lifetime grid)
    (planMissing draws now lifetime grid) where
  update slot s hslot := by
    unfold planExisting
    split
    · exact hslot
    · exact hslot
  new _ := rfl

theorem foldl_planSlot_fst (slots : List Nat) (acc : List Slot × Bool) :
    (slots.foldl (planSlot rotate draws now lifetime grid) acc).1 =
      slots.foldl (fun l n => Keyed.upsert Slot.slot (planExisting rotate draws now lifetime grid)
        (planMissing draws now lifetime grid) n l) acc.1 := by
  induction slots generalizing acc with
  | nil => rfl
  | cons n slots ih => exact ih _

def slotFor (rotate : List Nat) (draws : Nat → MintDraw) (now lifetime grid : Int)
    (state : LeaseState) : Nat → Slot :=
  Keyed.settle Slot.slot (planExisting rotate draws now lifetime grid)
    (planMissing draws now lifetime grid) state.slots

theorem settle_retained {n : Nat} (hn : n < min size MAX_POOL_SIZE) :
    Keyed.settle Slot.slot (planExisting rotate draws now lifetime grid)
        (planMissing draws now lifetime grid)
        (state.slots.filter (·.slot < min size MAX_POOL_SIZE)) n =
      slotFor rotate draws now lifetime grid state n := by
  unfold slotFor Keyed.settle
  rw [List.find?_filter]
  have hsame : (fun s : Slot => decide (decide (s.slot < min size MAX_POOL_SIZE) = true ∧
      decide (s.slot = n) = true)) = fun s => decide (s.slot = n) := by
    funext s
    simp only [decide_eq_true_eq]
    exact decide_eq_decide.mpr ⟨And.right, fun h => ⟨h ▸ hn, h⟩⟩
  rw [hsame]

theorem mem_plan (hnodup : (state.slots.map Slot.slot).Nodup) (s : Slot) :
    s ∈ (plan rotate draws now lifetime grid state size).1.slots ↔
      ∃ n < min size MAX_POOL_SIZE, s = slotFor rotate draws now lifetime grid state n := by
  have hretained : ((state.slots.filter (·.slot < min size MAX_POOL_SIZE)).map Slot.slot).Nodup :=
    (List.filter_sublist.map Slot.slot).nodup hnodup
  simp only [plan, List.mem_insertionSort, foldl_planSlot_fst]
  rw [Keyed.mem_foldl_upsert keepsKey_plan List.nodup_range hretained]
  constructor
  · rintro (⟨hs, hout⟩ | ⟨n, hn, rfl⟩)
    · have hlt : s.slot < min size MAX_POOL_SIZE := by simpa using (List.mem_filter.mp hs).2
      exact absurd (List.mem_range.mpr hlt) hout
    · have hn' := List.mem_range.mp hn
      exact ⟨n, hn', settle_retained hn'⟩
  · rintro ⟨n, hn, rfl⟩
    exact .inr ⟨n, List.mem_range.mpr hn, (settle_retained hn).symm⟩

theorem nodup_plan (hnodup : (state.slots.map Slot.slot).Nodup) :
    ((plan rotate draws now lifetime grid state size).1.slots.map Slot.slot).Nodup := by
  have hretained : ((state.slots.filter (·.slot < min size MAX_POOL_SIZE)).map Slot.slot).Nodup :=
    (List.filter_sublist.map Slot.slot).nodup hnodup
  simp only [plan, foldl_planSlot_fst]
  refine (((List.perm_insertionSort _ _).map Slot.slot).nodup_iff).mpr ?_
  exact Keyed.nodup_foldl_upsert keepsKey_plan _ hretained

theorem slotFor_slot (n : Nat) : (slotFor rotate draws now lifetime grid state n).slot = n :=
  Keyed.key_settle keepsKey_plan

theorem plan_numbers (hnodup : (state.slots.map Slot.slot).Nodup) :
    (plan rotate draws now lifetime grid state size).1.slots.map Slot.slot =
      List.range (min size MAX_POOL_SIZE) := by
  have hsorted : ((plan rotate draws now lifetime grid state size).1.slots.map Slot.slot).Pairwise
      (· ≤ ·) := by
    rw [List.pairwise_map]
    exact List.pairwise_insertionSort (fun a b : Slot => a.slot ≤ b.slot) _
  have hperm : ((plan rotate draws now lifetime grid state size).1.slots.map Slot.slot).Perm
      (List.range (min size MAX_POOL_SIZE)) := by
    refine (List.perm_ext_iff_of_nodup (nodup_plan hnodup) List.nodup_range).mpr fun n => ?_
    rw [List.mem_map, List.mem_range]
    constructor
    · rintro ⟨s, hs, rfl⟩
      obtain ⟨n, hn, rfl⟩ := (mem_plan hnodup s).mp hs
      rwa [slotFor_slot]
    · intro hn
      exact ⟨_, (mem_plan hnodup _).mpr ⟨n, hn, rfl⟩, slotFor_slot n⟩
  exact hperm.eq_of_pairwise (fun a b _ _ => le_antisymm) hsorted
    (List.pairwise_lt_range.imp Nat.le_of_lt)

theorem foldl_planSlot_unchanged (slots : List Nat) (acc : List Slot × Bool)
    (h : (slots.foldl (planSlot rotate draws now lifetime grid) acc).2 = false) :
    slots.foldl (planSlot rotate draws now lifetime grid) acc = acc ∧ acc.2 = false ∧
      ∀ n ∈ slots, n ∉ rotate := by
  induction slots generalizing acc with
  | nil => exact ⟨rfl, h, nofun⟩
  | cons n slots ih =>
    obtain ⟨hfold, hflag, hrest⟩ := ih _ h
    simp only [planSlot, Bool.or_eq_false_iff, decide_eq_false_iff_not, Bool.not_eq_false',
      List.any_eq_true, beq_iff_eq] at hflag
    obtain ⟨⟨hacc, hn⟩, hfound⟩ := hflag
    have hself : planSlot rotate draws now lifetime grid acc n = acc := by
      apply Prod.ext
      · exact Keyed.upsert_eq_self (fun s => if_neg hn) (List.mem_map.mpr hfound)
      · simp [planSlot, hacc, hn, hfound]
    rw [List.foldl_cons, hfold, hself]
    exact ⟨rfl, hacc, List.forall_mem_cons.mpr ⟨hn, hrest⟩⟩

theorem plan_unchanged (h : (plan rotate draws now lifetime grid state size).2 = false) :
    (plan rotate draws now lifetime grid state size).1.slots.Perm state.slots ∧
      ∀ s ∈ state.slots, s.slot ∉ rotate := by
  obtain ⟨hfold, hlength, hrotate⟩ := foldl_planSlot_unchanged _ _ h
  have hretained : state.slots.filter (·.slot < min size MAX_POOL_SIZE) = state.slots := by
    apply List.filter_sublist.eq_of_length
    simpa using hlength
  refine ⟨?_, fun s hs => hrotate s.slot ?_⟩
  · simp only [plan, hfold]
    rw [hretained]
    exact List.perm_insertionSort _ _
  · rw [← hretained] at hs
    simpa using (List.mem_filter.mp hs).2

end Planned

/-! ### The exchange with the control plane -/

/-- The form of a time in a request. -/
abbrev FormatTime := Int → Except String String

def className : CredentialClass → String
  | .native => "native"
  | .compatibility => "compatibility"

/-- The secrets are sent only while the control plane has not stored them. -/
def syncItem (format : FormatTime) (s : Slot) : Except String Json := do
  let validFrom ← format s.validFrom
  let validUntil ← format s.validUntil
  let item := Json.object [("slot", .num s.slot), ("generation", .num s.generation),
    ("principal_id", .str s.principalId), ("credential_id", .str s.credentialId),
    ("class", .str (className s.cls)), ("valid_from", .str validFrom),
    ("revoked", .bool s.revoked), ("valid_until", .str validUntil)]
  .ok (if s.reported then item
    else (item.set "vless_uuid" (.str s.vlessUuid)).set "hysteria2_password"
      (.str s.hysteria2Password))

/-- Every slot, with secrets only where the control plane has not stored them. -/
def syncBody (format : FormatTime) (state : LeaseState) (obfsPassword : Option String)
    (lifetime grid : Int) : Except String Json := do
  let slots ← Check.collect (fun s => (syncItem format s).map some) state.slots
  let body := Json.object [("slots", .arr slots),
    ("policy", .object [("rotation_batch_interval_secs", .num grid),
      ("slot_lifetime_secs", .num lifetime)])]
  .ok (match obfsPassword with
    | some p => body.set "hysteria2_obfs_password" (.str p)
    | none => body)

def readTime (rfc3339 : Rfc3339) (error text : String) : Except String Int :=
  match rfc3339 text with
  | some nanos => .ok (unixTimestamp nanos)
  | none => .error error

/-- One slot of an answer; one that lacks its number, generation or state is passed over. -/
def readRemoteSlot (rfc3339 : Rfc3339) (item : Json) : Except String (Option (Nat × RemoteSlot)) :=
  match (item.get? "slot").bind Json.asU64, (item.get? "generation").bind Json.asU64,
      (item.get? "state").bind Json.asStr with
  | some slot, some generation, some state => do
      let extendTo ← match (item.get? "extend_to").bind Json.asStr with
        | some t => (readTime rfc3339 "parsing sync extend_to" t).map some
        | none => .ok none
      let urgent := (item.get? "urgent").bind asBool == some true
      .ok (some (slot % 2 ^ 32, ⟨generation, state, urgent, extendTo⟩))
  | _, _, _ => .ok none

def readView (rfc3339 : Rfc3339) (resp : Json) : Except String RemoteView := do
  let text ← match (resp.get? "as_of").bind Json.asStr with
    | some t => .ok t
    | none => .error "sync response missing as_of"
  let asOf ← readTime rfc3339 "parsing sync as_of" text
  let items := ((resp.get? "slots").bind Json.asArray).getD []
  let slots ← Check.collect (readRemoteSlot rfc3339) items
  .ok { asOf := asOf
        minRemaining := ((resp.get? "min_remaining_seconds").bind Json.asI64).getD
          DEFAULT_MIN_REMAINING_SECS
        -- a later entry replaces an earlier one
        slots := slots.reverse }

def absorbSlot (view : RemoteView) (s : Slot) : Slot :=
  { s with
    reported := (view.entry s).isSome
    revoked := (view.entry s).any (·.state == "revoked") }

/-- An answer that cannot be read changes nothing. -/
def absorbSyncResponse (rfc3339 : Rfc3339) (state : LeaseState) (resp : Json) :
    Except String (LeaseState × RemoteView) := do
  let view ← readView rfc3339 resp
  .ok ({ state with slots := state.slots.map (absorbSlot view) }, view)

/-- The renewal of a slot that is leased and still valid; its end is never moved back. -/
def extension (view : RemoteView) (now lifetime grid : Int) (s : Slot) : Option Slot := do
  let entry ← view.entry s
  if entry.state ≠ "leased" ∨ s.validUntil ≤ now then none
  else do
    let t ← entry.extendTo
    let next := min (roundDownToGrid t grid) (roundDownToGrid (now + lifetime) grid)
    if s.validUntil < next then
      some { s with validFrom := now, validUntil := next, revoked := false }
    else none

/-- The slots with the renewals of the answer, and how many there are. -/
def adoptExtensions (state : LeaseState) (view : RemoteView) (now lifetime grid : Int) :
    LeaseState × Nat :=
  let n := (state.slots.filterMap (extension view now lifetime grid)).length
  ({ state with
      slots := state.slots.map fun s => (extension view now lifetime grid s).getD s
      applied := state.applied && n == 0 }, n)

/-- What an answer makes of a slot, its renewal included. -/
def syncSlot (view : RemoteView) (later lifetime grid : Int) (s : Slot) : Slot :=
  (extension view later lifetime grid (absorbSlot view s)).getD (absorbSlot view s)

variable {view : RemoteView} {s : Slot} {rfc3339 : Rfc3339} {state' : LeaseState} {resp : Json}

/-- A renewal moves the end to a later instant on the grid and nothing else of the credential. -/
theorem extension_some {now lifetime grid : Int} {s' : Slot}
    (h : extension view now lifetime grid s = some s') :
    ∃ next, s.validUntil < next ∧ grid ∣ next ∧
      s' = { s with validFrom := now, validUntil := next, revoked := false } := by
  obtain ⟨entry, -, h⟩ := Option.bind_eq_some_iff.mp h
  split at h
  · cases h
  · obtain ⟨t, -, h⟩ := Option.bind_eq_some_iff.mp h
    simp only at h
    split at h
    · next hlater =>
      refine ⟨_, hlater, ?_, (Option.some.inj h).symm⟩
      rcases min_choice (roundDownToGrid t grid) (roundDownToGrid (now + lifetime) grid) with
        hmin | hmin
      · rw [hmin]
        exact dvd_mul_left grid _
      · rw [hmin]
        exact dvd_mul_left grid _
    · cases h

/-- What stays of a slot when it is told what the control plane knows. -/
theorem syncSlot_spec (view : RemoteView) (later lifetime grid : Int) (s : Slot) :
    ∃ from' until' revoked', syncSlot view later lifetime grid s =
        { s with validFrom := from', validUntil := until', revoked := revoked',
                 reported := (view.entry s).isSome } ∧
      (until' = s.validUntil ∨ s.validUntil < until' ∧ grid ∣ until') := by
  unfold syncSlot
  cases hext : extension view later lifetime grid (absorbSlot view s) with
  | none => exact ⟨s.validFrom, s.validUntil, _, rfl, .inl rfl⟩
  | some s' =>
    obtain ⟨next, hlater, hgrid, rfl⟩ := extension_some hext
    exact ⟨later, next, false, rfl, .inr ⟨hlater, hgrid⟩⟩

/-! ### Loading -/

/-- Records from before the authorization schema get the ids that they lack. -/
def migrate (d : MintDraw) (s : Slot) : Slot :=
  { s with
    principalId := if s.principalId = "" then d.principalId else s.principalId
    credentialId := if s.credentialId = "" then d.credentialId else s.credentialId
    validFrom := if s.validFrom = 0 then wrap64 (s.validUntil - Authorization.NATIVE_LEASE_SECS)
      else s.validFrom }

/-- What a process starts with; slots of an older schema get their ids. -/
def loadState (draws : Nat → MintDraw) : Option LeaseState → LeaseState
  | none => .empty
  | some state => { state with slots := state.slots.mapIdx fun i s => migrate (draws i) s }

/-! ### A tick -/

structure Pool where
  state : LeaseState
  remote : Option RemoteView
  obfsPassword : Option String
  obfsReported : Bool
  appliedThisProcess : Bool

/-- A process that has loaded a state. -/
def Pool.open (state : LeaseState) : Pool := ⟨state, none, none, false, false⟩

structure Config where
  leasePoolSize : Nat
  leaseSlotLifetimeSecs : Nat
  rotationBatchIntervalSecs : Nat

def Config.grid (cfg : Config) : Int := clampBatchInterval cfg.rotationBatchIntervalSecs

def Config.lifetime (cfg : Config) : Int := clampLifetime cfg.leaseSlotLifetimeSecs cfg.grid

/-- What a tick meets: the configuration, the time, what is drawn for each slot, and how each
    save, process and request ends.  The clock is read again after the answer. -/
structure Tick where
  cfg : Config
  now : Int
  draws : Nat → MintDraw
  savePlanned : Except String Unit
  input : Except String Unit
  child : Jobs.Child
  saveApplied : Except String Unit
  syncDue : Bool
  answer : Except String Json
  later : Int
  saveSynced : Except String Unit

def slotInput (s : Slot) : LeasePool.LeaseSlotInput where
  slot := s.slot
  principalId := some s.principalId
  credentialId := some s.credentialId
  cls := some s.cls
  validFrom := some s.validFrom
  revoked := s.revoked
  vlessUuid := s.vlessUuid
  hysteria2Password := s.hysteria2Password
  expiresAt := s.validUntil

/-- What `vpn-admin` is given. -/
def vpnAdminInput (state : LeaseState) : LeasePool.LeasePoolInput := ⟨state.slots.map slotInput⟩

theorem vpnAdminInput_slots (state : LeaseState) :
    (vpnAdminInput state).slots = state.slots.map slotInput := rfl

/-- A run of `vpn-admin`: the slots and its input, the file at that moment, and whether it has
    proved the pool live. -/
structure Applied where
  slots : List Slot
  input : LeasePool.LeasePoolInput
  file : Option LeaseState
  live : Bool

structure TickRecord where
  now : Int
  rotated : Bool
  urgent : Bool
deriving DecidableEq

/-- `outstanding` says that the last save of a plan has failed.  The rest is what has happened,
    the newest first: the ticks, the runs of `vpn-admin`, the bodies that were answered, and every
    slot record that has existed. -/
structure World where
  pool : Pool
  file : Option LeaseState
  outstanding : Bool
  ticks : List TickRecord
  applies : List Applied
  answered : List Json
  records : List Slot

def planned (t : Tick) (pool : Pool) : LeaseState × Bool :=
  let rotate := slotsToRotate pool.state pool.remote t.now t.cfg.grid
  let state := if rotate = [] then pool.state else { pool.state with lastRotationAt := t.now }
  plan rotate t.draws t.now t.cfg.lifetime t.cfg.grid state t.cfg.leasePoolSize

def tickRecord (t : Tick) (pool : Pool) : TickRecord where
  now := t.now
  rotated := !(slotsToRotate pool.state pool.remote t.now t.cfg.grid).isEmpty
  urgent := hasUrgent pool.state pool.remote t.now

variable {t : Tick} {pool : Pool}

theorem mem_planned (hnodup : (pool.state.slots.map Slot.slot).Nodup) (s : Slot) :
    s ∈ (planned t pool).1.slots ↔ ∃ n < min t.cfg.leasePoolSize MAX_POOL_SIZE,
      s = slotFor (slotsToRotate pool.state pool.remote t.now t.cfg.grid) t.draws t.now
        t.cfg.lifetime t.cfg.grid pool.state n := by
  simp only [planned]
  split
  · exact mem_plan hnodup s
  · exact mem_plan hnodup s

theorem planned_origin (hnodup : (pool.state.slots.map Slot.slot).Nodup)
    (hs : s ∈ (planned t pool).1.slots) :
    (s ∈ pool.state.slots ∧ s.slot ∉ slotsToRotate pool.state pool.remote t.now t.cfg.grid) ∨
      (∃ e ∈ pool.state.slots,
        s = nextGeneration (t.draws e.slot) t.now t.cfg.lifetime t.cfg.grid e) ∨
      ((∀ e ∈ pool.state.slots, e.slot ≠ s.slot) ∧ s.slot < min t.cfg.leasePoolSize MAX_POOL_SIZE ∧
        s = mint (t.draws s.slot) s.slot 1 t.now t.cfg.lifetime t.cfg.grid) := by
  obtain ⟨n, hn, rfl⟩ := (mem_planned hnodup s).mp hs
  unfold slotFor Keyed.settle
  split
  · next e hfind =>
    have he : e ∈ pool.state.slots := List.mem_of_find?_eq_some hfind
    have hslot : e.slot = n := by simpa using List.find?_some hfind
    unfold planExisting
    split
    · exact .inr (.inl ⟨e, he, by rw [hslot]⟩)
    · next hkept => exact .inl ⟨he, hslot ▸ hkept⟩
  · next hfind =>
    refine .inr (.inr ⟨fun e he => ?_, hn, rfl⟩)
    show e.slot ≠ n
    simpa using List.find?_eq_none.mp hfind e he

theorem nodup_planned (hnodup : (pool.state.slots.map Slot.slot).Nodup) :
    ((planned t pool).1.slots.map Slot.slot).Nodup := by
  simp only [planned]
  split
  · exact nodup_plan hnodup
  · exact nodup_plan hnodup

theorem planned_numbers (hnodup : (pool.state.slots.map Slot.slot).Nodup) :
    (planned t pool).1.slots.map Slot.slot = List.range (min t.cfg.leasePoolSize MAX_POOL_SIZE) := by
  simp only [planned]
  split
  · exact plan_numbers hnodup
  · exact plan_numbers hnodup

theorem planned_applied (t : Tick) (pool : Pool) :
    (planned t pool).1.applied = (pool.state.applied && !(planned t pool).2) := by
  simp only [planned]
  split
  · rfl
  · rfl

theorem planned_unchanged (h : (planned t pool).2 = false) :
    slotsToRotate pool.state pool.remote t.now t.cfg.grid = [] ∧
      (planned t pool).1.slots.Perm pool.state.slots ∧
      (planned t pool).1.lastRotationAt = pool.state.lastRotationAt := by
  have hrotate : slotsToRotate pool.state pool.remote t.now t.cfg.grid = [] := by
    obtain ⟨-, hnone⟩ := plan_unchanged h
    apply List.eq_nil_iff_forall_not_mem.mpr
    intro n hn
    obtain ⟨s, hs, rfl⟩ := slot_of_mem_slotsToRotate hn
    refine hnone s ?_ hn
    split
    · exact hs
    · exact hs
  refine ⟨hrotate, ?_, ?_⟩
  · have hperm := (plan_unchanged h).1
    simp only [hrotate, if_true] at hperm
    simp only [planned, hrotate, if_true]
    exact hperm
  · simp [planned, hrotate, plan]

/-- The memory after planning. -/
def World.plan (t : Tick) (w : World) : World :=
  { w with
    pool := { w.pool with state := (planned t w.pool).1 }
    ticks := tickRecord t w.pool :: w.ticks
    records := (planned t w.pool).1.slots ++ w.records }

def World.saved (w : World) : World := { w with file := some w.pool.state, outstanding := false }

def World.unsaved (w : World) : World := { w with outstanding := true }

/-- Write the state; one that was not installed leaves the file as it was. -/
def save (outcome : Except String Unit) : Prog World Unit := do
  require outcome
  modify World.saved

/-- A plan that changes the pool is made durable before it is applied. -/
def planPool (t : Tick) : Prog World Bool := do
  let w ← get
  modify (World.plan t)
  runIf (planned t w.pool).2 do
    modify World.unsaved
    save t.savePlanned
  pure (planned t w.pool).2

def proveLive (child : Jobs.Child) : Except String (Option String) := do
  let output ← Jobs.runVpnAdmin "vpn-admin lease-pool sync" child
  let parsed ← Jobs.parseJsonOutput output "lease-pool sync"
  Check.refuseIf ((parsed.get? "live").bind asBool != some true)
    "vpn-admin lease-pool sync did not reach a live, reloaded sing-box"
  .ok ((parsed.get? "hysteria2_obfs_password").bind Json.asStr)

def World.ran (child : Jobs.Child) (w : World) : World :=
  { w with applies := ⟨w.pool.state.slots, vpnAdminInput w.pool.state, w.file,
      (proveLive child).toBool⟩ :: w.applies }

def World.proved (obfs : Option String) (w : World) : World :=
  { w with pool := { w.pool with
      state := { w.pool.state with applied := true }
      obfsPassword := obfs
      obfsReported := w.pool.obfsReported && decide (obfs = w.pool.obfsPassword)
      appliedThisProcess := true } }

/-- Hand the pool to `vpn-admin` and require that it went live. -/
def apply (t : Tick) : Prog World Unit := do
  require t.input
  modify (World.ran t.child)
  let obfs ← require (proveLive t.child)
  modify (World.proved obfs)
  save t.saveApplied

def applyPool (t : Tick) : Prog World Bool := do
  let w ← get
  runIf (!w.pool.state.applied || !w.pool.appliedThisProcess) (apply t)
  pure (!w.pool.state.applied || !w.pool.appliedThisProcess)

def synced (t : Tick) (state : LeaseState) (view : RemoteView) : LeaseState :=
  (adoptExtensions state view t.later t.cfg.lifetime t.cfg.grid).1

theorem synced_slots {state : LeaseState}
    (h : absorbSyncResponse rfc3339 state resp = .ok (state', view)) :
    (synced t state' view).slots =
        state.slots.map (syncSlot view t.later t.cfg.lifetime t.cfg.grid) ∧
      (synced t state' view).lastRotationAt = state.lastRotationAt := by
  obtain ⟨view', -, hok⟩ := Check.bind_eq_ok.mp h
  obtain ⟨rfl, rfl⟩ := Prod.mk.inj (Except.ok.inj hok)
  refine ⟨?_, rfl⟩
  simp only [synced, adoptExtensions, List.map_map]
  rfl

theorem map_synced {α : Type} {f : Slot → α} {state : LeaseState}
    (hf : ∀ s from' until' revoked' reported',
      f { s with
        validFrom := from', validUntil := until', revoked := revoked', reported := reported' } = f s)
    (h : absorbSyncResponse rfc3339 state resp = .ok (state', view)) :
    (synced t state' view).slots.map f = state.slots.map f := by
  rw [(synced_slots h).1, List.map_map]
  refine List.map_congr_left fun s _ => ?_
  obtain ⟨from', until', revoked', heq, -⟩ :=
    syncSlot_spec view t.later t.cfg.lifetime t.cfg.grid s
  exact (congrArg f heq).trans (hf s from' until' revoked' _)

def World.answer (body : Json) (w : World) : World := { w with answered := body :: w.answered }

def World.sync (state : LeaseState) (view : RemoteView) (obfsStored : Bool) (w : World) : World :=
  { w with
    pool := { w.pool with
      state := state
      remote := some view
      obfsReported := w.pool.obfsReported || obfsStored || w.pool.obfsPassword.isNone }
    records := state.slots ++ w.records }

def sync (rfc3339 : Rfc3339) (format : FormatTime) (t : Tick) : Prog World Unit := do
  let w ← get
  let obfs := if w.pool.obfsReported then none else w.pool.obfsPassword
  let body ← require (syncBody format w.pool.state obfs t.cfg.lifetime t.cfg.grid)
  let resp ← require t.answer
  modify (World.answer body)
  let (state, view) ← require (absorbSyncResponse rfc3339 w.pool.state resp)
  modify (World.sync (synced t state view) view
    ((resp.get? "obfs_stored").bind asBool == some true))
  runIf (decide (synced t state view ≠ w.pool.state)) (save t.saveSynced)

/-- Plan and save, apply, and sync if that is due or something changed. -/
def tick (rfc3339 : Rfc3339) (format : FormatTime) (t : Tick) : Prog World Unit := do
  let changed ← planPool t
  let live ← applyPool t
  let w ← get
  runIf (!(t.cfg.leasePoolSize == 0 && w.pool.state.slots.isEmpty) &&
    (t.syncDue || changed || live)) (sync rfc3339 format t)

/-! ### What a tick can do -/

section Rules

variable {t : Tick} {pre mid failed : World → Prop} {rfc3339 : Rfc3339} {format : FormatTime}

variable {post : World → Prop}

theorem wp_save {outcome : Except String Unit} {w : World} {ok : Unit → World → Prop}
    (hsaved : ok () w.saved) (hfailed : outcome ≠ .ok () → failed w) :
    wp (save outcome) w ok failed := by
  cases outcome with
  | ok _ => exact hsaved
  | error e => exact hfailed nofun

theorem ensures_planPool
    (hsame : ∀ w, pre w → (planned t w.pool).2 = false → mid (w.plan t))
    (hsaved : ∀ w, pre w → (planned t w.pool).2 = true → mid (w.plan t).saved)
    (hfailed : t.savePlanned ≠ .ok () → ∀ w, pre w → failed (w.plan t).unsaved) :
    Ensures pre (planPool t) (fun _ => mid) failed := by
  intro w h
  simp only [planPool, wp_bind, wp_get, wp_modify, wp_runIf, wp_pure]
  exact ⟨fun hchanged => wp_save (hsaved w h hchanged) fun hsave => hfailed hsave w h, hsame w h⟩

theorem ensures_applyPool (hskip : ∀ w, pre w → w.pool.state.applied = true → post w)
    (hnot : ∀ w, pre w → failed w)
    (hran : (∀ obfs, proveLive t.child ≠ .ok obfs) → ∀ w, pre w → failed (w.ran t.child))
    (hsaved : ∀ w obfs, proveLive t.child = .ok obfs → pre w →
      post ((w.ran t.child).proved obfs).saved)
    (hfailed : t.saveApplied ≠ .ok () → ∀ w obfs, proveLive t.child = .ok obfs → pre w →
      failed ((w.ran t.child).proved obfs)) :
    Ensures pre (applyPool t) (fun _ => post) failed := by
  intro w h
  simp only [applyPool, SlotPool.apply, wp_bind, wp_get, wp_modify, wp_runIf, wp_pure, wp_require]
  refine ⟨fun _ => ⟨fun _ _ => hnot w h, fun _ _ => ⟨fun e he => ?_, fun obfs hlive => ?_⟩⟩,
    fun hdone => ?_⟩
  · exact hran (by simp [he]) w h
  · exact wp_save (hsaved w obfs hlive h) fun hsave => hfailed hsave w obfs hlive h
  · simp only [Bool.or_eq_false_iff, Bool.not_eq_false'] at hdone
    exact hskip w h hdone.1

def Sends (format : FormatTime) (t : Tick) (w : World) (body : Json) : Prop :=
  ∃ obfs, syncBody format w.pool.state obfs t.cfg.lifetime t.cfg.grid = .ok body

def Synced (rfc3339 : Rfc3339) (format : FormatTime) (t : Tick) (w w' : World) : Prop :=
  ∃ body resp state view obfsStored, Sends format t w body ∧ t.answer = .ok resp ∧
    absorbSyncResponse rfc3339 w.pool.state resp = .ok (state, view) ∧
    w' = (w.answer body).sync (synced t state view) view obfsStored

theorem ensures_sync (hnot : ∀ w, pre w → failed w)
    (hanswered : ∀ w body, pre w → failed (w.answer body))
    (hsame : ∀ w w', pre w → Synced rfc3339 format t w w' → w'.pool.state = w.pool.state → mid w')
    (hsaved : ∀ w w', pre w → Synced rfc3339 format t w w' → mid w'.saved)
    (hfailed : t.saveSynced ≠ .ok () →
      ∀ w w', pre w → Synced rfc3339 format t w w' → failed w') :
    Ensures pre (sync rfc3339 format t) (fun _ => mid) failed := by
  intro w h
  simp only [sync, wp_bind, wp_get, wp_modify, wp_require, wp_runIf]
  refine ⟨fun _ _ => hnot w h, fun body hbody => ⟨fun _ _ => hnot w h, fun resp hanswer =>
    ⟨fun _ _ => hanswered w body h, ?_⟩⟩⟩
  rintro ⟨state, view⟩ habsorb
  have hsynced obfsStored : Synced rfc3339 format t w
      ((w.answer body).sync (synced t state view) view obfsStored) :=
    ⟨body, resp, state, view, obfsStored, ⟨_, hbody⟩, hanswer, habsorb, rfl⟩
  refine ⟨fun _ => wp_save (hsaved w _ h (hsynced _)) fun hsave => hfailed hsave w _ h (hsynced _),
    fun hunchanged => hsame w _ h (hsynced _) ?_⟩
  show synced t state view = w.pool.state
  simpa using hunchanged

theorem ensures_tick {live : World → Prop}
    (hplan : Ensures pre (planPool t) (fun _ => mid) failed)
    (happly : Ensures mid (applyPool t) (fun _ => live) failed)
    (hsync : Ensures live (sync rfc3339 format t) (fun _ => post) failed)
    (hskip : ∀ w, live w → post w) :
    Ensures pre (tick rfc3339 format t) (fun _ => post) failed := by
  apply Ensures.bind (fun _ => mid) hplan
  intro changed
  apply Ensures.bind (fun _ => live) happly
  intro live w h
  rw [wp_bind, wp_get, wp_runIf]
  exact ⟨fun _ => hsync w h, fun _ => hskip w h⟩

/-- A property that everything keeps but planning. -/
structure Closed (rfc3339 : Rfc3339) (format : FormatTime) (t : Tick) (inv : World → Prop) :
    Prop where
  saved : ∀ w, inv w → inv w.saved
  ran : ∀ w, inv w → inv (w.ran t.child)
  proved : ∀ w obfs, inv w → inv (w.proved obfs)
  answer : ∀ w body, inv w → inv (w.answer body)
  synced : ∀ w w', inv w → Synced rfc3339 format t w w' → inv w'

theorem ensures_tick_closed (hplan : Ensures pre (planPool t) (fun _ => mid) failed)
    (hclosed : Closed rfc3339 format t mid) (hfailed : ∀ w, mid w → failed w) :
    Ensures pre (tick rfc3339 format t) (fun _ => mid) failed := by
  refine ensures_tick hplan ?_ ?_ fun _ h => h
  · have hproved := fun w obfs h => hclosed.proved _ obfs (hclosed.ran w h)
    apply ensures_applyPool
    · exact fun _ h _ => h
    · exact hfailed
    · exact fun _ w h => hfailed _ (hclosed.ran w h)
    · exact fun w obfs _ h => hclosed.saved _ (hproved w obfs h)
    · exact fun _ w obfs _ h => hfailed _ (hproved w obfs h)
  · apply ensures_sync
    · exact hfailed
    · exact fun w body h => hfailed _ (hclosed.answer w body h)
    · exact fun w w' h hsynced _ => hclosed.synced w w' h hsynced
    · exact fun w w' h hsynced => hclosed.saved _ (hclosed.synced w w' h hsynced)
    · exact fun _ w w' h hsynced => hfailed _ (hclosed.synced w w' h hsynced)

end Rules

/-! ### Runs -/

inductive Event where
  | tick (t : Tick)
  | restart (draws : Nat → MintDraw)

def reopen (w : World) (draws : Nat → MintDraw) : World :=
  { w with
    pool := .open (loadState draws w.file)
    outstanding := false
    records := (loadState draws w.file).slots ++ w.records }

def next (rfc3339 : Rfc3339) (format : FormatTime) (w : World) : Event → World
  | .tick t => (exec (tick rfc3339 format t) w).2
  | .restart draws => reopen w draws

def step (rfc3339 : Rfc3339) (format : FormatTime) : World → Event → Option World :=
  Runs.total (next rfc3339 format)

theorem step_tick {format : FormatTime} (w : World) (t : Tick) :
    step rfc3339 format w (.tick t) = some (exec (tick rfc3339 format t) w).2 := rfl

def stored : Option LeaseState → LeaseState
  | none => .empty
  | some state => state

theorem map_loadState {κ : Type} {key : Slot → κ} {file : Option LeaseState}
    (hkey : ∀ d, ∀ s ∈ (stored file).slots, key (migrate d s) = key s) (draws : Nat → MintDraw) :
    (loadState draws file).slots.map key = (stored file).slots.map key := by
  cases file with
  | none => rfl
  | some state =>
    apply List.ext_getElem
    · simp [loadState, stored]
    · intro i hi hi'
      simp only [loadState, List.getElem_map, List.getElem_mapIdx]
      exact hkey _ _ (List.getElem_mem _)

/-- There is no file, and nothing has happened yet. -/
def start : World := ⟨.open .empty, none, false, [], [], [], []⟩

def opened (file : Option LeaseState) (draws : Nat → MintDraw) : World :=
  ⟨.open (loadState draws file), file, false, [], [], [], (loadState draws file).slots⟩

/-! ### Sample ticks -/

/-- The instants of the first day. -/
def sampleFormat : FormatTime := fun time =>
  let two (n : Nat) := toString (n / 10) ++ toString (n % 10)
  .ok ("1970-01-01T" ++ two (time.toNat / 3600) ++ ":" ++ two (time.toNat / 60 % 60) ++ ":" ++
    two (time.toNat % 60) ++ "Z")

def sampleDraw (tag : String) (_ : Nat) : MintDraw := ⟨tag, tag, tag, tag⟩

/-- A tick on which the pool is made live; the control plane is told nothing. -/
def sampleTick (size : Nat) (now : Int) (tag : String) : Tick where
  cfg := ⟨size, 1800, 600⟩
  now := now
  draws := sampleDraw tag
  savePlanned := .ok ()
  input := .ok ()
  child := .exited ⟨true, "exit status: 0", some (.object [("live", .bool true)]), 13, 0⟩ true
  saveApplied := .ok ()
  syncDue := false
  answer := .error "connection refused"
  later := now
  saveSynced := .ok ()

end SingboxVpn.SlotPool
