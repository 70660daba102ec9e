import SingboxVpn.Agent.Acceptable

namespace SingboxVpn.SlotPool

/-!
# What an answer of the control plane does to a slot

`absorb_sync_response` reads the entries of an answer into a map from slot numbers, which are cut
to 32 bits, and later entries replace earlier ones.  The flags of a slot, its renewals and its
rotation then look up the entry under its number and compare the generation.
-/

/-! ### Entries -/

def syncItems (resp : Json) : List Json := ((resp.get? "slots").bind Json.asArray).getD []

def named (item : Json) : Option (Nat × Nat × String) := do
  let slot ← (item.get? "slot").bind Json.asU64
  let generation ← (item.get? "generation").bind Json.asU64
  let state ← (item.get? "state").bind Json.asStr
  some (slot, generation, state)

def asksRenewal (item : Json) : Bool := ((item.get? "extend_to").bind Json.asStr).isSome

/-- The entry is the last one for its number, as far as 32 bits go. -/
def Decides (resp item : Json) (n : Nat) : Prop :=
  ∃ front rest, syncItems resp = front ++ item :: rest ∧
    ∀ item' ∈ rest, ∀ n' generation' state', named item' = some (n', generation', state') →
      n' % 2 ^ 32 ≠ n % 2 ^ 32

section Read
variable {rfc3339 : Rfc3339} {resp item : Json} {view : RemoteView} {k : Nat} {entry : RemoteSlot}

variable {n generation : Nat}

theorem named_eq_some {state : String} :
    named item = some (n, generation, state) ↔
      (item.get? "slot").bind Json.asU64 = some n ∧
      (item.get? "generation").bind Json.asU64 = some generation ∧
      (item.get? "state").bind Json.asStr = some state := by
  simp [named, Option.bind_eq_some_iff]

def IsTime (rfc3339 : Rfc3339) (time : Int) : Prop :=
  ∃ text nanos, rfc3339 text = some nanos ∧ unixTimestamp nanos = time

theorem isTime_of_readTime {message text : String} {time : Int}
    (h : readTime rfc3339 message text = .ok time) : IsTime rfc3339 time := by
  unfold readTime at h
  split at h
  · next nanos hnanos => exact ⟨text, nanos, hnanos, Except.ok.inj h⟩
  · cases h

theorem readRemoteSlot_some :
    readRemoteSlot rfc3339 item = .ok (some (k, entry)) →
      ∃ n, named item = some (n, entry.generation, entry.state) ∧ k = n % 2 ^ 32 ∧
        entry.extendTo.isSome = asksRenewal item ∧
        ∀ time, entry.extendTo = some time → IsTime rfc3339 time := by
  intro h
  unfold readRemoteSlot at h
  split at h
  · next n generation state hslot hgeneration hstate =>
    have hnamed := named_eq_some.mpr ⟨hslot, hgeneration, hstate⟩
    unfold asksRenewal
    split at h
    · next text htext =>
      obtain ⟨extendTo, hextend, h⟩ := Check.bind_eq_ok.mp h
      cases h
      cases htime : readTime rfc3339 "parsing sync extend_to" text with
      | error message =>
        rw [htime] at hextend
        cases hextend
      | ok time =>
        rw [htime] at hextend
        cases hextend
        refine ⟨n, hnamed, rfl, by simp [htext], ?_⟩
        rintro _ ⟨⟩
        exact isTime_of_readTime htime
    · next htext =>
      cases h
      exact ⟨n, hnamed, rfl, by simp [htext], by simp⟩
  · cases h

theorem readRemoteSlot_of_named {state : String} {o : Option (Nat × RemoteSlot)}
    (hread : readRemoteSlot rfc3339 item = .ok o)
    (hnamed : named item = some (n, generation, state)) :
    ∃ entry, o = some (n % 2 ^ 32, entry) ∧ entry.generation = generation ∧
      entry.state = state := by
  obtain ⟨hslot, hgeneration, hstate⟩ := named_eq_some.mp hnamed
  unfold readRemoteSlot at hread
  rw [hslot, hgeneration, hstate] at hread
  dsimp only at hread
  split at hread
  · obtain ⟨extendTo, -, h⟩ := Check.bind_eq_ok.mp hread
    cases h
    exact ⟨_, rfl, rfl, rfl⟩
  · cases hread
    exact ⟨_, rfl, rfl, rfl⟩

theorem isI64_of_asI64 {v : Json} {n : Int} (h : v.asI64 = some n) : IsI64 n := by
  cases v with
  | num m =>
    simp only [Json.asI64] at h
    split at h
    · next hrange =>
      cases h
      unfold IsI64 I64_MAX
      omega
    · cases h
  | _ => cases h

theorem collect_of_readView (h : readView rfc3339 resp = .ok view) :
    IsTime rfc3339 view.asOf ∧ IsI64 view.minRemaining ∧
    ∃ slots, Check.collect (readRemoteSlot rfc3339) (syncItems resp) = .ok slots ∧
      view.slots = slots.reverse := by
  unfold readView at h
  dsimp only at h
  split at h
  · obtain ⟨text, -, h⟩ := Check.bind_eq_ok.mp h
    obtain ⟨asOf, hasOf, h⟩ := Check.bind_eq_ok.mp h
    obtain ⟨slots, hslots, h⟩ := Check.bind_eq_ok.mp h
    cases h
    refine ⟨isTime_of_readTime hasOf, ?_, slots, hslots, rfl⟩
    cases hmin : (resp.get? "min_remaining_seconds").bind Json.asI64 with
    | none =>
      show IsI64 DEFAULT_MIN_REMAINING_SECS
      decide
    | some n =>
      obtain ⟨v, -, hv⟩ := Option.bind_eq_some_iff.mp hmin
      exact isI64_of_asI64 hv
  · cases h

theorem lookup_view (h : readView rfc3339 resp = .ok view) :
    view.slots.lookup k = some entry ↔
      ∃ item n, Decides resp item n ∧ n % 2 ^ 32 = k ∧
        readRemoteSlot rfc3339 item = .ok (some (k, entry)) ∧
        named item = some (n, entry.generation, entry.state) := by
  obtain ⟨-, -, slots, hcollect, hslots⟩ := collect_of_readView h
  rw [hslots, Check.lookup_reverse_collect hcollect]
  constructor
  · rintro ⟨front, item, rest, hitems, hread, hlast⟩
    obtain ⟨n, hnamed, rfl, -, -⟩ := readRemoteSlot_some hread
    refine ⟨item, n, ⟨front, rest, hitems, ?_⟩, rfl, hread, hnamed⟩
    intro item' hmem n' generation' state' hnamed' hn'
    have hin : item' ∈ syncItems resp := by simp [hitems, hmem]
    obtain ⟨o, ho⟩ := Check.ok_of_collect hcollect hin
    obtain ⟨entry', rfl, -, -⟩ := readRemoteSlot_of_named ho hnamed'
    rw [hn'] at ho
    exact hlast item' hmem entry' ho
  · rintro ⟨item, n, ⟨front, rest, hitems, hlast⟩, rfl, hread, -⟩
    refine ⟨front, item, rest, hitems, hread, fun item' hmem entry' hread' => ?_⟩
    obtain ⟨n', hnamed', hn', -, -⟩ := readRemoteSlot_some hread'
    exact hlast item' hmem n' _ _ hnamed' hn'.symm

end Read

/-! ### Effects -/

def adoptAll (view : RemoteView) (lifetime grid : Int) (times : List Int) (state : LeaseState) :
    LeaseState :=
  times.foldl (fun state now => (adoptExtensions state view now lifetime grid).1) state

inductive Effect where
  | reported
  | revoked
  | moved
  | rotated
deriving DecidableEq

/-- The effect has come over a slot of the pool: `before` the answer, and `after` it has been
absorbed, renewals have been adopted, and at a time `later`. -/
def Effect.Seen (before after : Slot) (pool : LeaseState) (view : RemoteView) (later : Int) :
    Effect → Prop
  | .reported => before.reported = false ∧ after.reported = true
  | .revoked => before.revoked = false ∧ after.revoked = true
  | .moved => after.validFrom ≠ before.validFrom ∨ after.validUntil ≠ before.validUntil
  -- neither expired, nor unreported with a window that has closed
  | .rotated => (∃ w, (after.slot, w) ∈ rotationCandidates pool (some view) later) ∧
      later < after.validUntil ∧
      ¬ (after.reported = false ∧ wrap64 (after.validUntil - view.minRemaining) ≤ later)

def Effect.JustifiedBy : Effect → String → Prop
  | .reported, _ => True
  | .revoked, state => state = "revoked"
  | .moved, state => state = "leased"
  | .rotated, state => state = "revoked" ∨ state = "active"

structure Slot.InRange (s : Slot) : Prop where
  slot : s.slot < 2 ^ 32
  generation : s.generation < 2 ^ 64
  validFrom : IsI64 s.validFrom
  validUntil : IsI64 s.validUntil

/-- Whatever an answer does to a slot of a pool, it has an entry for that very slot and generation
that justifies it. -/
def OnlyNamed (rfc3339 : Rfc3339) (resp : Json) : Prop :=
  ∀ (state state' : LeaseState) (view : RemoteView),
    (state.slots.map Slot.slot).Nodup → (∀ s ∈ state.slots, s.InRange) →
    absorbSyncResponse rfc3339 state resp = .ok (state', view) →
    ∀ (cfg : Config) (times : List Int) (later : Int), (∀ now ∈ times, IsI64 now) → IsI64 later →
    ∀ before ∈ state.slots, ∀ after ∈ (adoptAll view cfg.lifetime cfg.grid times state').slots,
      after.slot = before.slot →
    ∀ effect : Effect,
      effect.Seen before after (adoptAll view cfg.lifetime cfg.grid times state') view later →
      ∃ item ∈ syncItems resp, ∃ state,
        named item = some (before.slot, before.generation, state) ∧ effect.JustifiedBy state

section Settled
variable {view : RemoteView} {lifetime grid now later : Int} {s s' before after : Slot}
  {entry : RemoteSlot}

theorem entry_eq_some :
    view.entry s = some entry ↔
      view.slots.lookup s.slot = some entry ∧ entry.generation = s.generation := by
  rw [RemoteView.entry, Option.filter_eq_some_iff, beq_iff_eq]

theorem entry_congr (hslot : s.slot = s'.slot) (hgeneration : s.generation = s'.generation) :
    view.entry s = view.entry s' := by
  rw [RemoteView.entry, RemoteView.entry, hslot, hgeneration]

theorem entry_of_extension (h : extension view now lifetime grid s = some s') :
    ∃ entry, view.entry s = some entry ∧ entry.state = "leased" ∧ entry.extendTo.isSome = true := by
  obtain ⟨entry, hentry, h⟩ := Option.bind_eq_some_iff.mp h
  split at h
  · cases h
  · next hleased =>
    obtain ⟨t, ht, -⟩ := Option.bind_eq_some_iff.mp h
    rw [not_or, not_not] at hleased
    exact ⟨entry, hentry, hleased.1, by simp [ht]⟩

structure Settled (view : RemoteView) (before after : Slot) : Prop where
  slot : after.slot = before.slot
  generation : after.generation = before.generation
  reported : after.reported = (view.entry before).isSome
  revoked : after.revoked = true → ∃ entry, view.entry before = some entry ∧
    entry.state = "revoked"
  moved : after.validFrom ≠ before.validFrom ∨ after.validUntil ≠ before.validUntil →
    ∃ entry, view.entry before = some entry ∧ entry.state = "leased" ∧
      entry.extendTo.isSome = true

theorem settled_absorb (view : RemoteView) (s : Slot) : Settled view s (absorbSlot view s) where
  slot := rfl
  generation := rfl
  reported := rfl
  revoked h := by
    cases hentry : view.entry s with
    | none => simp [absorbSlot, hentry] at h
    | some entry => exact ⟨entry, rfl, by simpa [absorbSlot, hentry] using h⟩
  moved h := by simp [absorbSlot] at h

theorem Settled.renew (h : Settled view before s) :
    Settled view before ((extension view now lifetime grid s).getD s) := by
  cases hext : extension view now lifetime grid s with
  | none => exact h
  | some s' =>
    obtain ⟨entry, hentry, hleased⟩ := entry_of_extension hext
    rw [entry_congr h.slot h.generation] at hentry
    obtain ⟨next, -, -, rfl⟩ := extension_some hext
    exact ⟨h.slot, h.generation, h.reported, by simp, fun _ => ⟨entry, hentry, hleased⟩⟩

theorem settled_foldl (h : Settled view before s) (times : List Int) :
    Settled view before
      (times.foldl (fun s now => (extension view now lifetime grid s).getD s) s) := by
  induction times generalizing s with
  | nil => exact h
  | cons now times ih => exact ih h.renew

theorem adoptAll_slots (view : RemoteView) (lifetime grid : Int) (times : List Int)
    (state : LeaseState) :
    (adoptAll view lifetime grid times state).slots = state.slots.map
      (times.foldl fun s now => (extension view now lifetime grid s).getD s) := by
  induction times generalizing state with
  | nil => exact (List.map_id _).symm
  | cons now times ih =>
    rw [adoptAll, List.foldl_cons]
    refine (ih _).trans ?_
    simp [adoptExtensions]

variable {rfc3339 : Rfc3339} {state' : LeaseState} {resp : Json}

theorem readView_of_absorb {state : LeaseState}
    (h : absorbSyncResponse rfc3339 state resp = .ok (state', view)) :
    readView rfc3339 resp = .ok view ∧
      state' = { state with slots := state.slots.map (absorbSlot view) } := by
  obtain ⟨view', hview, h⟩ := Check.bind_eq_ok.mp h
  cases h
  exact ⟨hview, rfl⟩

theorem adopted_slots {state : LeaseState}
    (h : absorbSyncResponse rfc3339 state resp = .ok (state', view)) (times : List Int) :
    ∃ settle : Slot → Slot, (∀ s, Settled view s (settle s)) ∧
      (adoptAll view lifetime grid times state').slots = state.slots.map settle := by
  refine ⟨fun s => times.foldl (fun s now => (extension view now lifetime grid s).getD s)
    (absorbSlot view s), fun s => settled_foldl (settled_absorb view s) times, ?_⟩
  rw [adoptAll_slots, (readView_of_absorb h).2, List.map_map]
  rfl

theorem entry_of_why {w : Why} (hwhy : why (some view) later s = some w)
    (hlive : later < s.validUntil)
    (hopen : ¬ (s.reported = false ∧ wrap64 (s.validUntil - view.minRemaining) ≤ later)) :
    ∃ entry, view.entry s = some entry ∧ (entry.state = "revoked" ∨ entry.state = "active") := by
  unfold why at hwhy
  dsimp only [Option.map_some, Option.getD_some] at hwhy
  rw [if_neg (not_le.mpr hlive), if_neg (by simpa using hopen)] at hwhy
  obtain ⟨_, hview, hwhy⟩ := Option.bind_eq_some_iff.mp hwhy
  cases hview
  obtain ⟨entry, hentry, hwhy⟩ := Option.bind_eq_some_iff.mp hwhy
  refine ⟨entry, hentry, ?_⟩
  split at hwhy
  · next hrevoked => exact .inl hrevoked
  · split at hwhy
    · next hactive => exact .inr hactive.1
    · cases hwhy

theorem why_of_active (hentry : view.entry s = some entry) (hstate : entry.state = "active")
    (hlive : later < s.validUntil) (hreported : s.reported = true)
    (hclosed : wrap64 (s.validUntil - view.minRemaining) ≤ view.asOf) :
    why (some view) later s = some .deferrable := by
  unfold why
  dsimp only [Option.map_some, Option.getD_some]
  rw [if_neg (not_le.mpr hlive), if_neg (by simp [hreported])]
  show (view.entry s).bind _ = _
  rw [hentry, Option.bind_some, if_neg (by simp [hstate]), if_pos ⟨hstate, hclosed⟩]

theorem entry_of_seen {effect : Effect} {pool : LeaseState}
    (hnodup : (pool.slots.map Slot.slot).Nodup) (hafter : after ∈ pool.slots)
    (h : Settled view before after) (hseen : effect.Seen before after pool view later) :
    ∃ entry, view.entry before = some entry ∧ effect.JustifiedBy entry.state ∧
      (effect = .moved → entry.extendTo.isSome = true) := by
  cases effect with
  | reported =>
    obtain ⟨entry, hentry⟩ := Option.isSome_iff_exists.mp (h.reported.symm.trans hseen.2)
    exact ⟨entry, hentry, trivial, by simp⟩
  | revoked =>
    obtain ⟨entry, hentry, hstate⟩ := h.revoked hseen.2
    exact ⟨entry, hentry, hstate, by simp⟩
  | moved =>
    obtain ⟨entry, hentry, hstate, hextend⟩ := h.moved hseen
    exact ⟨entry, hentry, hstate, fun _ => hextend⟩
  | rotated =>
    obtain ⟨⟨w, hcandidate⟩, hlive, hopen⟩ := hseen
    obtain ⟨s, hs, hwhy, hslot⟩ := mem_rotationCandidates.mp hcandidate
    obtain rfl : s = after := List.inj_on_of_nodup_map hnodup hs hafter hslot
    obtain ⟨entry, hentry, hstate⟩ := entry_of_why hwhy hlive hopen
    rw [entry_congr h.slot h.generation] at hentry
    exact ⟨entry, hentry, hstate, by simp⟩

end Settled

/-! ### The answers that are safe -/

/-- The state of another entry that justifies whatever the entry can do. -/
def Warrants (item : Json) (state state' : String) : Prop :=
  (state = "revoked" → state' = "revoked") ∧
  (state = "active" → state' = "revoked" ∨ state' = "active") ∧
  (state = "leased" → asksRenewal item = true → state' = "leased")

/-- Where an entry with a number beyond 32 bits decides about a slot, there is another one for
just this slot and generation that justifies the same. -/
def WideBacked (resp : Json) : Prop :=
  ∀ item n generation state, named item = some (n, generation, state) → Decides resp item n →
    2 ^ 32 ≤ n →
    ∃ item' ∈ syncItems resp, ∃ state',
      named item' = some (n % 2 ^ 32, generation, state') ∧ Warrants item state state'

variable {resp item : Json} {n : Nat} {rfc3339 : Rfc3339}

theorem mem_of_decides (h : Decides resp item n) : item ∈ syncItems resp := by
  obtain ⟨front, rest, hitems, -⟩ := h
  simp [hitems]

theorem onlyNamed_of_wideBacked (h : WideBacked resp) : OnlyNamed rfc3339 resp := by
  intro state state' view hnodup _ habsorb cfg times later _ _ before hbefore after hafter hslot
    effect hseen
  obtain ⟨settle, hsettle, hslots⟩ := adopted_slots habsorb times
  have hnodup' : ((adoptAll view cfg.lifetime cfg.grid times state').slots.map Slot.slot).Nodup := by
    have hsame : Slot.slot ∘ settle = Slot.slot := funext fun s => (hsettle s).slot
    rwa [hslots, List.map_map, hsame]
  have hmine : settle before ∈ (adoptAll view cfg.lifetime cfg.grid times state').slots := by
    rw [hslots]
    exact List.mem_map_of_mem hbefore
  obtain rfl : after = settle before :=
    List.inj_on_of_nodup_map hnodup' hafter hmine (hslot.trans (hsettle before).slot.symm)
  obtain ⟨entry, hentry, hjust, hmoved⟩ := entry_of_seen hnodup' hafter (hsettle before) hseen
  obtain ⟨hlookup, hgeneration⟩ := entry_eq_some.mp hentry
  obtain ⟨item, n, hdecides, hn, hread, hnamed⟩ :=
    (lookup_view (readView_of_absorb habsorb).1).mp hlookup
  rw [hgeneration] at hnamed
  rcases Nat.lt_or_ge n (2 ^ 32) with hsmall | hwide
  · rw [Nat.mod_eq_of_lt hsmall] at hn
    subst hn
    exact ⟨item, mem_of_decides hdecides, entry.state, hnamed, hjust⟩
  · obtain ⟨item', hitem', state'', hnamed', hrevoked, hactive, hleased⟩ :=
      h item n _ _ hnamed hdecides hwide
    rw [hn] at hnamed'
    refine ⟨item', hitem', state'', hnamed', ?_⟩
    cases effect with
    | reported => exact trivial
    | revoked => exact hrevoked hjust
    | moved =>
      obtain ⟨_, _, _, hextend, _⟩ := readRemoteSlot_some hread
      exact hleased hjust (hextend ▸ hmoved rfl)
    | rotated =>
      rcases hjust with hstate | hstate
      · exact .inl (hrevoked hstate)
      · exact hactive hstate

section Sole
variable {rfc3339 : Rfc3339} {resp : Json} {view : RemoteView} {s : Slot}

theorem OnlyNamed.sole (h : OnlyNamed rfc3339 resp) (hview : readView rfc3339 resp = .ok view)
    (hs : s.InRange) (cfg : Config) {times : List Int} {later : Int}
    (htimes : ∀ now ∈ times, IsI64 now) (hlater : IsI64 later) {after : Slot} {effect : Effect}
    (hafter : times.foldl (fun s now => (extension view now cfg.lifetime cfg.grid s).getD s)
      (absorbSlot view s) = after)
    (hseen : ∀ pool, pool.slots = [after] → effect.Seen s after pool view later) :
    ∃ item ∈ syncItems resp, ∃ state,
      named item = some (s.slot, s.generation, state) ∧ effect.JustifiedBy state := by
  have habsorb : absorbSyncResponse rfc3339 ⟨[s], true, 0⟩ resp =
      .ok (⟨[absorbSlot view s], true, 0⟩, view) := by
    rw [absorbSyncResponse, hview]
    rfl
  have hslots : (adoptAll view cfg.lifetime cfg.grid times ⟨[absorbSlot view s], true, 0⟩).slots =
      [after] := by
    rw [adoptAll_slots]
    exact congrArg (fun s => [s]) hafter
  have hsettled : Settled view s after := hafter ▸ settled_foldl (settled_absorb view s) times
  refine h ⟨[s], true, 0⟩ ⟨[absorbSlot view s], true, 0⟩ view (List.nodup_singleton _)
    (by simpa using hs) habsorb cfg times later htimes hlater s (List.mem_singleton_self s) after ?_
    hsettled.slot effect (hseen _ hslots)
  rw [hslots]
  exact List.mem_singleton_self after

def newSlot (slot generation : Nat) (validUntil : Int) : Slot :=
  ⟨slot, generation, validUntil, "", "", .native, 0, false, "", "", false⟩

def dayConfig : Config := ⟨1, 1800, 600⟩

variable {k generation : Nat} {entry : RemoteSlot}

theorem inRange_newSlot (hk : k < 2 ^ 32) (hgeneration : generation < 2 ^ 64) {validUntil : Int}
    (h : IsI64 validUntil) : (newSlot k generation validUntil).InRange :=
  ⟨hk, hgeneration, show IsI64 0 by decide, h⟩

theorem exists_named (h : OnlyNamed rfc3339 resp) (hview : readView rfc3339 resp = .ok view)
    (hk : k < 2 ^ 32) (hgeneration : generation < 2 ^ 64)
    (hentry : view.entry (newSlot k generation 0) = some entry) :
    ∃ item ∈ syncItems resp, ∃ state, named item = some (k, generation, state) := by
  have hs : (newSlot k generation 0).InRange := inRange_newSlot hk hgeneration (by decide)
  have hseen : ∀ pool : LeaseState, pool.slots = [absorbSlot view (newSlot k generation 0)] →
      Effect.reported.Seen (newSlot k generation 0) (absorbSlot view (newSlot k generation 0)) pool
        view 0 := fun _ _ => ⟨rfl, by simp [absorbSlot, hentry]⟩
  obtain ⟨item, hitem, state, hnamed, -⟩ :=
    h.sole hview hs dayConfig (List.forall_mem_nil _) (by decide) rfl hseen
  exact ⟨item, hitem, state, hnamed⟩

theorem exists_revoked (h : OnlyNamed rfc3339 resp) (hview : readView rfc3339 resp = .ok view)
    (hk : k < 2 ^ 32) (hgeneration : generation < 2 ^ 64)
    (hentry : view.entry (newSlot k generation 0) = some entry) (hstate : entry.state = "revoked") :
    ∃ item ∈ syncItems resp, named item = some (k, generation, "revoked") := by
  have hs : (newSlot k generation 0).InRange := inRange_newSlot hk hgeneration (by decide)
  have hseen : ∀ pool : LeaseState, pool.slots = [absorbSlot view (newSlot k generation 0)] →
      Effect.revoked.Seen (newSlot k generation 0) (absorbSlot view (newSlot k generation 0)) pool
        view 0 := fun _ _ => ⟨rfl, by simp [absorbSlot, hentry, hstate]⟩
  obtain ⟨item, hitem, state, hnamed, rfl⟩ :=
    h.sole hview hs dayConfig (List.forall_mem_nil _) (by decide) rfl hseen
  exact ⟨item, hitem, hnamed⟩

theorem exists_closed {asOf minRemaining : Int} (hasOf : -2 ^ 62 ≤ asOf)
    (hmin : IsI64 minRemaining) :
    ∃ later validUntil, IsI64 later ∧ IsI64 validUntil ∧ later < validUntil ∧
      wrap64 (validUntil - minRemaining) ≤ asOf := by
  unfold IsI64 I64_MAX at *
  rcases le_or_gt 0 minRemaining with hpos | hneg
  · refine ⟨minRemaining - 2 ^ 62 - 1, minRemaining - 2 ^ 62, by omega, by omega, by omega, ?_⟩
    rw [show minRemaining - 2 ^ 62 - minRemaining = (-2 ^ 62 : Int) by omega,
      wrap64_of_mem (by decide) (by decide)]
    exact hasOf
  · refine ⟨minRemaining + 2 ^ 63 - 1, minRemaining + 2 ^ 63, by omega, by omega, by omega, ?_⟩
    rw [show minRemaining + 2 ^ 63 - minRemaining = (2 ^ 63 : Int) by omega,
      wrap64_of_high (by decide) (by decide)]
    omega

theorem exists_active (h : OnlyNamed rfc3339 resp) (hview : readView rfc3339 resp = .ok view)
    (hasOf : -2 ^ 62 ≤ view.asOf) (hk : k < 2 ^ 32) (hgeneration : generation < 2 ^ 64)
    (hentry : view.entry (newSlot k generation 0) = some entry) (hstate : entry.state = "active") :
    ∃ item ∈ syncItems resp, ∃ state, named item = some (k, generation, state) ∧
      (state = "revoked" ∨ state = "active") := by
  obtain ⟨later, validUntil, hlater, hvalid, hlive, hclosed⟩ :=
    exists_closed hasOf (collect_of_readView hview).2.1
  have hs : (newSlot k generation validUntil).InRange := inRange_newSlot hk hgeneration hvalid
  have hentry' : view.entry (newSlot k generation validUntil) = some entry := hentry
  have hseen : ∀ pool : LeaseState,
      pool.slots = [absorbSlot view (newSlot k generation validUntil)] →
      Effect.rotated.Seen (newSlot k generation validUntil)
        (absorbSlot view (newSlot k generation validUntil)) pool view later := by
    intro pool hpool
    refine ⟨⟨.deferrable, mem_rotationCandidates.mpr ⟨_, by simp [hpool], ?_, rfl⟩⟩, hlive, ?_⟩
    · exact why_of_active hentry' hstate hlive (by simp [absorbSlot, hentry']) hclosed
    · simp [absorbSlot, hentry']
  obtain ⟨item, hitem, state, hnamed, hjust⟩ :=
    h.sole hview hs dayConfig (List.forall_mem_nil _) hlater rfl hseen
  exact ⟨item, hitem, state, hnamed, hjust⟩

variable {time : Int}

theorem extension_of_leased {now lifetime grid : Int} (hentry : view.entry s = some entry)
    (hstate : entry.state = "leased") (htime : entry.extendTo = some time)
    (hlive : now < s.validUntil)
    (hnext : s.validUntil < min (roundDownToGrid time grid) (roundDownToGrid (now + lifetime) grid))
      :
    extension view now lifetime grid s = some { s with
      validFrom := now
      validUntil := min (roundDownToGrid time grid) (roundDownToGrid (now + lifetime) grid)
      revoked := false } := by
  unfold extension
  rw [hentry]
  show (if entry.state ≠ "leased" ∨ s.validUntil ≤ now then none else _) = _
  rw [if_neg (by simp [hstate, hlive]), htime]
  exact if_pos hnext

theorem exists_leased (h : OnlyNamed rfc3339 resp) (hview : readView rfc3339 resp = .ok view)
    (hk : k < 2 ^ 32) (hgeneration : generation < 2 ^ 64)
    (hentry : view.entry (newSlot k generation 0) = some entry) (hstate : entry.state = "leased")
    (htime : entry.extendTo = some time) (hlow : -2 ^ 62 ≤ time) (hhigh : time ≤ 2 ^ 62) :
    ∃ item ∈ syncItems resp, named item = some (k, generation, "leased") := by
  -- the slot ends two windows before the end that it is offered
  have hgrid : dayConfig.grid = 600 := by decide
  have hlifetime : dayConfig.lifetime = 1800 := by decide
  have hpos : (0 : Int) < 600 := by decide
  have hle := roundDownToGrid_le hpos time
  have hlt := lt_roundDownToGrid hpos time
  generalize hend : roundDownToGrid time 600 = finish at hle hlt
  have hcap := lt_roundDownToGrid hpos (finish - 1200 + 1800)
  have hnow : IsI64 (finish - 1200) := by
    unfold IsI64 I64_MAX
    omega
  have hvalid : IsI64 (finish - 1199) := by
    unfold IsI64 I64_MAX
    omega
  have hs : (newSlot k generation (finish - 1199)).InRange :=
    inRange_newSlot hk hgeneration hvalid
  have hentry' : view.entry (absorbSlot view (newSlot k generation (finish - 1199))) = some entry :=
    hentry
  have hnext : finish - 1199 <
      min (roundDownToGrid time 600) (roundDownToGrid (finish - 1200 + 1800) 600) := by omega
  have hext := extension_of_leased hentry' hstate htime (show finish - 1200 < finish - 1199 by omega)
    hnext
  rw [← hlifetime, ← hgrid] at hext hnext
  obtain ⟨item, hitem, state, hnamed, rfl⟩ := h.sole hview hs dayConfig
    (List.forall_mem_singleton.mpr hnow) (by decide : IsI64 0)
    (by rw [List.foldl_cons, List.foldl_nil, hext, Option.getD_some])
    (fun _ _ => show Effect.moved.Seen _ _ _ view 0 from .inr hnext.ne')
  exact ⟨item, hitem, hnamed⟩

end Sole

/-- An instant of RFC 3339 is within the years that it can write. -/
def Rfc3339.Moderate (rfc3339 : Rfc3339) : Prop :=
  ∀ time, IsTime rfc3339 time → -2 ^ 62 ≤ time ∧ time ≤ 2 ^ 62

theorem generation_lt_of_named {generation : Nat} {state : String}
    (h : named item = some (n, generation, state)) : generation < 2 ^ 64 := by
  obtain ⟨v, -, hv⟩ := Option.bind_eq_some_iff.mp (named_eq_some.mp h).2.1
  cases v with
  | num m =>
    simp only [Json.asU64] at hv
    split at hv
    · cases hv
      omega
    · cases hv
  | _ => cases hv

theorem wideBacked_of_onlyNamed {view : RemoteView} (hmoderate : Rfc3339.Moderate rfc3339)
    (hview : readView rfc3339 resp = .ok view) (h : OnlyNamed rfc3339 resp) : WideBacked resp := by
  intro item n generation state hnamed hdecides _
  obtain ⟨hasOf, -, slots, hcollect, -⟩ := collect_of_readView hview
  obtain ⟨o, hread⟩ := Check.ok_of_collect hcollect (mem_of_decides hdecides)
  obtain ⟨entry, rfl, rfl, rfl⟩ := readRemoteSlot_of_named hread hnamed
  obtain ⟨_, -, -, hrenewal, htime⟩ := readRemoteSlot_some hread
  have hk : n % 2 ^ 32 < 2 ^ 32 := Nat.mod_lt _ (by decide)
  have hgeneration := generation_lt_of_named hnamed
  have hentry : view.entry (newSlot (n % 2 ^ 32) entry.generation 0) = some entry :=
    entry_eq_some.mpr ⟨(lookup_view hview).mpr ⟨item, n, hdecides, rfl, hread, hnamed⟩, rfl⟩
  by_cases hrevoked : entry.state = "revoked"
  · obtain ⟨item', hitem', hnamed'⟩ := exists_revoked h hview hk hgeneration hentry hrevoked
    exact ⟨item', hitem', _, hnamed', fun _ => rfl, fun _ => .inl rfl, by simp [hrevoked]⟩
  by_cases hactive : entry.state = "active"
  · obtain ⟨item', hitem', state', hnamed', hstate'⟩ :=
      exists_active h hview (hmoderate _ hasOf).1 hk hgeneration hentry hactive
    exact ⟨item', hitem', state', hnamed', by simp [hactive], fun _ => hstate', by simp [hactive]⟩
  by_cases hleased : entry.state = "leased" ∧ asksRenewal item = true
  · obtain ⟨time, hextend⟩ := Option.isSome_iff_exists.mp (hrenewal.trans hleased.2)
    obtain ⟨hlow, hhigh⟩ := hmoderate time (htime time hextend)
    obtain ⟨item', hitem', hnamed'⟩ :=
      exists_leased h hview hk hgeneration hentry hleased.1 hextend hlow hhigh
    exact ⟨item', hitem', _, hnamed', by simp [hleased.1], by simp [hleased.1], fun _ _ => rfl⟩
  · obtain ⟨item', hitem', state', hnamed'⟩ := exists_named h hview hk hgeneration hentry
    exact ⟨item', hitem', state', hnamed', fun hs => absurd hs hrevoked,
      fun hs => absurd hs hactive, fun hs hr => absurd ⟨hs, hr⟩ hleased⟩

/-- An answer that can be read has effects only on the slot generations that it names, exactly if
each entry with a number beyond 32 bits that decides about a slot is backed by one that names it. -/
theorem onlyNamed_iff (rfc3339 : Rfc3339) (hmoderate : Rfc3339.Moderate rfc3339) (resp : Json)
    (haccepted : ∃ view, readView rfc3339 resp = .ok view) :
    OnlyNamed rfc3339 resp ↔ WideBacked resp := by
  obtain ⟨view, hview⟩ := haccepted
  exact ⟨wideBacked_of_onlyNamed hmoderate hview, onlyNamed_of_wideBacked⟩

def entryFor (slot : Int) (state : String) : Json :=
  .object [("slot", .num slot), ("generation", .num 1), ("state", .str state)]

def answerWith (entries : List Json) : Json :=
  .object [("as_of", .str "1970-01-01T00:00:00Z"), ("slots", .arr entries)]

def answerFor (slot : Int) (state : String) : Json := answerWith [entryFor slot state]

theorem moderate_sampleParse : Rfc3339.Moderate sampleParse := by
  rintro _ ⟨text, nanos, hparse, rfl⟩
  obtain ⟨before, after, hinstants, -⟩ := List.lookup_eq_some_iff.mp hparse
  have hmem : (text, nanos) ∈ before ++ (text, nanos) :: after :=
    List.mem_append_right _ List.mem_cons_self
  rw [← hinstants] at hmem
  have hmoderate : ∀ p ∈ sampleInstants,
      -2 ^ 62 ≤ unixTimestamp p.2 ∧ unixTimestamp p.2 ≤ 2 ^ 62 := by
    decide +kernel
  exact hmoderate _ hmem

/-- Slot 0 is revoked by its own entry and by a wide one after it. -/
theorem onlyNamed_iff_backed :
    OnlyNamed sampleParse (answerWith [entryFor 0 "revoked", entryFor 4294967296 "revoked"]) := by
  refine (onlyNamed_iff _ moderate_sampleParse _ ⟨_, rfl⟩).mpr ?_
  intro item n generation state hnamed hdecides hwide
  have hitem : item ∈ [entryFor 0 "revoked", entryFor 4294967296 "revoked"] :=
    mem_of_decides hdecides
  simp only [List.mem_cons, List.not_mem_nil, or_false] at hitem
  rcases hitem with rfl | rfl
  · obtain ⟨rfl, -⟩ := Prod.mk.inj (Option.some.inj hnamed)
    exact absurd hwide (by decide)
  · obtain ⟨rfl, hrest⟩ := Prod.mk.inj (Option.some.inj hnamed)
    obtain ⟨rfl, rfl⟩ := Prod.mk.inj hrest
    exact ⟨_, List.mem_cons_self, "revoked", rfl, fun _ => rfl, fun _ => .inl rfl, by decide⟩

/-- The entry is for a slot that no pool has; the pool's slot 0 is revoked and is to rotate. -/
theorem onlyNamed_wide_fails :
    (∀ state, ∀ item ∈ syncItems (answerFor 4294967296 "revoked"),
      named item ≠ some (0, 1, state)) ∧
    (∃ state' view, absorbSyncResponse sampleParse ⟨[newSlot 0 1 3600], true, 0⟩
        (answerFor 4294967296 "revoked") = .ok (state', view) ∧
      state'.slots.map (fun s => (s.slot, s.generation, s.reported, s.revoked)) =
        [(0, 1, true, true)] ∧
      rotationCandidates state' (some view) 0 = [(0, .deferrable)]) ∧
    ¬ OnlyNamed sampleParse (answerFor 4294967296 "revoked") := by
  have hnot : ∀ state, ∀ item ∈ syncItems (answerFor 4294967296 "revoked"),
      named item ≠ some (0, 1, state) := by
    intro state item hitem hnamed
    obtain rfl := List.mem_singleton.mp hitem
    exact absurd (Prod.mk.inj (Option.some.inj hnamed)).1 (by decide)
  refine ⟨hnot, ⟨_, _, rfl, by decide, by decide +kernel⟩, fun h => ?_⟩
  have hentry : ∃ entry, (RemoteView.mk 0 600 [(0, ⟨1, "revoked", false, none⟩)]).entry
      (newSlot 0 1 0) = some entry := ⟨_, rfl⟩
  obtain ⟨entry, hentry⟩ := hentry
  obtain ⟨item, hitem, state, hnamed⟩ := exists_named h rfl (by decide) (by decide) hentry
  exact hnot state item hitem hnamed

end SingboxVpn.SlotPool
