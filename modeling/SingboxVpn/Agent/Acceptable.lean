import SingboxVpn.Agent.LeasePool
import SingboxVpn.Lib.Run

/-!
# What the agent hands to `vpn-admin` is accepted

`vpn-admin` checks the pool that the agent hands it with code of its own: names, secrets, windows
and their uniqueness.  Nothing the agent does to its slots leads to a pool that fails these checks.

* `Acceptable` — what a lease state has to be; `accepted_input` — such a state is accepted.
* `planned_acceptable`, `synced_acceptable`, `loadState_acceptable` — what keeps it.
-/

namespace SingboxVpn.SlotPool

open Fallible
open Authorization (NATIVE_LEASE_SECS)

/-! ### Acceptable states -/

def Slot.lowerUuid (s : Slot) : String := Text.toAsciiLowercase s.vlessUuid

structure Slot.WellFormed (s : Slot) : Prop where
  principal : Authorization.validatePrincipalId s.principalId = .ok ()
  native : Text.startsWith "native_" s.principalId = true
  credential : Authorization.validateCredentialId s.credentialId = .ok ()
  cls : s.cls = .native
  uuid : Authorization.validVlessUuid s.vlessUuid = true
  password : Authorization.validHysteria2Password s.hysteria2Password = true
  expiry : 0 < s.validUntil
  opens : s.validFrom < s.validUntil
  lifetime : s.validUntil - s.validFrom ≤ NATIVE_LEASE_SECS

structure Acceptable (state : LeaseState) : Prop where
  numbers : (state.slots.map Slot.slot).Nodup
  formed : ∀ s ∈ state.slots, s.WellFormed
  principals : (state.slots.map Slot.principalId).Nodup
  credentials : (state.slots.map Slot.credentialId).Nodup
  uuids : (state.slots.map Slot.lowerUuid).Nodup

def slotAuthorization (s : Slot) : Authorization where
  principalId := s.principalId
  credentialId := s.credentialId
  cls := s.cls
  validFrom := s.validFrom
  validUntil := s.validUntil
  revoked := s.revoked
  vlessUuid := some s.vlessUuid
  hysteria2Password := some s.hysteria2Password

section Accepted

variable {s : Slot} {state : LeaseState}

theorem validateItem_slot (h : s.WellFormed) : (slotAuthorization s).validateItem = .ok () := by
  have hopens := h.opens
  have hlifetime := h.lifetime
  unfold NATIVE_LEASE_SECS at hlifetime
  have hclass : (slotAuthorization s).validateClass = .ok () := by
    simp [Authorization.validateClass, slotAuthorization, h.cls, h.native]
  have hlimit : Authorization.lifetimeLimit (slotAuthorization s).cls = NATIVE_LEASE_SECS := by
    simp [slotAuthorization, h.cls, Authorization.lifetimeLimit]
  rw [Authorization.validateItem_ok, hlimit]
  refine ⟨⟨h.principal, h.credential, hclass⟩, ?_, fun _ => ⟨?_, ?_, h.lifetime⟩⟩
  · show -(2 ^ 63) ≤ s.validUntil - s.validFrom ∧ s.validUntil - s.validFrom < 2 ^ 63
    omega
  · show 0 < s.validUntil - s.validFrom
    omega
  · exact ⟨rfl, by simp [slotAuthorization, h.uuid], by simp [slotAuthorization, h.password]⟩

theorem check_slotInput (h : s.WellFormed) (hslot : s.slot < LeasePool.MAX_SLOTS) :
    LeasePool.LeaseSlotInput.check [] (slotInput s) = .ok () := by
  have hcount : (slotInput s).metadataCount = 4 := rfl
  simp only [LeasePool.LeaseSlotInput.check, Check.bind_ok, Check.refuseIf_ok, hcount,
    LeasePool.validUuid, LeasePool.validPassword]
  refine ⟨?_, ?_, ?_, rfl, rfl⟩
  · rw [List.any_nil, Bool.or_false]
    exact decide_eq_false (not_le.mpr hslot)
  · simp [slotInput, h.uuid, h.password]
  · exact decide_eq_false (not_le.mpr h.expiry)

theorem accepted_input (h : Acceptable state)
    (hsize : state.slots.length ≤ LeasePool.MAX_SLOTS)
    (hrange : ∀ s ∈ state.slots, s.slot < LeasePool.MAX_SLOTS) :
    LeasePool.Accepted (vpnAdminInput state) := by
  have hauths : (vpnAdminInput state).slots.filterMap LeasePool.LeaseSlotInput.authorization =
      state.slots.map slotAuthorization := by
    rw [vpnAdminInput_slots, List.filterMap_map, ← List.filterMap_eq_map]
    rfl
  refine ⟨?_, ?_, ?_, ?_⟩
  · simpa [vpnAdminInput_slots] using hsize
  · refine LeasePool.eachSeen_check.mpr ⟨?_, ?_⟩
    · intro s hs
      obtain ⟨s₀, hs₀, rfl⟩ := List.mem_map.mp hs
      exact check_slotInput (h.formed s₀ hs₀) (hrange s₀ hs₀)
    · rw [vpnAdminInput_slots, List.map_map]
      exact h.numbers
  · rw [hauths, AuthorizationSet.validate_ok]
    refine ⟨?_, ?_, AuthorizationSet.validateSet_of_nodup ?_⟩
    · intro a ha
      obtain ⟨s, hs, rfl⟩ := List.mem_map.mp ha
      exact validateItem_slot (h.formed s hs)
    · rw [List.map_map]
      exact h.credentials
    · rw [List.map_map]
      exact h.principals
  · have huuids : (vpnAdminInput state).slots.map LeasePool.LeaseSlotInput.lowerUuid =
        state.slots.map Slot.lowerUuid := by
      rw [vpnAdminInput_slots, List.map_map]
      rfl
    rw [huuids, h.uuids.dedup, List.length_map, vpnAdminInput_slots, List.length_map]

end Accepted

/-! ### What is assumed of the draws -/

def MintDraw.lowerUuid (d : MintDraw) : String := Text.toAsciiLowercase d.vlessUuid

def Apart (drawKey : MintDraw → String) (key : Slot → String) (count : Nat)
    (draws : Nat → MintDraw) (slots : List Slot) : Prop :=
  ∀ n < count, (∀ m < count, drawKey (draws n) = drawKey (draws m) → n = m) ∧
    ∀ s ∈ slots, drawKey (draws n) ≠ key s

instance (drawKey : MintDraw → String) (key : Slot → String) (count : Nat)
    (draws : Nat → MintDraw) (slots : List Slot) :
    Decidable (Apart drawKey key count draws slots) :=
  inferInstanceAs (Decidable (∀ n < count,
    (∀ m < count, drawKey (draws n) = drawKey (draws m) → n = m) ∧
      ∀ s ∈ slots, drawKey (draws n) ≠ key s))

structure FreshIds (count : Nat) (draws : Nat → MintDraw) (slots : List Slot) : Prop where
  principal : ∀ n < count, Authorization.validatePrincipalId (draws n).principalId = .ok ()
  credential : ∀ n < count, Authorization.validateCredentialId (draws n).credentialId = .ok ()
  principals : Apart MintDraw.principalId Slot.principalId count draws slots
  credentials : Apart MintDraw.credentialId Slot.credentialId count draws slots

structure FreshDraws (count : Nat) (draws : Nat → MintDraw) (slots : List Slot) : Prop
    extends FreshIds count draws slots where
  uuid : ∀ n < count, Authorization.validVlessUuid (draws n).vlessUuid = true
  password : ∀ n < count, Authorization.validHysteria2Password (draws n).hysteria2Password = true
  uuids : Apart MintDraw.lowerUuid Slot.lowerUuid count draws slots

instance (count : Nat) (draws : Nat → MintDraw) (slots : List Slot) :
    Decidable (FreshIds count draws slots) :=
  decidable_of_iff ((∀ n < count,
      Authorization.validatePrincipalId (draws n).principalId = .ok () ∧
        Authorization.validateCredentialId (draws n).credentialId = .ok ()) ∧
      Apart MintDraw.principalId Slot.principalId count draws slots ∧
      Apart MintDraw.credentialId Slot.credentialId count draws slots)
    ⟨fun ⟨hids, hp, hc⟩ => ⟨fun n hn => (hids n hn).1, fun n hn => (hids n hn).2, hp, hc⟩,
      fun h => ⟨fun n hn => ⟨h.principal n hn, h.credential n hn⟩, h.principals, h.credentials⟩⟩

instance (count : Nat) (draws : Nat → MintDraw) (slots : List Slot) :
    Decidable (FreshDraws count draws slots) :=
  decidable_of_iff (FreshIds count draws slots ∧ (∀ n < count,
      Authorization.validVlessUuid (draws n).vlessUuid = true ∧
        Authorization.validHysteria2Password (draws n).hysteria2Password = true) ∧
      Apart MintDraw.lowerUuid Slot.lowerUuid count draws slots)
    ⟨fun ⟨hids, hs, hu⟩ => ⟨hids, fun n hn => (hs n hn).1, fun n hn => (hs n hn).2, hu⟩,
      fun h => ⟨h.toFreshIds, fun n hn => ⟨h.uuid n hn, h.password n hn⟩, h.uuids⟩⟩

theorem startsWith_principalId (d : MintDraw) :
    Text.startsWith "native_" d.principalId = true := by
  rw [Text.startsWith_iff, MintDraw.principalId, String.toList_append]
  exact List.prefix_append _ _

/-! ### Lifetimes -/

section Lifetime

variable {now grid : Int}

theorem roundDownToGrid_le (hgrid : 0 < grid) (t : Int) : roundDownToGrid t grid ≤ t :=
  Int.ediv_mul_le t hgrid.ne'

theorem lt_roundDownToGrid (hgrid : 0 < grid) (t : Int) : t - grid < roundDownToGrid t grid := by
  have hdivmod := Int.ediv_mul_add_emod t grid
  have hmod := Int.emod_lt_of_pos t hgrid
  unfold roundDownToGrid
  omega

theorem Config.grid_bounds (cfg : Config) : 60 ≤ cfg.grid ∧ cfg.grid ≤ 600 := by
  unfold Config.grid clampBatchInterval DEFAULT_BATCH_SECS
  omega

/-- A lifetime is within the native lease; a minute of it stays after flooring to the grid and
    after the time that a lease has to have left. -/
theorem Config.lifetime_bounds (cfg : Config) :
    DEFAULT_MIN_REMAINING_SECS + cfg.grid + 60 ≤ cfg.lifetime ∧
      cfg.lifetime ≤ NATIVE_LEASE_SECS := by
  have hgrid := cfg.grid_bounds
  unfold Config.lifetime clampLifetime DEFAULT_MIN_REMAINING_SECS NATIVE_LEASE_SECS
  omega

end Lifetime

/-! ### Planning -/

section Planning

variable {t : Tick} {pool : Pool}

def Tick.size (t : Tick) : Nat := min t.cfg.leasePoolSize MAX_POOL_SIZE

theorem planned_slot_lt (hnumbers : (pool.state.slots.map Slot.slot).Nodup) {s : Slot}
    (hs : s ∈ (planned t pool).1.slots) : s.slot < t.size := by
  have hmem : s.slot ∈ (planned t pool).1.slots.map Slot.slot := List.mem_map_of_mem hs
  rw [planned_numbers hnumbers] at hmem
  exact List.mem_range.mp hmem

theorem mint_validUntil (d : MintDraw) (slot generation : Nat) :
    let s := mint d slot generation t.now t.cfg.lifetime t.cfg.grid
    t.now + DEFAULT_MIN_REMAINING_SECS + 60 < s.validUntil ∧
      s.validUntil ≤ t.now + NATIVE_LEASE_SECS := by
  obtain ⟨hlow, hhigh⟩ := t.cfg.lifetime_bounds
  have hgrid : 0 < t.cfg.grid := lt_of_lt_of_le (by decide) t.cfg.grid_bounds.1
  have hfloor := roundDownToGrid_le hgrid (t.now + t.cfg.lifetime)
  have hceil := lt_roundDownToGrid hgrid (t.now + t.cfg.lifetime)
  show t.now + DEFAULT_MIN_REMAINING_SECS + 60 < roundDownToGrid _ _ ∧ roundDownToGrid _ _ ≤ _
  constructor
  · omega
  · omega

theorem wellFormed_mint {d : MintDraw} {slot generation : Nat} {principal : String}
    (hprincipal : Authorization.validatePrincipalId principal = .ok ())
    (hnative : Text.startsWith "native_" principal = true)
    (hcredential : Authorization.validateCredentialId d.credentialId = .ok ())
    (huuid : Authorization.validVlessUuid d.vlessUuid = true)
    (hpassword : Authorization.validHysteria2Password d.hysteria2Password = true)
    (hnow : 0 ≤ t.now) :
    { mint d slot generation t.now t.cfg.lifetime t.cfg.grid with
      principalId := principal }.WellFormed := by
  obtain ⟨hlow, hhigh⟩ := mint_validUntil (t := t) d slot generation
  unfold DEFAULT_MIN_REMAINING_SECS at hlow
  refine ⟨hprincipal, hnative, hcredential, rfl, huuid, hpassword, ?_, ?_, ?_⟩
  · show 0 < (mint d slot generation t.now t.cfg.lifetime t.cfg.grid).validUntil
    omega
  · show t.now < (mint d slot generation t.now t.cfg.lifetime t.cfg.grid).validUntil
    omega
  · show (mint d slot generation t.now t.cfg.lifetime t.cfg.grid).validUntil - t.now ≤ _
    omega

theorem nodup_planned_key {drawKey : MintDraw → String} {key : Slot → String}
    (hnumbers : (pool.state.slots.map Slot.slot).Nodup)
    (horigin : ∀ s ∈ (planned t pool).1.slots,
      (∃ e ∈ pool.state.slots, e.slot = s.slot ∧ key s = key e) ∨
        key s = drawKey (t.draws s.slot))
    (hold : (pool.state.slots.map key).Nodup)
    (hapart : Apart drawKey key t.size t.draws pool.state.slots) :
    ((planned t pool).1.slots.map key).Nodup := by
  have hslots : (planned t pool).1.slots.Pairwise fun a b => a.slot ≠ b.slot :=
    List.pairwise_map.mp (nodup_planned hnumbers)
  refine List.pairwise_map.mpr (hslots.imp_of_mem fun {a b} ha hb hne heq => hne ?_)
  have hna := planned_slot_lt hnumbers ha
  have hnb := planned_slot_lt hnumbers hb
  rcases horigin a ha with ⟨e, he, hea, hka⟩ | hka
  · rcases horigin b hb with ⟨e', he', heb, hkb⟩ | hkb
    · have hsame : e = e' :=
        List.inj_on_of_nodup_map hold he he' (hka.symm.trans (heq.trans hkb))
      rw [← hea, ← heb, hsame]
    · exact absurd (hkb.symm.trans (heq.symm.trans hka)) ((hapart b.slot hnb).2 e he)
  · rcases horigin b hb with ⟨e', he', -, hkb⟩ | hkb
    · exact absurd (hka.symm.trans (heq.trans hkb)) ((hapart a.slot hna).2 e' he')
    · exact (hapart a.slot hna).1 b.slot hnb (hka.symm.trans (heq.trans hkb))

theorem planned_acceptable (h : Acceptable pool.state)
    (hfresh : FreshDraws t.size t.draws pool.state.slots) (hnow : 0 ≤ t.now) :
    Acceptable (planned t pool).1 := by
  refine ⟨nodup_planned h.numbers, ?_, ?_, ?_, ?_⟩
  · intro s hs
    have hn := planned_slot_lt h.numbers hs
    rcases planned_origin h.numbers hs with ⟨hkept, -⟩ | ⟨e, he, rfl⟩ | ⟨-, -, hnew⟩
    · exact h.formed s hkept
    · exact wellFormed_mint (h.formed e he).principal (h.formed e he).native
        (hfresh.credential _ hn) (hfresh.uuid _ hn) (hfresh.password _ hn) hnow
    · rw [hnew]
      exact wellFormed_mint (hfresh.principal _ hn) (startsWith_principalId _)
        (hfresh.credential _ hn) (hfresh.uuid _ hn) (hfresh.password _ hn) hnow
  · refine nodup_planned_key h.numbers (fun s hs => ?_) h.principals hfresh.principals
    -- the next generation has the principal of the one before it
    rcases planned_origin h.numbers hs with ⟨hkept, -⟩ | ⟨e, he, rfl⟩ | ⟨-, -, hnew⟩
    · exact .inl ⟨s, hkept, rfl, rfl⟩
    · exact .inl ⟨e, he, rfl, rfl⟩
    · exact .inr (congrArg Slot.principalId hnew)
  · refine nodup_planned_key h.numbers (fun s hs => ?_) h.credentials hfresh.credentials
    rcases planned_origin h.numbers hs with ⟨hkept, -⟩ | ⟨e, he, rfl⟩ | ⟨-, -, hnew⟩
    · exact .inl ⟨s, hkept, rfl, rfl⟩
    · exact .inr rfl
    · exact .inr (congrArg Slot.credentialId hnew)
  · refine nodup_planned_key h.numbers (fun s hs => ?_) h.uuids hfresh.uuids
    rcases planned_origin h.numbers hs with ⟨hkept, -⟩ | ⟨e, he, rfl⟩ | ⟨-, -, hnew⟩
    · exact .inl ⟨s, hkept, rfl, rfl⟩
    · exact .inr rfl
    · exact .inr (congrArg Slot.lowerUuid hnew)

end Planning

/-! ### Renewals -/

/-- A renewal: the control plane says that this generation is leased, it has not expired, its end
    moves forward by at most a lifetime from now, and the window and the mark of withdrawal are all
    that changes. -/
structure Renews (view : RemoteView) (now lifetime : Int) (s s' : Slot) : Prop where
  leased : ∃ entry, view.slots.lookup s.slot = some entry ∧ entry.generation = s.generation ∧
    entry.state = "leased"
  unexpired : now < s.validUntil
  forward : s.validUntil < s'.validUntil
  bounded : s'.validUntil ≤ now + lifetime
  kept : s' = { s with validFrom := now, validUntil := s'.validUntil, revoked := false }

section Renewals

variable {view : RemoteView} {now lifetime grid : Int} {s s' : Slot}

theorem renews_extension (hgrid : 0 < grid) (h : extension view now lifetime grid s = some s') :
    Renews view now lifetime s s' := by
  obtain ⟨entry, hentry, h⟩ := Option.bind_eq_some_iff.mp h
  obtain ⟨hlookup, hgeneration⟩ := Option.filter_eq_some_iff.mp hentry
  split at h
  · cases h
  · next hguard =>
    push Not at hguard
    obtain ⟨t, -, h⟩ := Option.bind_eq_some_iff.mp h
    simp only at h
    split at h
    · next hforward =>
      obtain rfl := Option.some.inj h
      refine ⟨⟨entry, hlookup, beq_iff_eq.mp hgeneration, hguard.1⟩, hguard.2, hforward, ?_, rfl⟩
      exact (min_le_right _ _).trans (roundDownToGrid_le hgrid _)
    · cases h

theorem adoptExtensions_renews (hgrid : 0 < grid) (state : LeaseState) :
    List.Forall₂ (fun s s' => s' = s ∨ Renews view now lifetime s s') state.slots
      (adoptExtensions state view now lifetime grid).1.slots := by
  show List.Forall₂ _ state.slots
    (state.slots.map fun s => (extension view now lifetime grid s).getD s)
  rw [List.forall₂_map_right_iff]
  refine List.forall₂_same.mpr fun s _ => ?_
  cases hext : extension view now lifetime grid s with
  | none => exact .inl rfl
  | some s' => exact .inr (renews_extension hgrid hext)

theorem Renews.wellFormed (h : Renews view now lifetime s s') (hs : s.WellFormed)
    (hlifetime : lifetime ≤ NATIVE_LEASE_SECS) : s'.WellFormed := by
  obtain ⟨-, hunexpired, hforward, hbounded, hkept⟩ := h
  have hexpiry := hs.expiry
  rw [hkept]
  refine ⟨hs.principal, hs.native, hs.credential, hs.cls, hs.uuid, hs.password, ?_, ?_, ?_⟩
  · show 0 < s'.validUntil
    omega
  · show now < s'.validUntil
    omega
  · show s'.validUntil - now ≤ NATIVE_LEASE_SECS
    omega

theorem synced_acceptable {rfc3339 : Rfc3339} {t : Tick} {state state' : LeaseState} {resp : Json}
    (h : Acceptable state) (habsorb : absorbSyncResponse rfc3339 state resp = .ok (state', view)) :
    Acceptable (synced t state' view) := by
  have hgrid : 0 < t.cfg.grid := lt_of_lt_of_le (by decide) t.cfg.grid_bounds.1
  refine ⟨?_, ?_, ?_, ?_, ?_⟩
  · rw [map_synced (fun _ _ _ _ _ => rfl) habsorb]
    exact h.numbers
  · intro s hs
    rw [(synced_slots habsorb).1] at hs
    obtain ⟨s₀, hs₀, rfl⟩ := List.mem_map.mp hs
    obtain ⟨hprincipal, hnative, hcredential, hcls, huuid, hpassword, hexpiry, hopens, hlifetime⟩ :=
      h.formed s₀ hs₀
    have habsorbed : (absorbSlot view s₀).WellFormed :=
      ⟨hprincipal, hnative, hcredential, hcls, huuid, hpassword, hexpiry, hopens, hlifetime⟩
    unfold syncSlot
    cases hext : extension view t.later t.cfg.lifetime t.cfg.grid (absorbSlot view s₀) with
    | none => exact habsorbed
    | some s' =>
      exact (renews_extension hgrid hext).wellFormed habsorbed t.cfg.lifetime_bounds.2
  · rw [map_synced (fun _ _ _ _ _ => rfl) habsorb]
    exact h.principals
  · rw [map_synced (fun _ _ _ _ _ => rfl) habsorb]
    exact h.credentials
  · rw [map_synced (fun _ _ _ _ _ => rfl) habsorb]
    exact h.uuids

end Renewals

/-! ### Loading -/

structure Slot.Legacy (s : Slot) : Prop where
  principal : s.principalId = ""
  credential : s.credentialId = ""
  cls : s.cls = .native
  start : s.validFrom = 0
  kept : s.revoked = false
  uuid : Authorization.validVlessUuid s.vlessUuid = true
  password : Authorization.validHysteria2Password s.hysteria2Password = true
  expiry : 0 < s.validUntil ∧ s.validUntil ≤ I64_MAX

structure LegacyFile (state : LeaseState) : Prop where
  numbers : (state.slots.map Slot.slot).Nodup
  slots : ∀ s ∈ state.slots, s.Legacy
  uuids : (state.slots.map Slot.lowerUuid).Nodup

section Loading

variable {state : LeaseState} {draws : Nat → MintDraw}

theorem mem_loadState {s : Slot} (hs : s ∈ (loadState draws (some state)).slots) :
    ∃ i, ∃ hi : i < state.slots.length, s = migrate (draws i) state.slots[i] := by
  obtain ⟨i, hi, heq⟩ := List.mem_mapIdx.mp hs
  exact ⟨i, hi, heq.symm⟩

theorem Slot.WellFormed.ids_ne {s : Slot} (h : s.WellFormed) :
    s.principalId ≠ "" ∧ s.credentialId ≠ "" := by
  constructor
  · intro hempty
    have hok := h.principal
    rw [hempty] at hok
    cases hok
  · intro hempty
    have hok := h.credential
    rw [hempty] at hok
    cases hok

theorem wrap64_lease {expiry : Int} (hpos : 0 < expiry) (hmax : expiry ≤ I64_MAX) :
    wrap64 (expiry - NATIVE_LEASE_SECS) = expiry - NATIVE_LEASE_SECS := by
  unfold NATIVE_LEASE_SECS
  exact wrap64_of_mem (by omega) (by omega)

/-- Loading a state of the current schema at most gives a slot that starts at the epoch the longest
    window. -/
theorem migrate_wellFormed {s : Slot} (h : s.WellFormed) (d : MintDraw) :
    (migrate d s).WellFormed ∧ (migrate d s).principalId = s.principalId ∧
      (migrate d s).credentialId = s.credentialId := by
  obtain ⟨hprincipal, hcredential⟩ := h.ids_ne
  have hexpiry := h.expiry
  have hopens := h.opens
  have hlifetime := h.lifetime
  unfold migrate
  rw [if_neg hprincipal, if_neg hcredential]
  refine ⟨⟨h.principal, h.native, h.credential, h.cls, h.uuid, h.password, h.expiry, ?_, ?_⟩,
    rfl, rfl⟩
  · show (if s.validFrom = 0 then _ else _) < s.validUntil
    split
    · next hzero =>
      rw [hzero] at hlifetime
      unfold NATIVE_LEASE_SECS at hlifetime
      rw [wrap64_lease hexpiry (by unfold I64_MAX; omega)]
      unfold NATIVE_LEASE_SECS
      omega
    · exact hopens
  · show s.validUntil - (if s.validFrom = 0 then _ else _) ≤ NATIVE_LEASE_SECS
    split
    · next hzero =>
      rw [hzero] at hlifetime
      unfold NATIVE_LEASE_SECS at hlifetime
      rw [wrap64_lease hexpiry (by unfold I64_MAX; omega)]
      omega
    · exact hlifetime

theorem loadState_acceptable (h : Acceptable state) (draws : Nat → MintDraw) :
    Acceptable (loadState draws (some state)) := by
  have hids : ∀ d, ∀ s ∈ (stored (some state)).slots,
      (migrate d s).principalId = s.principalId ∧ (migrate d s).credentialId = s.credentialId :=
    fun d s hs => (migrate_wellFormed (h.formed s hs) d).2
  refine ⟨?_, ?_, ?_, ?_, ?_⟩
  · rw [map_loadState fun _ _ _ => rfl]
    exact h.numbers
  · intro s hs
    obtain ⟨i, hi, rfl⟩ := mem_loadState hs
    exact (migrate_wellFormed (h.formed _ (List.getElem_mem hi)) _).1
  · rw [map_loadState fun d s hs => (hids d s hs).1]
    exact h.principals
  · rw [map_loadState fun d s hs => (hids d s hs).2]
    exact h.credentials
  · rw [map_loadState fun _ _ _ => rfl]
    exact h.uuids

theorem nodup_loaded {key : Slot → String} {drawKey : MintDraw → String}
    (hkey : ∀ i, ∀ hi : i < state.slots.length,
      key (migrate (draws i) state.slots[i]) = drawKey (draws i))
    (hapart : Apart drawKey key state.slots.length draws state.slots) :
    ((loadState draws (some state)).slots.map key).Nodup := by
  have hlist : (loadState draws (some state)).slots.map key =
      (List.range state.slots.length).map fun i => drawKey (draws i) := by
    apply List.ext_getElem
    · simp [loadState]
    · intro i hi hi'
      rw [List.length_map, List.length_range] at hi'
      simp only [loadState, List.getElem_map, List.getElem_mapIdx, List.getElem_range]
      exact hkey i hi'
  rw [hlist]
  refine List.Nodup.map_on (fun i hi j hj heq => ?_) List.nodup_range
  exact (hapart i (List.mem_range.mp hi)).1 j (List.mem_range.mp hj) heq

theorem legacy_acceptable (h : LegacyFile state)
    (hfresh : FreshIds state.slots.length draws state.slots) :
    Acceptable (loadState draws (some state)) := by
  refine ⟨?_, ?_, ?_, ?_, ?_⟩
  · rw [map_loadState fun _ _ _ => rfl]
    exact h.numbers
  · intro s hs
    obtain ⟨i, hi, rfl⟩ := mem_loadState hs
    have hlegacy := h.slots _ (List.getElem_mem hi)
    obtain ⟨hpos, hmax⟩ := hlegacy.expiry
    unfold migrate
    rw [if_pos hlegacy.principal, if_pos hlegacy.credential, if_pos hlegacy.start,
      wrap64_lease hpos hmax]
    unfold NATIVE_LEASE_SECS
    refine ⟨hfresh.principal i hi, startsWith_principalId _, hfresh.credential i hi, hlegacy.cls,
      hlegacy.uuid, hlegacy.password, hpos, ?_, ?_⟩
    · show state.slots[i].validUntil - 30 * 60 < state.slots[i].validUntil
      omega
    · show state.slots[i].validUntil - (state.slots[i].validUntil - 30 * 60) ≤ 30 * 60
      omega
  · refine nodup_loaded (fun i hi => ?_) hfresh.principals
    exact if_pos (h.slots _ (List.getElem_mem hi)).principal
  · refine nodup_loaded (fun i hi => ?_) hfresh.credentials
    exact if_pos (h.slots _ (List.getElem_mem hi)).credential
  · rw [map_loadState fun _ _ _ => rfl]
    exact h.uuids

end Loading

/-! ### Runs -/

def Loadable (file : Option LeaseState) : Prop :=
  ∀ draws, FreshIds (stored file).slots.length draws (stored file).slots →
    Acceptable (loadState draws file)

structure Sane (w : World) : Prop where
  memory : Acceptable w.pool.state
  file : Loadable w.file

/-- What is assumed of a step: its draws are well formed and new, and the clock is past the epoch
    and in range. -/
def Supplied (w : World) : Event → Prop
  | .tick t => FreshDraws t.size t.draws w.pool.state.slots ∧ 0 ≤ t.now ∧
      t.now + NATIVE_LEASE_SECS ≤ I64_MAX
  | .restart draws => FreshIds (stored w.file).slots.length draws (stored w.file).slots

section Runs

variable {rfc3339 : Rfc3339} {format : FormatTime} {w : World} {t : Tick}

theorem loadable_saved {state : LeaseState} (h : Acceptable state) : Loadable (some state) :=
  fun draws _ => loadState_acceptable h draws

theorem acceptable_empty : Acceptable .empty :=
  ⟨List.nodup_nil, nofun, List.nodup_nil, List.nodup_nil, List.nodup_nil⟩

theorem sane_closed (t : Tick) : Closed rfc3339 format t Sane where
  saved w h := ⟨h.memory, loadable_saved h.memory⟩
  ran w h := ⟨h.memory, h.file⟩
  proved w obfs h := by
    obtain ⟨hnumbers, hformed, hprincipals, hcredentials, huuids⟩ := h.memory
    exact ⟨⟨hnumbers, hformed, hprincipals, hcredentials, huuids⟩, h.file⟩
  answer w body h := ⟨h.memory, h.file⟩
  synced w w' h hsynced := by
    obtain ⟨body, resp, state, view, obfsStored, -, -, habsorb, rfl⟩ := hsynced
    exact ⟨synced_acceptable h.memory habsorb, h.file⟩

theorem sane_next {e : Event} (h : Sane w) (hsupplied : Supplied w e) :
    Sane (next rfc3339 format w e) := by
  cases e with
  | tick t =>
    have hplan : Ensures (fun w => Sane w ∧ Supplied w (.tick t)) (planPool t) (fun _ => Sane)
        Sane := by
      have hplanned : ∀ w, Sane w ∧ Supplied w (.tick t) → Acceptable (planned t w.pool).1 :=
        fun w h => planned_acceptable h.1.memory h.2.1 h.2.2.1
      apply ensures_planPool
      · exact fun w h _ => ⟨hplanned w h, h.1.file⟩
      · exact fun w h _ => ⟨hplanned w h, loadable_saved (hplanned w h)⟩
      · exact fun _ w h => ⟨hplanned w h, h.1.file⟩
    exact (ensures_tick_closed hplan (sane_closed t) fun _ h => h).state ⟨h, hsupplied⟩
  | restart draws => exact ⟨h.file draws hsupplied, h.file⟩

theorem sane_opened {file : Option LeaseState} {draws : Nat → MintDraw}
    (hfile : ∀ state, file = some state → LegacyFile state)
    (hdraws : FreshIds (stored file).slots.length draws (stored file).slots) :
    Sane (opened file draws) := by
  have hloadable : Loadable file := by
    intro draws hdraws
    cases hstate : file with
    | none => exact acceptable_empty
    | some state =>
      rw [hstate] at hdraws
      exact legacy_acceptable (hfile state hstate) hdraws
  exact ⟨hloadable draws hdraws, hloadable⟩

/-- Until when a slot can be leased, as far as the agent knows. -/
def leasableUntil (remote : Option RemoteView) (s : Slot) : Int :=
  wrap64 (s.validUntil - (remote.map (·.minRemaining)).getD DEFAULT_MIN_REMAINING_SECS)

/-- No generation is the last one, and the control plane asks for no more time left than the agent
    takes for granted when it sets lifetimes. -/
structure Regular (pool : Pool) : Prop where
  generations : ∀ s ∈ pool.state.slots, s.generation + 1 < 2 ^ 64
  remaining : ∀ view, pool.remote = some view →
    0 ≤ view.minRemaining ∧ view.minRemaining ≤ DEFAULT_MIN_REMAINING_SECS

/-- What a tick's plan is to be: `vpn-admin` accepts it on every store, and its slots, rotations
    and new slots are in order; so are the renewals that the tick may adopt. -/
structure InOrder (t : Tick) (pool : Pool) : Prop where
  accepted : ∀ tokenHash users now,
    LeasePool.UuidsFree users (vpnAdminInput (planned t pool).1) →
      ∃ next, LeasePool.reconcile tokenHash users (vpnAdminInput (planned t pool).1) now = .ok next
  numbers : (planned t pool).1.slots.map Slot.slot =
    List.range (min t.cfg.leasePoolSize MAX_POOL_SIZE)
  rotated : ∀ e ∈ pool.state.slots, ∀ s ∈ (planned t pool).1.slots, s.slot = e.slot →
    s ≠ e ∨ e.slot ∈ slotsToRotate pool.state pool.remote t.now t.cfg.grid →
      s.principalId = e.principalId ∧ s.generation = e.generation + 1
  renewed : ∀ state view, List.Forall₂ (fun s s' => s' = s ∨ Renews view t.later t.cfg.lifetime s s')
    state.slots (adoptExtensions state view t.later t.cfg.lifetime t.cfg.grid).1.slots
  leasable : ∀ s ∈ (planned t pool).1.slots, s ∉ pool.state.slots →
    60 ≤ leasableUntil pool.remote s - t.now

section Plans

variable {pool : Pool}

theorem reconcile_planned (h : Acceptable pool.state)
    (hfresh : FreshDraws t.size t.draws pool.state.slots) (hnow : 0 ≤ t.now)
    {tokenHash : String → String} {users : List CompatUser} {now : Int}
    (hfree : LeasePool.UuidsFree users (vpnAdminInput (planned t pool).1)) :
    ∃ next, LeasePool.reconcile tokenHash users (vpnAdminInput (planned t pool).1) now =
      .ok next := by
  have hsize : t.size ≤ LeasePool.MAX_SLOTS :=
    (min_le_right _ _).trans (by decide : MAX_POOL_SIZE ≤ LeasePool.MAX_SLOTS)
  have hlength : (planned t pool).1.slots.length = t.size := by
    rw [← List.length_map Slot.slot, planned_numbers h.numbers, List.length_range]
    rfl
  have haccepted : LeasePool.Accepted (vpnAdminInput (planned t pool).1) := by
    refine accepted_input (planned_acceptable h hfresh hnow) ?_ fun s hs => ?_
    · rw [hlength]
      exact hsize
    · exact (planned_slot_lt h.numbers hs).trans_le hsize
  exact ⟨_, LeasePool.reconcile_iff.mpr ⟨haccepted, hfree, rfl, rfl⟩⟩

/-- What stands under the number of a slot after planning is the slot itself, unless it is rotated,
    or its next generation. -/
theorem planned_successor (hnumbers : (pool.state.slots.map Slot.slot).Nodup) {e s : Slot}
    (he : e ∈ pool.state.slots) (hs : s ∈ (planned t pool).1.slots) (hslot : s.slot = e.slot) :
    (s = e ∧ e.slot ∉ slotsToRotate pool.state pool.remote t.now t.cfg.grid) ∨
      s = nextGeneration (t.draws e.slot) t.now t.cfg.lifetime t.cfg.grid e := by
  rcases planned_origin hnumbers hs with ⟨hkept, hnot⟩ | ⟨e', he', rfl⟩ | ⟨hnone, -⟩
  · obtain rfl : s = e := List.inj_on_of_nodup_map hnumbers hkept he hslot
    exact .inl ⟨rfl, hnot⟩
  · obtain rfl : e' = e := List.inj_on_of_nodup_map hnumbers he' he hslot
    exact .inr rfl
  · exact absurd hslot.symm (hnone e he)

theorem leasable_planned (hnumbers : (pool.state.slots.map Slot.slot).Nodup)
    (hclock : 0 ≤ t.now ∧ t.now + NATIVE_LEASE_SECS ≤ I64_MAX) (hregular : Regular pool) {s : Slot}
    (hs : s ∈ (planned t pool).1.slots) (hnew : s ∉ pool.state.slots) :
    60 ≤ leasableUntil pool.remote s - t.now := by
  obtain ⟨hnow, hmax⟩ := hclock
  have hbounds : t.now + DEFAULT_MIN_REMAINING_SECS + 60 < s.validUntil ∧
      s.validUntil ≤ t.now + NATIVE_LEASE_SECS := by
    rcases planned_origin hnumbers hs with ⟨hkept, -⟩ | ⟨e, -, rfl⟩ | ⟨-, -, heq⟩
    · exact absurd hkept hnew
    · exact mint_validUntil (t.draws e.slot) e.slot ((e.generation + 1) % 2 ^ 64)
    · rw [heq]
      exact mint_validUntil _ _ _
  have hremaining : 0 ≤ (pool.remote.map (·.minRemaining)).getD DEFAULT_MIN_REMAINING_SECS ∧
      (pool.remote.map (·.minRemaining)).getD DEFAULT_MIN_REMAINING_SECS ≤
        DEFAULT_MIN_REMAINING_SECS := by
    cases hremote : pool.remote with
    | none => exact ⟨by decide, le_refl _⟩
    | some view => exact hregular.remaining view hremote
  unfold leasableUntil
  unfold DEFAULT_MIN_REMAINING_SECS NATIVE_LEASE_SECS at *
  rw [wrap64_of_mem (by omega) (by omega)]
  omega

end Plans

/-- In every run from no file or from one without authorization fields, at every tick that meets a
    regular pool: the plan is accepted by `vpn-admin` on every store, and rotations, renewals and
    new slots are in order. -/
theorem lease_state_acceptable {file : Option LeaseState} {draws : Nat → MintDraw}
    (hfile : ∀ state, file = some state → LegacyFile state)
    (hdraws : FreshIds (stored file).slots.length draws (stored file).slots)
    (hrun : Runs.Leads (step rfc3339 format) Supplied (opened file draws) w)
    (hsupplied : Supplied w (.tick t)) (hregular : Regular w.pool) : InOrder t w.pool := by
  have hsane : Sane w := by
    refine hrun.invariant Sane ?_ (sane_opened hfile hdraws)
    intro w e w' h hsupplied hstep
    cases hstep
    exact sane_next h hsupplied
  obtain ⟨hfresh, hclock⟩ := hsupplied
  have hgrid : 0 < t.cfg.grid := lt_of_lt_of_le (by decide) t.cfg.grid_bounds.1
  refine ⟨fun _ _ _ hfree => reconcile_planned hsane.memory hfresh hclock.1 hfree,
    planned_numbers hsane.memory.numbers, fun e he s hs hslot hrotated => ?_,
    fun state view => adoptExtensions_renews hgrid state,
    fun s hs hnew => leasable_planned hsane.memory.numbers hclock hregular hs hnew⟩
  rcases planned_successor hsane.memory.numbers he hs hslot with ⟨hsame, hnot⟩ | rfl
  · rcases hrotated with hne | hrotate
    · exact absurd hsame hne
    · exact absurd hrotate hnot
  · exact ⟨rfl, Nat.mod_eq_of_lt (hregular.generations e he)⟩

end Runs

/-! ### Sample runs -/

def sampleDraws (tag : String) (n : Nat) : MintDraw :=
  ⟨"principal" ++ tag ++ toString n, "slot000" ++ tag ++ toString n,
    "00000000-0000-4000-8000-0000000000" ++ tag ++ toString n, "0123456789abcdef"⟩

def drawnTick (size : Nat) (now : Int) (tag : String) : Tick :=
  { sampleTick size now tag with draws := sampleDraws tag }

def legacyUuid : String := "00000000-0000-4000-8000-0000000000ff"

def legacyState (generation : Nat) : LeaseState where
  slots := [⟨0, generation, 1500, "", "", .native, 0, false, legacyUuid, "0123456789abcdef", true⟩]
  applied := true
  lastRotationAt := 0

theorem legacyState_legacy (generation : Nat) : LegacyFile (legacyState generation) := by
  have huuid : Authorization.validVlessUuid legacyUuid = true := by decide +kernel
  have hpassword : Authorization.validHysteria2Password "0123456789abcdef" = true := by
    decide +kernel
  have hexpiry : (0 : Int) < 1500 ∧ (1500 : Int) ≤ I64_MAX := by decide
  refine ⟨List.nodup_singleton _, fun s hs => ?_, List.nodup_singleton _⟩
  obtain rfl := List.mem_singleton.mp hs
  exact ⟨rfl, rfl, rfl, rfl, rfl, huuid, hpassword, hexpiry⟩

/-- The state after a tick that completes a file without authorization fields. -/
def migratedSample : World :=
  (exec (tick sampleParse sampleFormat (drawnTick 2 1000 "b"))
    (opened (some (legacyState 5)) (sampleDraws "a"))).2

/-- On the next tick both slots have expired and a third is added. -/
theorem lease_state_acceptable_migrated :
    InOrder (drawnTick 3 3000 "c") migratedSample.pool ∧
      (planned (drawnTick 3 3000 "c") migratedSample.pool).1.slots.map Slot.generation =
        [6, 2, 1] := by
  have hfile : ∀ state, some (legacyState 5) = some state → LegacyFile state :=
    fun state hstate => Option.some.inj hstate ▸ legacyState_legacy 5
  have hrun : Runs.Leads (step sampleParse sampleFormat) Supplied
      (opened (some (legacyState 5)) (sampleDraws "a")) migratedSample := by
    refine (Runs.Leads.refl _).snoc (e := .tick (drawnTick 2 1000 "b")) ?_ (step_tick _ _)
    exact ⟨by decide +kernel, by decide, by decide⟩
  refine ⟨lease_state_acceptable hfile ?_ hrun ?_ ?_, by decide +kernel⟩
  · decide +kernel
  · exact ⟨by decide +kernel, by decide, by decide⟩
  · refine ⟨by decide +kernel, fun view hview => ?_⟩
    have hnone : migratedSample.pool.remote.isNone = true := by decide +kernel
    rw [hview] at hnone
    cases hnone

/-- A control plane that leases no slot with less than an hour left. -/
def askingTick : Tick :=
  { drawnTick 1 1000 "a" with
    answer := .ok (.object [("as_of", .str "1970-01-01T00:33:20Z"),
      ("min_remaining_seconds", .num 3600)]) }

def askedSample : World :=
  (exec (tick sampleParse sampleFormat askingTick) (opened none (sampleDraws "a"))).2

/-- A slot that is made after such an answer can never be leased; and after the last generation of
    a slot comes none that is one greater. -/
theorem lease_state_out_of_order :
    (Runs.Leads (step sampleParse sampleFormat) Supplied (opened none (sampleDraws "a"))
        askedSample ∧
      Supplied askedSample (.tick (drawnTick 2 1060 "b")) ∧
      ∃ s ∈ (planned (drawnTick 2 1060 "b") askedSample.pool).1.slots,
        s ∉ askedSample.pool.state.slots ∧ leasableUntil askedSample.pool.remote s < 1060) ∧
    (LegacyFile (legacyState (2 ^ 64 - 1)) ∧
      (planned (drawnTick 1 2000 "b")
        (opened (some (legacyState (2 ^ 64 - 1))) (sampleDraws "a")).pool).1.slots.map
          Slot.generation = [0]) := by
  refine ⟨⟨?_, ?_, ?_⟩, legacyState_legacy _, by decide +kernel⟩
  · refine (Runs.Leads.refl _).snoc (e := .tick askingTick) ?_ (step_tick _ _)
    exact ⟨by decide +kernel, by decide, by decide⟩
  · exact ⟨by decide +kernel, by decide, by decide⟩
  · decide +kernel

end SingboxVpn.SlotPool
