import SingboxVpn.Agent.LeasePool

namespace SingboxVpn.SlotPool

open Fallible

/-!
# What a generation of a slot names

To the control plane a credential is a slot number with a generation.  The agent keeps the
generation of a slot in the slot itself: once a pool has been made smaller, nothing remembers it.
-/

/-! ### Records -/

def identity (s : Slot) : Nat × Nat × String × String × String :=
  (s.slot, s.generation, s.credentialId, s.vlessUuid, s.hysteria2Password)

def credential (s : Slot) : String × String × String :=
  (s.credentialId, s.vlessUuid, s.hysteria2Password)

def Carries (body : Json) (s : Slot) : Prop :=
  ∃ items, body.get? "slots" = some (.arr items) ∧ ∃ item ∈ items,
    item.get? "slot" = some (.num s.slot) ∧ item.get? "generation" = some (.num s.generation) ∧
    item.get? "credential_id" = some (.str s.credentialId) ∧
    item.get? "vless_uuid" = some (.str s.vlessUuid) ∧
    item.get? "hysteria2_password" = some (.str s.hysteria2Password)

theorem Carries.congr {body : Json} {s s' : Slot} (h : Carries body s)
    (hsame : identity s = identity s') : Carries body s' := by
  simp only [identity, Prod.mk.injEq] at hsame
  obtain ⟨hslot, hgeneration, hcredential, huuid, hpassword⟩ := hsame
  unfold Carries at h ⊢
  rw [← hslot, ← hgeneration, ← hcredential, ← huuid, ← hpassword]
  exact h

theorem mem_items {format : FormatTime} {slots : List Slot} {items : List Json} {s : Slot}
    (h : Check.collect (fun s => (syncItem format s).map some) slots = .ok items) (hs : s ∈ slots) :
    ∃ item ∈ items, syncItem format s = .ok item := by
  obtain ⟨o, ho⟩ := Check.ok_of_collect h hs
  cases hitem : syncItem format s with
  | error e =>
    rw [hitem] at ho
    cases ho
  | ok item =>
    exact ⟨item, (Check.mem_collect h).mpr ⟨s, hs, congrArg (Except.map some) hitem⟩, rfl⟩

theorem carries_of_sends {format : FormatTime} {t : Tick} {w : World} {body : Json} {s : Slot}
    (h : Sends format t w body) (hs : s ∈ w.pool.state.slots) (hreported : s.reported = false) :
    Carries body s := by
  obtain ⟨obfs, hbody⟩ := h
  obtain ⟨items, hitems, hbody⟩ := Check.bind_eq_ok.mp hbody
  obtain ⟨item, hmem, hitem⟩ := mem_items hitems hs
  have hslots : body.get? "slots" = some (.arr items) := by
    cases hbody
    cases obfs with
    | none => simp [Json.get?_object, Json.lookup_cons_ite]
    | some p => simp [Json.set_object, Json.get?_object, Json.lookup_cons_ite]
  refine ⟨items, hslots, item, hmem, ?_⟩
  obtain ⟨validFrom, -, hitem⟩ := Check.bind_eq_ok.mp hitem
  obtain ⟨validUntil, -, hitem⟩ := Check.bind_eq_ok.mp hitem
  cases hitem
  simp [hreported, Json.set_object, Json.get?_object, Json.lookup_cons_ite]

theorem MintDraw.credentialId_ne (d : MintDraw) : d.credentialId ≠ "" := by
  intro h
  have hlength := congrArg String.length h
  simp [MintDraw.credentialId] at hlength

def Echoes (new records : List Slot) : Prop := ∀ r ∈ new, ∃ s ∈ records, identity s = identity r

theorem echoes_of_map {new slots : List Slot} (h : new.map identity = slots.map identity) :
    Echoes new slots := by
  intro r hr
  exact List.mem_map.mp (h ▸ List.mem_map_of_mem hr)

/-! ### What is held has existed -/

structure Held (records slots : List Slot) : Prop where
  distinct : (slots.map Slot.slot).Nodup
  known : ∀ s ∈ slots, s ∈ records

section Held

variable {records slots new : List Slot}

theorem Held.append (h : Held records slots) (new : List Slot) : Held (new ++ records) slots :=
  ⟨h.distinct, fun s hs => List.mem_append_right new (h.known s hs)⟩

theorem Held.same (h : Held records slots) (hsame : new.map identity = slots.map identity) :
    Held (new ++ records) new := by
  refine ⟨?_, fun s hs => List.mem_append_left records hs⟩
  have hnumbers := congrArg (List.map Prod.fst) hsame
  simp only [List.map_map] at hnumbers
  exact hnumbers.symm ▸ h.distinct

end Held

/-- What is held in memory and on disk has existed; every record has an id; and whatever is marked
    as reported was sent and answered. -/
structure Accounted (w : World) : Prop where
  memory : Held w.records w.pool.state.slots
  file : Held w.records (stored w.file).slots
  ids : ∀ r ∈ w.records, r.credentialId ≠ ""
  carried : ∀ r ∈ w.records, r.reported = true → ∃ body ∈ w.answered, Carries body r

section Accounted

variable {rfc3339 : Rfc3339} {format : FormatTime} {t : Tick} {w w' : World}

theorem planned_known (h : Accounted w) {s : Slot} (hs : s ∈ (planned t w.pool).1.slots) :
    s ∈ w.records ∨ (s.credentialId ≠ "" ∧ s.reported = false) := by
  rcases planned_origin h.memory.distinct hs with ⟨hold, -⟩ | ⟨e, -, rfl⟩ | ⟨-, -, hmint⟩
  · exact .inl (h.memory.known s hold)
  · exact .inr ⟨MintDraw.credentialId_ne _, rfl⟩
  · rw [hmint]
    exact .inr ⟨MintDraw.credentialId_ne _, rfl⟩

theorem accounted_plan (h : Accounted w) : Accounted (w.plan t) := by
  refine ⟨⟨nodup_planned h.memory.distinct, fun s hs => List.mem_append_left _ hs⟩,
    h.file.append _, ?_, ?_⟩
  · intro r hr
    rcases List.mem_append.mp hr with hr | hr
    · exact (planned_known h hr).elim (h.ids r) And.left
    · exact h.ids r hr
  · intro r hr hreported
    rcases List.mem_append.mp hr with hr | hr
    · rcases planned_known h hr with hr | ⟨-, hnot⟩
      · exact h.carried r hr hreported
      · rw [hnot] at hreported
        cases hreported
    · exact h.carried r hr hreported

theorem accounted_synced (h : Accounted w) (hsynced : Synced rfc3339 format t w w') :
    Accounted w' := by
  obtain ⟨body, resp, state, view, obfsStored, hsends, -, habsorb, rfl⟩ := hsynced
  have hsame : (synced t state view).slots.map identity = w.pool.state.slots.map identity :=
    map_synced (fun _ _ _ _ _ => rfl) habsorb
  refine ⟨h.memory.same hsame, h.file.append _, ?_, ?_⟩
  · intro r hr
    rcases List.mem_append.mp hr with hr | hr
    · obtain ⟨s, hs, heq⟩ := echoes_of_map hsame r hr
      have hid : s.credentialId = r.credentialId := congrArg (·.2.2.1) heq
      exact hid ▸ h.ids s (h.memory.known s hs)
    · exact h.ids r hr
  · intro r hr hreported
    rcases List.mem_append.mp hr with hr | hr
    · obtain ⟨s, hs, heq⟩ := echoes_of_map hsame r hr
      by_cases hbefore : s.reported = true
      · obtain ⟨old, hold, hcarries⟩ := h.carried s (h.memory.known s hs) hbefore
        exact ⟨old, List.mem_cons_of_mem body hold, hcarries.congr heq⟩
      · have hnot : s.reported = false := by simpa using hbefore
        exact ⟨body, List.mem_cons_self, (carries_of_sends hsends hs hnot).congr heq⟩
    · obtain ⟨old, hold, hcarries⟩ := h.carried r hr hreported
      exact ⟨old, List.mem_cons_of_mem body hold, hcarries⟩

theorem accounted_answer (h : Accounted w) (body : Json) : Accounted (w.answer body) := by
  refine ⟨h.memory, h.file, h.ids, fun r hr hreported => ?_⟩
  obtain ⟨old, hold, hcarries⟩ := h.carried r hr hreported
  exact ⟨old, List.mem_cons_of_mem body hold, hcarries⟩

theorem accounted_saved (h : Accounted w) : Accounted w.saved :=
  ⟨h.memory, h.memory, h.ids, h.carried⟩

theorem accounted_closed : Closed rfc3339 format t Accounted where
  saved _ h := accounted_saved h
  ran _ h := ⟨h.memory, h.file, h.ids, h.carried⟩
  proved _ _ h := ⟨h.memory, h.file, h.ids, h.carried⟩
  answer _ body h := accounted_answer h body
  synced _ _ h hsynced := accounted_synced h hsynced

theorem load_same (h : Accounted w) (draws : Nat → MintDraw) :
    (loadState draws w.file).slots.map (fun s => (identity s, s.reported)) =
      (stored w.file).slots.map fun s => (identity s, s.reported) := by
  apply map_loadState
  intro d s hs
  have hid := h.ids s (h.file.known s hs)
  simp [identity, migrate, hid]

theorem load_identity (h : Accounted w) (draws : Nat → MintDraw) :
    (loadState draws w.file).slots.map identity = (stored w.file).slots.map identity := by
  have hsame := congrArg (List.map Prod.fst) (load_same h draws)
  simp only [List.map_map] at hsame
  exact hsame

theorem accounted_reopen (h : Accounted w) (draws : Nat → MintDraw) :
    Accounted (reopen w draws) := by
  have hloaded : ∀ r ∈ (loadState draws w.file).slots, ∃ s ∈ w.records,
      identity s = identity r ∧ s.reported = r.reported := by
    intro r hr
    have hmem := List.mem_map_of_mem (f := fun s => (identity s, s.reported)) hr
    rw [load_same h draws] at hmem
    obtain ⟨s, hs, heq⟩ := List.mem_map.mp hmem
    exact ⟨s, h.file.known s hs, Prod.mk.inj heq⟩
  refine ⟨h.file.same (load_identity h draws), h.file.append _, ?_, ?_⟩
  · intro r hr
    rcases List.mem_append.mp hr with hr | hr
    · obtain ⟨s, hs, heq, -⟩ := hloaded r hr
      have hid : s.credentialId = r.credentialId := congrArg (·.2.2.1) heq
      exact hid ▸ h.ids s hs
    · exact h.ids r hr
  · intro r hr hreported
    rcases List.mem_append.mp hr with hr | hr
    · obtain ⟨s, hs, heq, hmark⟩ := hloaded r hr
      obtain ⟨body, hbody, hcarries⟩ := h.carried s hs (hmark.trans hreported)
      exact ⟨body, hbody, hcarries.congr heq⟩
    · exact h.carried r hr hreported

theorem accounted_next {e : Event} (h : Accounted w) : Accounted (next rfc3339 format w e) := by
  cases e with
  | tick t =>
    have hplan : Ensures Accounted (planPool t) (fun _ => Accounted) Accounted := by
      apply ensures_planPool
      · exact fun w h _ => accounted_plan h
      · exact fun w h _ => accounted_saved (accounted_plan h)
      · intro _ w h
        have hplanned := accounted_plan (t := t) h
        exact ⟨hplanned.memory, hplanned.file, hplanned.ids, hplanned.carried⟩
    exact (ensures_tick_closed hplan accounted_closed fun _ h => h).state h
  | restart draws => exact accounted_reopen h draws

end Accounted

/-! ### One credential for each generation -/

def Unique (records : List Slot) : Prop :=
  ∀ a ∈ records, ∀ b ∈ records, a.slot = b.slot → a.generation = b.generation →
    credential a = credential b

def Top (records slots : List Slot) : Prop :=
  ∀ s ∈ slots, ∀ r ∈ records, r.slot = s.slot → r.generation ≤ s.generation

section Unique

variable {records slots new : List Slot}

theorem Unique.echo (h : Unique records) (hnew : Echoes new records) : Unique (new ++ records) := by
  have hold : ∀ r ∈ new ++ records, ∃ s ∈ records, identity s = identity r := by
    intro r hr
    rcases List.mem_append.mp hr with hr | hr
    · exact hnew r hr
    · exact ⟨r, hr, rfl⟩
  intro a ha b hb hslot hgeneration
  obtain ⟨a', ha', heqa⟩ := hold a ha
  obtain ⟨b', hb', heqb⟩ := hold b hb
  have hslot' : a'.slot = b'.slot :=
    (congrArg (·.1) heqa).trans (hslot.trans (congrArg (·.1) heqb).symm)
  have hgeneration' : a'.generation = b'.generation :=
    (congrArg (·.2.1) heqa).trans (hgeneration.trans (congrArg (·.2.1) heqb).symm)
  calc credential a = credential a' := (congrArg (·.2.2) heqa).symm
    _ = credential b' := h a' ha' b' hb' hslot' hgeneration'
    _ = credential b := congrArg (·.2.2) heqb

theorem Top.echo (h : Top records slots) (hnew : Echoes new records) :
    Top (new ++ records) slots := by
  intro s hs r hr hslot
  rcases List.mem_append.mp hr with hr | hr
  · obtain ⟨r', hr', heq⟩ := hnew r hr
    simp only [identity, Prod.mk.injEq] at heq
    rw [← heq.2.1]
    exact h s hs r' hr' (heq.1.trans hslot)
  · exact h s hs r hr hslot

theorem Top.same (h : Top records slots) (hnew : Echoes new slots) : Top records new := by
  intro s hs r hr hslot
  obtain ⟨s', hs', heq⟩ := hnew s hs
  simp only [identity, Prod.mk.injEq] at heq
  rw [← heq.2.1]
  exact h s' hs' r hr (hslot.trans heq.1.symm)

theorem Unique.above (h : Unique records) (hdistinct : (new.map Slot.slot).Nodup)
    (hnew : ∀ s ∈ new, s ∈ records ∨ ∀ r ∈ records, r.slot = s.slot → r.generation < s.generation) :
    Unique (new ++ records) := by
  -- a new slot against a record, in either order
  have hmixed : ∀ a ∈ new, ∀ b ∈ records, a.slot = b.slot → a.generation = b.generation →
      credential a = credential b := by
    intro a ha b hb hslot hgeneration
    rcases hnew a ha with hold | habove
    · exact h a hold b hb hslot hgeneration
    · have hlt := habove b hb hslot.symm
      omega
  intro a ha b hb hslot hgeneration
  rcases List.mem_append.mp ha with ha | ha <;> rcases List.mem_append.mp hb with hb | hb
  · rw [List.inj_on_of_nodup_map hdistinct ha hb hslot]
  · exact hmixed a ha b hb hslot hgeneration
  · exact (hmixed b hb a ha hslot.symm hgeneration.symm).symm
  · exact h a ha b hb hslot hgeneration

end Unique

structure Named (w : World) : Prop extends Accounted w where
  unique : Unique w.records
  memoryTop : Top w.records w.pool.state.slots
  fileTop : w.outstanding = false → Top w.records (stored w.file).slots

/-- No slot number comes back, no generation overflows, and no restart follows the failed save of
    a plan. -/
def Kept (w : World) : Event → Prop
  | .tick t =>
      (∀ n < min t.cfg.leasePoolSize MAX_POOL_SIZE, (∀ s ∈ w.pool.state.slots, s.slot ≠ n) →
        ∀ r ∈ w.records, r.slot ≠ n) ∧
      ∀ s ∈ w.pool.state.slots, s.generation + 1 < 2 ^ 64
  | .restart _ => w.outstanding = false

section Named

variable {rfc3339 : Rfc3339} {format : FormatTime} {t : Tick} {w w' : World}

theorem planned_above (h : Named w) (hkept : Kept w (.tick t)) {s : Slot}
    (hs : s ∈ (planned t w.pool).1.slots) :
    s ∈ w.pool.state.slots ∨ ∀ r ∈ w.records, r.slot = s.slot → r.generation < s.generation := by
  obtain ⟨hreturn, hgeneration⟩ := hkept
  rcases planned_origin h.memory.distinct hs with ⟨hold, -⟩ | ⟨e, he, rfl⟩ | ⟨hnone, hlt, hmint⟩
  · exact .inl hold
  · refine .inr fun r hr hslot => ?_
    have hle := h.memoryTop e he r hr hslot
    have hbound := hgeneration e he
    show r.generation < (e.generation + 1) % 2 ^ 64
    rw [Nat.mod_eq_of_lt hbound]
    omega
  · exact .inr fun r hr hslot => absurd hslot (hreturn s.slot hlt hnone r hr)

theorem plan_unique (h : Named w) (hkept : Kept w (.tick t)) :
    Unique (w.plan t).records ∧ Top (w.plan t).records (w.plan t).pool.state.slots := by
  have hdistinct := nodup_planned (t := t) h.memory.distinct
  refine ⟨h.unique.above hdistinct fun s hs => ?_, ?_⟩
  · exact (planned_above h hkept hs).imp_left (h.memory.known s)
  · intro s hs r hr hslot
    rcases List.mem_append.mp hr with hr | hr
    · rw [List.inj_on_of_nodup_map hdistinct hr hs hslot]
    · rcases planned_above h hkept hs with hold | habove
      · exact h.memoryTop s hold r hr hslot
      · exact (habove r hr hslot).le

theorem named_planPool :
    Ensures (fun w => Named w ∧ Kept w (.tick t)) (planPool t) (fun _ => Named) Named := by
  apply ensures_planPool
  · rintro w ⟨h, hkept⟩ hsame
    obtain ⟨hunique, htop⟩ := plan_unique h hkept
    obtain ⟨-, hperm, -⟩ := planned_unchanged hsame
    refine ⟨accounted_plan h.toAccounted, hunique, htop, fun hout => (h.fileTop hout).echo ?_⟩
    exact fun r hr => ⟨r, h.memory.known r (hperm.mem_iff.mp hr), rfl⟩
  · rintro w ⟨h, hkept⟩ -
    obtain ⟨hunique, htop⟩ := plan_unique h hkept
    exact ⟨accounted_saved (accounted_plan h.toAccounted), hunique, htop, fun _ => htop⟩
  · rintro - w ⟨h, hkept⟩
    obtain ⟨hunique, htop⟩ := plan_unique h hkept
    have hplanned := accounted_plan (t := t) h.toAccounted
    exact ⟨⟨hplanned.memory, hplanned.file, hplanned.ids, hplanned.carried⟩, hunique, htop, nofun⟩

theorem named_synced (h : Named w) (hsynced : Synced rfc3339 format t w w') : Named w' := by
  have haccounted := accounted_synced h.toAccounted hsynced
  obtain ⟨body, resp, state, view, obfsStored, -, -, habsorb, rfl⟩ := hsynced
  have hsame : Echoes (synced t state view).slots w.pool.state.slots :=
    echoes_of_map (map_synced (fun _ _ _ _ _ => rfl) habsorb)
  have hrecords : Echoes (synced t state view).slots w.records := fun r hr => by
    obtain ⟨s, hs, heq⟩ := hsame r hr
    exact ⟨s, h.memory.known s hs, heq⟩
  exact ⟨haccounted, h.unique.echo hrecords, (h.memoryTop.same hsame).echo hrecords,
    fun hout => (h.fileTop hout).echo hrecords⟩

theorem named_closed : Closed rfc3339 format t Named where
  saved _ h := ⟨accounted_saved h.toAccounted, h.unique, h.memoryTop, fun _ => h.memoryTop⟩
  ran _ h := ⟨⟨h.memory, h.file, h.ids, h.carried⟩, h.unique, h.memoryTop, h.fileTop⟩
  proved _ _ h := ⟨⟨h.memory, h.file, h.ids, h.carried⟩, h.unique, h.memoryTop, h.fileTop⟩
  answer _ body h := ⟨accounted_answer h.toAccounted body, h.unique, h.memoryTop, h.fileTop⟩
  synced _ _ h hsynced := named_synced h hsynced

theorem named_next {e : Event} (h : Named w) (hkept : Kept w e) :
    Named (next rfc3339 format w e) := by
  cases e with
  | tick t =>
    exact (ensures_tick_closed named_planPool named_closed fun _ h => h).state ⟨h, hkept⟩
  | restart draws =>
    have hsame := echoes_of_map (load_identity h.toAccounted draws)
    have hrecords : Echoes (loadState draws w.file).slots w.records := fun r hr => by
      obtain ⟨s, hs, heq⟩ := hsame r hr
      exact ⟨s, h.file.known s hs, heq⟩
    have htop := h.fileTop hkept
    exact ⟨accounted_reopen h.toAccounted draws, h.unique.echo hrecords,
      (htop.same hsame).echo hrecords, fun _ => htop.echo hrecords⟩

end Named

theorem accounted_start : Accounted start :=
  ⟨⟨List.nodup_nil, nofun⟩, ⟨List.nodup_nil, nofun⟩, nofun, nofun⟩

/-- A slot number with a generation names one credential in runs where no slot number comes back,
    no generation overflows and no restart follows the failed save of a plan; in any run a
    credential is marked as reported only if its secrets were sent for its slot and generation and
    the body was answered. -/
theorem generation_names_credential {rfc3339 : Rfc3339} {format : FormatTime} {w : World} :
    (Runs.Leads (step rfc3339 format) Kept start w → Unique w.records) ∧
      (Runs.Leads (step rfc3339 format) (fun _ _ => True) start w →
        ∀ s ∈ w.records, s.reported = true → ∃ body ∈ w.answered, Carries body s) := by
  refine ⟨fun hrun => ?_, fun hrun => ?_⟩
  · have hstart : Named start := ⟨accounted_start, nofun, nofun, fun _ => nofun⟩
    refine (hrun.invariant Named ?_ hstart).unique
    intro w e w' h hkept hstep
    cases hstep
    exact named_next h hkept
  · refine (hrun.invariant Accounted ?_ accounted_start).carried
    intro w e w' h _ hstep
    cases hstep
    exact accounted_next h

/-- A tick on which the control plane says that it has stored the first slot. -/
def sampleReported : Tick :=
  { sampleTick 1 1000 "a" with
    answer := .ok (.object [("as_of", .str "1970-01-01T00:00:00Z"), ("slots", .arr [.object
      [("slot", .num 0), ("generation", .num 1), ("state", .str "active")]])]) }

/-- A slot is minted, sent and reported. -/
theorem generation_names_credential_reported :
    ∃ w : World, (w.records.map fun s => (s.slot, s.generation, s.reported)) =
        [(0, 1, true), (0, 1, false)] ∧
      Unique w.records ∧
      ∀ s ∈ w.records, s.reported = true → ∃ body ∈ w.answered, Carries body s := by
  have hrun : ∀ cond : World → Event → Prop, cond start (.tick sampleReported) →
      Runs.Leads (step sampleParse sampleFormat) cond start
        (exec (tick sampleParse sampleFormat sampleReported) start).2 := fun cond hcond =>
    (Runs.Leads.refl start).snoc hcond (step_tick _ _)
  exact ⟨_, rfl, generation_names_credential.1 (hrun Kept ⟨nofun, nofun⟩),
    generation_names_credential.2 (hrun (fun _ _ => True) trivial)⟩

/-- A pool is made smaller and larger again: its slot starts over at the first generation. -/
theorem regrown_slot_reuses_generation :
    ∃ w, Runs.after (step sampleParse sampleFormat) start [.tick (sampleTick 1 1000 "a"),
        .tick (sampleTick 0 1100 "b"), .tick (sampleTick 1 1200 "c")] = some w ∧
      (w.records.map fun s => (s.slot, s.generation, s.vlessUuid)) = [(0, 1, "c"), (0, 1, "a")] ∧
      ¬ Unique w.records := by
  refine ⟨_, rfl, rfl, fun h => ?_⟩
  have hsame := h _ List.mem_cons_self _ (List.mem_cons_of_mem _ List.mem_cons_self) rfl rfl
  cases hsame

end SingboxVpn.SlotPool
