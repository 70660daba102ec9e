import SingboxVpn.Admin.Host
import SingboxVpn.Admin.LeasePool
import SingboxVpn.Admin.Recovery

/-!
# vpn-admin: the lease pool goes live

The command that the agent calls: it reconciles the stored accounts with the pool and puts the
document that they render to into force.
-/

namespace SingboxVpn.LeasePool

/-! ### Renewals -/

/-- A slot as it is, or with a new window that ends later. -/
def LeaseSlotInput.RenewedTo (s s' : LeaseSlotInput) : Prop :=
  s' = s ∨ ∃ from' until', s.expiresAt < until' ∧
    s' = { s with validFrom := some from', expiresAt := until' }

def Renewal (old new : LeasePoolInput) : Prop :=
  List.Forall₂ LeaseSlotInput.RenewedTo old.slots new.slots

def LeaseSlotInput.OpenAt (now : Int) (s : LeaseSlotInput) : Prop :=
  (∃ start, s.validFrom = some start ∧ start ≤ now) ∧ now < s.expiresAt

section Renewed

variable {s s' : LeaseSlotInput} {old new : LeasePoolInput}

theorem LeaseSlotInput.RenewedTo.window (h : s.RenewedTo s') :
    ∃ from' until', s' = { s with validFrom := from', expiresAt := until' } := by
  rcases h with rfl | ⟨from', until', -, rfl⟩
  · exact ⟨s'.validFrom, s'.expiresAt, rfl⟩
  · exact ⟨some from', until', rfl⟩

theorem LeaseSlotInput.RenewedTo.slot_eq (h : s.RenewedTo s') : s'.slot = s.slot := by
  obtain ⟨from', until', rfl⟩ := h.window
  rfl

theorem LeaseSlotInput.RenewedTo.id_eq (h : s.RenewedTo s') : s'.id = s.id := by
  obtain ⟨from', until', rfl⟩ := h.window
  rfl

theorem Renewal.refl (input : LeasePoolInput) : Renewal input input :=
  List.forall₂_same.mpr fun _ _ => .inl rfl

theorem Renewal.native (h : Renewal old new) (hnew : ∀ s ∈ new.slots, s.cls = some .native) :
    ∀ s ∈ old.slots, s.cls = some .native := by
  have hboth : ∀ {l l' : List LeaseSlotInput}, List.Forall₂ LeaseSlotInput.RenewedTo l l' →
      (∀ s ∈ l', s.cls = some .native) → ∀ s ∈ l, s.cls = some .native := by
    intro l l' hl
    induction hl with
    | nil => exact fun _ => nofun
    | @cons s s' l l' hs _ ih =>
      intro hl'
      obtain ⟨hhead, htail⟩ := List.forall_mem_cons.mp hl'
      refine List.forall_mem_cons.mpr ⟨?_, ih htail⟩
      obtain ⟨from', until', rfl⟩ := hs.window
      exact hhead
  exact hboth h hnew

theorem orderedInsert_renewed {l l' : List LeaseSlotInput} (h : s.RenewedTo s')
    (hl : List.Forall₂ LeaseSlotInput.RenewedTo l l') :
    List.Forall₂ LeaseSlotInput.RenewedTo (l.orderedInsert (fun a b => a.slot ≤ b.slot) s)
      (l'.orderedInsert (fun a b => a.slot ≤ b.slot) s') := by
  induction hl with
  | nil => exact .cons h .nil
  | @cons t t' l l' ht hl ih =>
    simp only [List.orderedInsert, h.slot_eq, ht.slot_eq]
    split
    · exact .cons h (.cons ht hl)
    · exact .cons ht ih

theorem insertionSort_renewed {l l' : List LeaseSlotInput}
    (h : List.Forall₂ LeaseSlotInput.RenewedTo l l') :
    List.Forall₂ LeaseSlotInput.RenewedTo (l.insertionSort fun a b => a.slot ≤ b.slot)
      (l'.insertionSort fun a b => a.slot ≤ b.slot) := by
  induction h with
  | nil => exact .nil
  | cons ht _ ih => exact orderedInsert_renewed ht ih

theorem Renewal.sorted (h : Renewal old new) :
    List.Forall₂ LeaseSlotInput.RenewedTo (sorted old) (sorted new) :=
  insertionSort_renewed h

end Renewed

/-! ### The accounts -/

inductive AccountRenewed (old new : LeasePoolInput) : CompatUser → CompatUser → Prop
  | other (u : CompatUser) (h : isLeaseUser u = false) : AccountRenewed old new u u
  | slot (s s' : LeaseSlotInput) (record : CompatUser) (hs : s ∈ old.slots) (hs' : s' ∈ new.slots)
      (hrenewed : s.RenewedTo s') (hlease : isLeaseUser (fill s record) = true) :
      AccountRenewed old new (fill s record) (fill s' (fill s record))

section Accounts

variable {tokenHash tokenHash' : String → String} {users store store' : List CompatUser}
  {old new : LeasePoolInput} {now now' : Int} {changed changed' : Bool}

theorem accounts_renewed (hrec : reconcile tokenHash users old now = .ok (store, changed))
    (hrec' : reconcile tokenHash' store new now' = .ok (store', changed'))
    (hrenewal : Renewal old new) (hnative : ∀ s ∈ old.slots, s.cls = some .native)
    (hunique : (store.map CompatUser.id).Nodup) :
    List.Forall₂ (AccountRenewed old new) store store' := by
  obtain ⟨haccepted, -, hstore, -⟩ := reconcile_iff.mp hrec
  obtain ⟨-, -, rfl, -⟩ := reconcile_iff.mp hrec'
  have hlease : ∀ s ∈ old.slots, isLeaseUser (leaseUser tokenHash users now s) = true :=
    fun s hs => (isLeaseUser_leaseUser haccepted hs).mpr (by simp [hnative s hs])
  have hothers : store.filter (!isLeaseUser ·) = users.filter (!isLeaseUser ·) := by
    rw [hstore]
    apply Owned.filter_other_replace
    intro u hu
    obtain ⟨s, hs, rfl⟩ := List.mem_map.mp hu
    exact hlease s (mem_sorted.mp hs)
  have hfound : ∀ s ∈ old.slots, store.find? (·.id == s.id) =
      some (leaseUser tokenHash users now s) := by
    intro s hs
    have hmem : leaseUser tokenHash users now s ∈ store := by
      rw [hstore]
      exact List.mem_append_right _ (List.mem_map_of_mem (mem_sorted.mpr hs))
    have hfind := Owned.find?_key hunique hmem
    rwa [leaseUser_id] at hfind
  unfold Owned.replace
  rw [hothers, hstore]
  refine List.rel_append ?_ ?_
  · refine List.forall₂_same.mpr fun u hu => .other u ?_
    simpa using (List.mem_filter.mp hu).2
  · rw [List.forall₂_map_left_iff, List.forall₂_map_right_iff]
    obtain ⟨hlength, hpairs⟩ := List.forall₂_iff_zip.mp hrenewal.sorted
    refine List.forall₂_iff_zip.mpr ⟨hlength, fun {s s'} hpair => ?_⟩
    have hrenewed := hpairs hpair
    obtain ⟨hs, hs'⟩ := List.of_mem_zip hpair
    have hold := mem_sorted.mp hs
    have hfind := hfound s hold
    rw [← hrenewed.id_eq] at hfind
    rw [← hstore, leaseUser_of_find hfind]
    exact .slot s s' _ hold (mem_sorted.mp hs') hrenewed (hlease s hold)

def enabledCredentials (users : List CompatUser) : List (String × String × String) :=
  (users.filter (·.enabled)).map fun u => (u.id, u.vlessUuid, u.hysteria2Password)

theorem enabledCredentials_renewed (h : List.Forall₂ (AccountRenewed old new) store store') :
    enabledCredentials store' = enabledCredentials store := by
  unfold enabledCredentials
  induction h with
  | nil => rfl
  | @cons u u' store store' hu _ ih =>
    have hsame : u'.enabled = u.enabled ∧ (u'.id, u'.vlessUuid, u'.hysteria2Password) =
        (u.id, u.vlessUuid, u.hysteria2Password) := by
      cases hu with
      | other => exact ⟨rfl, rfl⟩
      | slot s s' record hs hs' hrenewed =>
        obtain ⟨from', until', rfl⟩ := hrenewed.window
        exact ⟨rfl, rfl⟩
    simp only [List.filter_cons, hsame.1]
    split
    · rw [List.map_cons, List.map_cons, ih, hsame.2]
    · exact ih

theorem inForce_fill {s : LeaseSlotInput} (record : CompatUser) (hopen : s.OpenAt now)
    (hclock : CompatUser.LegacyTime now) (hplain : record.credentials = []) :
    (fill s record).inForce now = if s.revoked then [] else [(fill s record).legacyGrant] := by
  obtain ⟨⟨start, hstart, hle⟩, hlt⟩ := hopen
  cases hrevoked : s.revoked with
  | true =>
    have hoff : (fill s record).isActive now = false := by
      simp [CompatUser.isActive, fill, hrevoked]
    simp [CompatUser.inForce, hoff]
  | false =>
    have hon : (fill s record).isActive now = true := by
      simp [CompatUser.isActive, fill, hrevoked, hstart, hle, hlt]
    have hnone : (fill s record).credentials = [] := hplain
    rw [CompatUser.inForce, if_pos hon, CompatUser.authorizedGrants_legacy hnone hon hclock]
    rfl

/-- While every slot is open and nothing changes for the other accounts, a renewal is not seen by
    the renderer. -/
theorem sameBetween_renewed (h : List.Forall₂ (AccountRenewed old new) store store')
    (hopen : ∀ s ∈ old.slots, s.OpenAt now) (hopen' : ∀ s ∈ new.slots, s.OpenAt now')
    (hclock : CompatUser.LegacyTime now) (hclock' : CompatUser.LegacyTime now')
    (hplain : ∀ u ∈ store, isLeaseUser u = true → u.credentials = [])
    (hothers : ∀ u ∈ store, isLeaseUser u = false → u.inForce now' = u.inForce now) :
    List.Forall₂ (SameBetween now now') store store' := by
  induction h with
  | nil => exact .nil
  | @cons u u' store store' hu _ ih =>
    refine .cons ?_ (ih (fun u hu => hplain u (List.mem_cons_of_mem _ hu))
      fun u hu => hothers u (List.mem_cons_of_mem _ hu))
    cases hu with
    | other _ hother =>
      refine ⟨?_, rfl, rfl, rfl, rfl⟩
      rw [hothers _ List.mem_cons_self hother]
    | slot s s' record hs hs' hrenewed hlease =>
      have hnone : (fill s record).credentials = [] := hplain _ List.mem_cons_self hlease
      refine ⟨?_, rfl, rfl, rfl, rfl⟩
      rw [inForce_fill _ (hopen' s' hs') hclock' hnone, inForce_fill record (hopen s hs) hclock hnone]
      obtain ⟨from', until', rfl⟩ := hrenewed.window
      cases s.revoked <;> rfl

end Accounts

end SingboxVpn.LeasePool

namespace SingboxVpn.Apply

open Killable LeasePool

/-! ### The command -/

section
variable (inst : Installation) (cfg : DeploymentConfig)

/-- The reconciled accounts go live, whether or not they differ from those that are stored. -/
def cmdLeasePoolSync (tokenHash : String → String) (input : LeasePoolInput) (now : Int)
    (a : SaveAnswers) : Prog UsersError Host Applied := do
  let host ← read
  let users ← require (host.users.mapError .load)
  let next ← require ((LeasePool.reconcile tokenHash users input now).mapError .refused)
  if !next.2 then failingWith .apply (renderAndApplySingboxConfig inst cfg next.1 true a.apply)
  else applyUsersAndSave inst cfg users next.1 a

/-- A node that serves a pool: its accounts are stored under ids of their own and without grants,
    and the document they rendered to is in force. -/
structure Serves (input : LeasePoolInput) (now : Int) (host : Host) (store : List CompatUser)
    (doc : Json) : Prop where
  reconciled : ∃ tokenHash users then' changed,
    LeasePool.reconcile tokenHash users input then' = .ok (store, changed)
  stored : host.users = .ok store
  unique : (store.map CompatUser.id).Nodup
  plain : ∀ u ∈ store, isLeaseUser u = true → u.credentials = []
  document : candidate inst cfg store host now = .ok doc
  current : host.node.alreadyCurrent inst.renderedConfigFingerprint doc = true
  running : host.node.running.isSome = true

variable {inst cfg}

theorem returns_renderAndApply_current {users : List CompatUser} {a : Answers} {host : Host}
    {doc : Json} (hsmooth : a.outcomes.Smooth)
    (hcaps : (applyCall inst cfg users true host a).capabilityRestart host.node = false)
    (hdoc : candidate inst cfg users host a.now = .ok doc)
    (hcurrent : host.node.alreadyCurrent inst.renderedConfigFingerprint doc = true)
    (hrunning : host.node.running.isSome = true) :
    Returns (renderAndApplySingboxConfig inst cfg users true a) host .current host := by
  unfold renderAndApplySingboxConfig
  rw [returns_bind_read]
  exact returns_within.mpr ⟨host.node, apply_current hsmooth hdoc rfl hcaps hcurrent hrunning, rfl⟩

variable (inst cfg) in
/-- A sync that succeeds on a node that serves another pool.  Each pool is open when it is rendered,
    and the other accounts have the same grants in force at both times. -/
structure LaterSync (old new : LeasePoolInput) (now : Int) (host : Host)
    (tokenHash : String → String) (now' : Int) (a : SaveAnswers) (store store' : List CompatUser) :
    Prop where
  serves : ∃ doc, Serves inst cfg old now host store doc
  accepted : ∃ changed, LeasePool.reconcile tokenHash store new now' = .ok (store', changed)
  renders : ∃ doc, candidate inst cfg store' host a.apply.now = .ok doc
  opened : ∀ s ∈ old.slots, s.OpenAt now
  stillOpen : ∀ s ∈ new.slots, s.OpenAt a.apply.now
  clock : CompatUser.LegacyTime now ∧ CompatUser.LegacyTime a.apply.now
  others : ∀ u ∈ store, isLeaseUser u = false → u.inForce a.apply.now = u.inForce now
  smooth : a.apply.outcomes.Smooth
  saved : a.saved = true
  capable : (applyCall inst cfg store' true host a.apply).capabilityRestart host.node = false

/-- On a node that serves a pool, its renewal changes times in the store.  No credential comes or
    goes, and the node is left as it is. -/
theorem sync_renewal {old new : LeasePoolInput} {now now' : Int} {host : Host}
    {store store' : List CompatUser} {tokenHash : String → String} {a : SaveAnswers}
    (h : LaterSync inst cfg old new now host tokenHash now' a store store')
    (hrenewal : Renewal old new) (hnative : ∀ s ∈ old.slots, s.cls = some .native) :
    enabledCredentials store' = enabledCredentials store ∧
      Returns (cmdLeasePoolSync inst cfg tokenHash new now' a) host .current
        { host with users := .ok store' } := by
  obtain ⟨doc, hserves⟩ := h.serves
  obtain ⟨changed, hrec⟩ := h.accepted
  obtain ⟨doc', hdoc'⟩ := h.renders
  obtain ⟨tokenHash₀, users, then', changed₀, hrec₀⟩ := hserves.reconciled
  have haccounts := accounts_renewed hrec₀ hrec hrenewal hnative hserves.unique
  refine ⟨enabledCredentials_renewed haccounts, ?_⟩
  have hsame : doc' = doc := candidate_between
    (sameBetween_renewed haccounts h.opened h.stillOpen h.clock.1 h.clock.2 hserves.plain h.others)
    hserves.document hdoc'
  have happly : Returns (renderAndApplySingboxConfig inst cfg store' true a.apply) host .current
      host := by
    rw [hsame] at hdoc'
    exact returns_renderAndApply_current h.smooth h.capable hdoc' hserves.current hserves.running
  unfold cmdLeasePoolSync
  rw [returns_bind_read, returns_bind_require]
  refine ⟨store, by rw [hserves.stored]; rfl, ?_⟩
  rw [returns_bind_require]
  refine ⟨(store', changed), by rw [hrec]; rfl, ?_⟩
  cases hchanged : changed with
  | false =>
    -- what is stored already is not written again
    obtain ⟨-, -, -, heq⟩ := LeasePool.reconcile_iff.mp hrec
    rw [hchanged] at heq
    have hstore : store' = store := by simpa using heq.symm
    have hhost : { host with users := .ok store' } = host := by rw [hstore, ← hserves.stored]
    rw [hhost]
    exact returns_failingWith.mpr happly
  | true =>
    unfold applyUsersAndSave saveUsersAtomic
    simp only [Bool.not_true, Bool.false_eq_true, if_false]
    rw [returns_bind]
    refine ⟨.current, host, returns_failingWith.mpr happly, ?_⟩
    rw [returns_bind]
    refine ⟨.ok (), { host with users := .ok store' }, ?_, returns_pure.mpr ⟨rfl, rfl⟩⟩
    rw [h.saved]
    exact returns_attempt.mpr ⟨rfl, rfl⟩

end

end SingboxVpn.Apply
