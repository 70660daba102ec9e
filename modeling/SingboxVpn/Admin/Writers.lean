import SingboxVpn.Admin.External
import SingboxVpn.Admin.LeasePool
import SingboxVpn.Lib.Run

namespace SingboxVpn

open LeasePool (LeasePoolInput LeaseSlotInput isLeaseUser leaseUser fill Accepted UuidsFree)

/-!
# Two writers of one store

The lease pool and the external authorizations are reconciled onto the same store, each on its
own schedule.  Each keeps the accounts that it does not own and puts its own behind them.
-/

inductive SyncInput where
  | leasePool (input : LeasePoolInput)
  | external (input : ExternalAuthorizationInput)
deriving DecidableEq, Repr

structure SyncDraw where
  tokenHash : String → String
  now : Int

namespace SyncInput

/-- The reconciler that the input is for. -/
def reconcile (d : SyncDraw) (users : List CompatUser) :
    SyncInput → Except String (List CompatUser × Bool)
  | .leasePool input => LeasePool.reconcile d.tokenHash users input d.now
  | .external input => SingboxVpn.reconcile d.tokenHash users input d.now

def owns : SyncInput → CompatUser → Bool
  | .leasePool _ => isLeaseUser
  | .external _ => isExternal

def accounts (d : SyncDraw) (users : List CompatUser) : SyncInput → List CompatUser
  | .leasePool input => (LeasePool.sorted input).map (leaseUser d.tokenHash users d.now)
  | .external input => (desired input).map (projected d.tokenHash users d.now)

theorem reconcile_next {d : SyncDraw} {users next : List CompatUser} {changed : Bool}
    {input : SyncInput} (h : input.reconcile d users = .ok (next, changed)) :
    next = Owned.replace input.owns (input.accounts d users) users := by
  cases input with
  | leasePool a =>
    obtain ⟨-, -, hnext, -⟩ := LeasePool.reconcile_iff.mp h
    exact hnext
  | external b =>
    obtain ⟨-, -, -, hnext⟩ := reconcile_ok h
    exact hnext

end SyncInput

/-! ### Ownership -/

section Ownership

variable {tokenHash : String → String} {users next : List CompatUser} {now : Int}
  {a : LeasePoolInput} {b : ExternalAuthorizationInput} {s : LeaseSlotInput} {changed : Bool}

theorem not_lease_of_external {u : CompatUser} (h : isExternal u = true) :
    isLeaseUser u = false := by
  unfold isExternal at h
  obtain ⟨hid, hname⟩ := Bool.and_eq_true_iff.mp h
  have hlease : Text.startsWith LeasePool.LEASE_USER_PREFIX u.id = false :=
    Text.startsWith_false_of_prefix hid (by decide) (by decide)
  have hnative : Text.startsWith "native_" u.name = false :=
    Text.startsWith_false_of_prefix hname (by decide) (by decide)
  unfold isLeaseUser
  rw [hlease, hnative, Bool.and_false, Bool.or_false]

theorem isExternal_leaseUser (haccepted : Accepted a) (hs : s ∈ a.slots) :
    isExternal (leaseUser tokenHash users now s) = true ↔ s.cls = some .compatibility := by
  constructor
  · intro hext
    by_contra hcls
    have hlease : isLeaseUser (leaseUser tokenHash users now s) = true :=
      (LeasePool.isLeaseUser_leaseUser haccepted hs).mpr hcls
    rw [not_lease_of_external hext] at hlease
    cases hlease
  · intro hcls
    have hname : (leaseUser tokenHash users now s).name = s.principalId.getD s.id := rfl
    rw [isExternal, LeasePool.leaseUser_id, hname]
    rcases LeasePool.names_of_accepted haccepted hs with
      ⟨c, -, hid, hprincipal, hcls', hcred, hclass⟩ | ⟨-, -, -, hcls'⟩
    · have hkind : c.cls = .compatibility := Option.some.inj (hcls'.symm.trans hcls)
      rw [hkind] at hclass
      rw [hid, hprincipal, hcred]
      exact hclass
    · rw [hcls'] at hcls
      cases hcls

def unowned (users : List CompatUser) : List CompatUser :=
  users.filter fun u => !isLeaseUser u && !isExternal u

end Ownership

/-! ### Re-applying both inputs -/

/-- A sequence of syncs: the store at the end, and what each reported. -/
def syncAll : List (SyncDraw × SyncInput) → List CompatUser →
    Except String (List CompatUser × List Bool)
  | [], users => .ok (users, [])
  | (d, input) :: rest, users => do
    let (next, changed) ← input.reconcile d users
    let (final, flags) ← syncAll rest next
    .ok (final, changed :: flags)

/-- Syncs of the two inputs, in any order and number and at any times, are accepted, report no
    change and leave the store as it is. -/
def Stable (a : LeasePoolInput) (b : ExternalAuthorizationInput) (users : List CompatUser) :
    Prop :=
  ∀ syncs : List (SyncDraw × SyncInput),
    (∀ p ∈ syncs, p.2 = .leasePool a ∨ p.2 = .external b) →
      syncAll syncs users = .ok (users, syncs.map fun _ => false)

/-- The inputs for which the store settles: one of them is empty, all slots are native, and
    where neither writer owns an account with a slot's id, it gives the same account as the
    first one with that id. -/
structure Settles (users : List CompatUser) (a : LeasePoolInput)
    (b : ExternalAuthorizationInput) : Prop where
  apart : a.slots = [] ∨ b.authorizations = []
  native : ∀ s ∈ a.slots, s.cls ≠ some .compatibility
  records : ∀ s ∈ a.slots, ∀ u v, users.find? (·.id == s.id) = some u →
    (unowned users).find? (·.id == s.id) = some v → fill s v = fill s u

section Stable

variable {users first next : List CompatUser} {a : LeasePoolInput}
  {b : ExternalAuthorizationInput} {d d' : SyncDraw} {changed changed' : Bool}

theorem stable_iff :
    Stable a b users ↔
      (∀ d, (SyncInput.leasePool a).reconcile d users = .ok (users, false)) ∧
        ∀ d, (SyncInput.external b).reconcile d users = .ok (users, false) := by
  have hone : ∀ d input, syncAll [(d, input)] users = .ok (users, [false]) →
      SyncInput.reconcile d users input = .ok (users, false) := by
    intro d input h
    cases hrec : SyncInput.reconcile d users input with
    | error e =>
      rw [syncAll, hrec] at h
      cases h
    | ok r =>
      obtain ⟨next, changed⟩ := r
      rw [syncAll, hrec] at h
      change Except.ok (next, [changed]) = Except.ok (users, [false]) at h
      simpa using h
  constructor
  · intro hstable
    constructor
    · intro d
      apply hone
      exact hstable [(d, _)] (by simp)
    · intro d
      apply hone
      exact hstable [(d, _)] (by simp)
  · rintro ⟨hlease, hext⟩ syncs hsyncs
    induction syncs with
    | nil => rfl
    | cons p syncs ih =>
      obtain ⟨d, input⟩ := p
      obtain ⟨hinput, hrest⟩ := List.forall_mem_cons.mp hsyncs
      have hrec : SyncInput.reconcile d users input = .ok (users, false) := by
        rcases hinput with rfl | rfl
        · exact hlease d
        · exact hext d
      simp only [syncAll, hrec, List.map_cons]
      show (do
        let (final, flags) ← syncAll syncs users
        Except.ok (final, false :: flags)) = _
      rw [ih hrest]
      rfl

theorem external_again (hrec : SyncInput.reconcile d users (.external b) = .ok (next, changed))
    (hsame : nonExternal first = nonExternal users) :
    ∃ again, SyncInput.reconcile d' first (.external b) = .ok (again, decide (again ≠ first)) := by
  simp only [SyncInput.reconcile, reconcile, Check.bind_ok, hsame] at hrec ⊢
  obtain ⟨hvalid, hclass, hseen, huuids, hids, -⟩ := hrec
  exact ⟨_, hvalid, hclass, hseen, huuids, hids, rfl⟩

theorem external_accounts_owned
    (hrec : SyncInput.reconcile d users (.external b) = .ok (next, changed)) :
    ∀ u ∈ (SyncInput.external b).accounts d users, isExternal u = true :=
  isExternal_of_reconcile hrec

theorem external_ids_nodup
    (hrec : SyncInput.reconcile d users (.external b) = .ok (next, changed)) :
    (((SyncInput.external b).accounts d users).map CompatUser.id).Nodup := by
  obtain ⟨hvalid, -, -, -⟩ := reconcile_ok hrec
  have hids : ((SyncInput.external b).accounts d users).map CompatUser.id =
      (desired b).map Authorization.credentialId := by
    rw [SyncInput.accounts, List.map_map]
    exact List.map_congr_left fun c _ => projected_id
  rw [hids]
  exact ((desired_perm b).map _).nodup_iff.mpr (AuthorizationSet.validate_ok.mp hvalid).2.1

theorem projected_next (hrec : SyncInput.reconcile d users (.external b) = .ok (next, changed))
    {c : Authorization} (hc : c ∈ desired b) :
    projected d'.tokenHash next d'.now c = projected d.tokenHash users d.now c := by
  have hmem : projected d.tokenHash users d.now c ∈ (SyncInput.external b).accounts d users :=
    List.mem_map_of_mem hc
  have hfound := Owned.find?_key (external_ids_nodup hrec) hmem
  rw [← Owned.filter_owned_replace (l := users) (external_accounts_owned hrec), projected_id,
    List.find?_filter] at hfound
  have hkept : keptRecord next c = some (projected d.tokenHash users d.now c) := by
    rw [← hfound, SyncInput.reconcile_next hrec]
    unfold keptRecord
    congr 1
    funext u
    rw [Bool.and_comm]
    simp only [Bool.decide_and, Bool.decide_eq_true]
  unfold projected
  rw [hkept]
  rfl

theorem external_fixed
    (hrec : SyncInput.reconcile d users (.external b) = .ok (next, changed)) :
    SyncInput.reconcile d' next (.external b) = .ok (next, false) := by
  obtain ⟨again, hagain⟩ : ∃ again, SyncInput.reconcile d' next (.external b) =
      .ok (again, decide (again ≠ next)) := external_again hrec (nonExternal_next hrec)
  have haccounts : (SyncInput.external b).accounts d' next =
      (SyncInput.external b).accounts d users :=
    List.map_congr_left fun c hc => projected_next hrec hc
  have hsame : again = next := by
    rw [SyncInput.reconcile_next hagain, haccounts]
    show nonExternal next ++ _ = next
    rw [nonExternal_next hrec]
    exact (SyncInput.reconcile_next hrec).symm
  rw [hagain, hsame]
  simp

/-- The lease accounts that stay when the external input is applied behind them: those that are
    not taken for external ones. -/
def leaseRest (d : SyncDraw) (users : List CompatUser) (a : LeasePoolInput) : List CompatUser :=
  ((SyncInput.leasePool a).accounts d users).filter (!isExternal ·)

theorem leaseRest_owned (haccepted : Accepted a) :
    ∀ u ∈ leaseRest d users a, isLeaseUser u = true := by
  intro u hu
  obtain ⟨hmem, hother⟩ := List.mem_filter.mp hu
  obtain ⟨s, hs, rfl⟩ := List.mem_map.mp hmem
  rw [LeasePool.isLeaseUser_leaseUser haccepted (LeasePool.mem_sorted.mp hs)]
  intro hcls
  rw [(isExternal_leaseUser haccepted (LeasePool.mem_sorted.mp hs)).mpr hcls] at hother
  cases hother

theorem store_after (hlease : SyncInput.reconcile d users (.leasePool a) = .ok (first, changed))
    (hext : SyncInput.reconcile d' first (.external b) = .ok (next, changed')) :
    next = unowned users ++
      (leaseRest d users a ++ (SyncInput.external b).accounts d' first) := by
  rw [SyncInput.reconcile_next hext, SyncInput.reconcile_next hlease]
  unfold Owned.replace unowned leaseRest
  simp only [SyncInput.owns, List.filter_append, List.filter_filter, List.append_assoc,
    Bool.and_comm]

/-- Of the store after both inputs, the lease pool keeps the accounts of neither writer and the
    external ones. -/
theorem others_after (hlease : SyncInput.reconcile d users (.leasePool a) = .ok (first, changed))
    (hext : SyncInput.reconcile d' first (.external b) = .ok (next, changed')) :
    next.filter (!isLeaseUser ·) =
      unowned users ++ (SyncInput.external b).accounts d' first := by
  obtain ⟨haccepted, -, -, -⟩ := LeasePool.reconcile_iff.mp hlease
  have hunowned : (unowned users).filter (!isLeaseUser ·) = unowned users := by
    refine List.filter_eq_self.mpr fun u hu => ?_
    exact (Bool.and_eq_true_iff.mp (List.mem_filter.mp hu).2).1
  have hslots : (leaseRest d users a).filter (!isLeaseUser ·) = [] := by
    refine List.filter_eq_nil_iff.mpr fun u hu => ?_
    simp [leaseRest_owned haccepted u hu]
  have hexternal : ((SyncInput.external b).accounts d' first).filter (!isLeaseUser ·) =
      (SyncInput.external b).accounts d' first := by
    refine List.filter_eq_self.mpr fun u hu => ?_
    simp [not_lease_of_external (external_accounts_owned hext u hu)]
  rw [store_after hlease hext, List.filter_append, List.filter_append, hunowned, hslots, hexternal,
    List.nil_append]

/-- Re-applying the lease pool changes nothing exactly if it is accepted, one of the two parts
    is empty and the slots' accounts are those that are there. -/
theorem lease_fixed_iff {again : SyncDraw}
    (hlease : SyncInput.reconcile d users (.leasePool a) = .ok (first, changed))
    (hext : SyncInput.reconcile d' first (.external b) = .ok (next, changed')) :
    SyncInput.reconcile again next (.leasePool a) = .ok (next, false) ↔
      UuidsFree next a ∧
        (leaseRest d users a = [] ∨ (SyncInput.external b).accounts d' first = []) ∧
        (SyncInput.leasePool a).accounts again next = leaseRest d users a := by
  obtain ⟨haccepted, -, -, -⟩ := LeasePool.reconcile_iff.mp hlease
  have hother : ∀ u ∈ (SyncInput.external b).accounts d' first, isLeaseUser u = false :=
    fun u hu => not_lease_of_external (external_accounts_owned hext u hu)
  rw [← Owned.append_swap_iff (leaseRest_owned haccepted) hother]
  have hshape : next = Owned.replace isLeaseUser ((SyncInput.leasePool a).accounts again next)
      next ↔ leaseRest d users a ++ (SyncInput.external b).accounts d' first =
        (SyncInput.external b).accounts d' first ++
          (SyncInput.leasePool a).accounts again next := by
    unfold Owned.replace
    rw [others_after hlease hext, List.append_assoc]
    nth_rewrite 1 [store_after hlease hext]
    exact List.append_right_inj _
  constructor
  · intro h
    obtain ⟨-, hfree, hnext, -⟩ := LeasePool.reconcile_iff.mp h
    exact ⟨hfree, hshape.mp hnext⟩
  · rintro ⟨hfree, hswap⟩
    exact LeasePool.reconcile_iff.mpr ⟨haccepted, hfree, hshape.mpr hswap, by simp⟩

theorem leaseRest_eq_iff (haccepted : Accepted a) :
    leaseRest d users a = (SyncInput.leasePool a).accounts d users ↔
      ∀ s ∈ a.slots, s.cls ≠ some .compatibility := by
  unfold leaseRest SyncInput.accounts
  rw [List.filter_eq_self, List.forall_mem_map]
  constructor
  · intro h s hs hcls
    have hother := h s (LeasePool.mem_sorted.mpr hs)
    rw [(isExternal_leaseUser haccepted hs).mpr hcls] at hother
    cases hother
  · intro h s hs
    have hslot := LeasePool.mem_sorted.mp hs
    have hother : ¬ isExternal (leaseUser d.tokenHash users d.now s) = true :=
      fun hext => h s hslot ((isExternal_leaseUser haccepted hslot).mp hext)
    simpa using hother

theorem lease_ids_nodup (haccepted : Accepted a) :
    (((SyncInput.leasePool a).accounts d users).map CompatUser.id).Nodup := by
  have hids : ((SyncInput.leasePool a).accounts d users).map CompatUser.id =
      (LeasePool.sorted a).map LeaseSlotInput.id := by
    rw [SyncInput.accounts, List.map_map]
    exact List.map_congr_left fun s _ => LeasePool.leaseUser_id
  rw [hids]
  exact LeasePool.slot_ids_nodup haccepted

/-- What is found under a slot's id after both syncs: an account of neither writer, or else the
    slot's own. -/
theorem find?_after (hlease : SyncInput.reconcile d users (.leasePool a) = .ok (first, changed))
    (hext : SyncInput.reconcile d' first (.external b) = .ok (next, changed'))
    (hnative : ∀ s ∈ a.slots, s.cls ≠ some .compatibility) {s : LeaseSlotInput}
    (hs : s ∈ a.slots) :
    next.find? (·.id == s.id) = ((unowned users).find? (·.id == s.id)).or
      (some (leaseUser d.tokenHash users d.now s)) := by
  obtain ⟨haccepted, -, -, -⟩ := LeasePool.reconcile_iff.mp hlease
  have hmem : leaseUser d.tokenHash users d.now s ∈ (SyncInput.leasePool a).accounts d users :=
    List.mem_map_of_mem (LeasePool.mem_sorted.mpr hs)
  have hfound := Owned.find?_key (lease_ids_nodup haccepted) hmem
  rw [LeasePool.leaseUser_id] at hfound
  rw [store_after hlease hext, (leaseRest_eq_iff haccepted).mpr hnative, List.find?_append,
    List.find?_append, hfound]
  rfl

theorem lease_accounts_nil : (SyncInput.leasePool a).accounts d users = [] ↔ a.slots = [] := by
  rw [SyncInput.accounts, List.map_eq_nil_iff, ← List.length_eq_zero_iff,
    (LeasePool.sorted_perm a).length_eq, List.length_eq_zero_iff]

theorem external_accounts_nil :
    (SyncInput.external b).accounts d users = [] ↔ b.authorizations = [] := by
  rw [SyncInput.accounts, List.map_eq_nil_iff, ← List.length_eq_zero_iff,
    (desired_perm b).length_eq, List.length_eq_zero_iff]

theorem settles_of_fixed
    (hlease : SyncInput.reconcile d users (.leasePool a) = .ok (first, changed))
    (hext : SyncInput.reconcile d' first (.external b) = .ok (next, changed'))
    (hfixed : SyncInput.reconcile d next (.leasePool a) = .ok (next, false)) :
    Settles users a b := by
  obtain ⟨haccepted, -, -, -⟩ := LeasePool.reconcile_iff.mp hlease
  obtain ⟨-, hempty, hsame⟩ := (lease_fixed_iff hlease hext).mp hfixed
  -- as many accounts stay as there are slots, so all of them
  have hrest : leaseRest d users a = (SyncInput.leasePool a).accounts d users := by
    apply List.filter_sublist.eq_of_length
    show (leaseRest d users a).length = _
    rw [← hsame, SyncInput.accounts, SyncInput.accounts, List.length_map, List.length_map]
  have hnative := (leaseRest_eq_iff haccepted).mp hrest
  rw [hrest] at hempty hsame
  refine ⟨?_, hnative, ?_⟩
  · rw [lease_accounts_nil, external_accounts_nil] at hempty
    exact hempty
  · intro s hs u v hu hv
    have hboth := List.map_inj_left.mp hsame s (LeasePool.mem_sorted.mpr hs)
    have hnext := find?_after hlease hext hnative hs
    rw [hv] at hnext
    rw [LeasePool.leaseUser_of_find hnext, LeasePool.leaseUser_of_find hu] at hboth
    exact hboth

theorem leaseUser_after (hlease : SyncInput.reconcile d users (.leasePool a) = .ok (first, changed))
    (hext : SyncInput.reconcile d' first (.external b) = .ok (next, changed'))
    (hsettles : Settles users a b) {s : LeaseSlotInput} (hs : s ∈ a.slots)
    (tokenHash : String → String) (now : Int) :
    leaseUser tokenHash next now s = leaseUser d.tokenHash users d.now s := by
  have hnext := find?_after hlease hext hsettles.native hs
  cases hv : (unowned users).find? (·.id == s.id) with
  | none =>
    rw [hv] at hnext
    rw [LeasePool.leaseUser_of_find hnext]
    exact LeasePool.fill_fill s _
  | some v =>
    have hid := List.find?_some hv
    obtain ⟨u, hu⟩ : ∃ u, users.find? (·.id == s.id) = some u := by
      apply Option.isSome_iff_exists.mp
      exact List.find?_isSome.mpr
        ⟨v, (List.mem_filter.mp (List.mem_of_find?_eq_some hv)).1, hid⟩
    rw [hv] at hnext
    rw [LeasePool.leaseUser_of_find hnext, LeasePool.leaseUser_of_find hu]
    exact hsettles.records s hs u v hu hv

theorem lease_fixed (hlease : SyncInput.reconcile d users (.leasePool a) = .ok (first, changed))
    (hext : SyncInput.reconcile d' first (.external b) = .ok (next, changed'))
    (hsettles : Settles users a b) (again : SyncDraw) :
    SyncInput.reconcile again next (.leasePool a) = .ok (next, false) := by
  obtain ⟨haccepted, hfree, -, -⟩ := LeasePool.reconcile_iff.mp hlease
  have hrest : leaseRest d users a = (SyncInput.leasePool a).accounts d users :=
    (leaseRest_eq_iff haccepted).mpr hsettles.native
  rw [lease_fixed_iff hlease hext, hrest, lease_accounts_nil, external_accounts_nil]
  refine ⟨?_, hsettles.apart, ?_⟩
  · intro u hu hother
    rcases hsettles.apart with hslots | hauths
    · rw [hslots]
      exact List.not_mem_nil
    · -- without external accounts, only accounts that were there before are no lease accounts
      have hmem : u ∈ next.filter (!isLeaseUser ·) := List.mem_filter.mpr ⟨hu, by simp [hother]⟩
      rw [others_after hlease hext, external_accounts_nil.mpr hauths, List.append_nil] at hmem
      exact hfree u (List.mem_filter.mp hmem).1 hother
  · apply List.map_congr_left
    intro s hs
    exact leaseUser_after hlease hext hsettles (LeasePool.mem_sorted.mp hs) _ _

/-- Re-applying unchanged inputs changes nothing exactly if the store settles. -/
theorem reconciled_stable_iff
    (hlease : SyncInput.reconcile d users (.leasePool a) = .ok (first, changed))
    (hext : SyncInput.reconcile d' first (.external b) = .ok (next, changed')) :
    Stable a b next ↔ Settles users a b := by
  rw [stable_iff]
  constructor
  · rintro ⟨hfixed, -⟩
    exact settles_of_fixed hlease hext (hfixed d)
  · intro hsettles
    exact ⟨lease_fixed hlease hext hsettles, fun _ => external_fixed hext⟩

end Stable

/-! ### Two syncs that keep changing places -/

def sampleDraw : SyncDraw := ⟨fun _ => "hash", 0⟩

def sampleSlot : LeaseSlotInput where
  slot := 0
  vlessUuid := "00000000-0000-4000-8000-00000000000b"
  hysteria2Password := "0123456789abcdef"
  expiresAt := 900
  principalId := some "native_principal001"
  credentialId := some "cred_slot0001"
  cls := some .native
  validFrom := some 0
  revoked := false

def samplePool : LeasePoolInput := ⟨[sampleSlot]⟩

def sampleExternals : ExternalAuthorizationInput :=
  ⟨[sampleAuthorization (some "0123456789abcdef")]⟩

def sampleLeaseUser : CompatUser := leaseUser sampleDraw.tokenHash [sampleUser] 0 sampleSlot

def sampleExternalUser : CompatUser :=
  projected sampleDraw.tokenHash [] 0 (sampleAuthorization (some "0123456789abcdef"))

/-- A lease pool alone settles. -/
theorem reconciled_stable_iff_alone : Stable samplePool ⟨[]⟩ [sampleUser, sampleLeaseUser] := by
  have hlease : SyncInput.reconcile sampleDraw [sampleUser] (.leasePool samplePool) =
      .ok ([sampleUser, sampleLeaseUser], true) := rfl
  have hext : SyncInput.reconcile sampleDraw [sampleUser, sampleLeaseUser] (.external ⟨[]⟩) =
      .ok ([sampleUser, sampleLeaseUser], false) := rfl
  refine (reconciled_stable_iff hlease hext).mpr ⟨.inr rfl, by decide, ?_⟩
  intro s hs u v hu
  rw [List.mem_singleton.mp hs] at hu
  cases hu

/-- With both kinds of account in the store, each sync puts its own last: the syncs report a
    change for ever. -/
theorem resync_swaps_accounts :
    SyncInput.reconcile sampleDraw [sampleUser] (.leasePool samplePool) =
        .ok ([sampleUser, sampleLeaseUser], true) ∧
      SyncInput.reconcile sampleDraw [sampleUser, sampleLeaseUser] (.external sampleExternals) =
        .ok ([sampleUser, sampleLeaseUser, sampleExternalUser], true) ∧
      SyncInput.reconcile sampleDraw [sampleUser, sampleLeaseUser, sampleExternalUser]
        (.leasePool samplePool) = .ok ([sampleUser, sampleExternalUser, sampleLeaseUser], true) ∧
      SyncInput.reconcile sampleDraw [sampleUser, sampleExternalUser, sampleLeaseUser]
        (.external sampleExternals) =
          .ok ([sampleUser, sampleLeaseUser, sampleExternalUser], true) ∧
      ¬ Stable samplePool sampleExternals [sampleUser, sampleLeaseUser, sampleExternalUser] := by
  have hswap : SyncInput.reconcile sampleDraw [sampleUser, sampleLeaseUser, sampleExternalUser]
      (.leasePool samplePool) = .ok ([sampleUser, sampleExternalUser, sampleLeaseUser], true) := rfl
  refine ⟨rfl, rfl, hswap, rfl, ?_⟩
  intro hstable
  have hfixed := (stable_iff.mp hstable).1 sampleDraw
  rw [hswap] at hfixed
  exact Bool.noConfusion (Prod.mk.inj (Except.ok.inj hfixed)).2

/-! ### Keeping apart -/

structure Content where
  id : String
  name : String
  enabled : Bool
  vlessUuid : String
  hysteria2Password : String
  expiresAt : Option Int
deriving DecidableEq, Repr

def CompatUser.content (u : CompatUser) : Content :=
  ⟨u.id, u.name, u.enabled, u.vlessUuid, u.hysteria2Password, u.expiresAt⟩

/-- What the accounts of a writer should say, in the order of the store. -/
def SyncInput.contents : SyncInput → List Content
  | .leasePool input => (LeasePool.sorted input).map fun s =>
      ⟨s.id, s.principalId.getD s.id, !s.revoked, s.lowerUuid, s.hysteria2Password,
        some s.expiresAt⟩
  | .external input => (desired input).map fun c =>
      ⟨c.credentialId, c.principalId, !c.revoked, c.lowerUuid.getD "",
        c.hysteria2Password.getD "", some c.validUntil⟩

/-- What an account has taken over from the record that it was made from. -/
structure Retains (origin u : CompatUser) : Prop where
  id : u.id = origin.id
  token : u.subscriptionTokenHashHex = origin.subscriptionTokenHashHex
  exitPrincipal : u.exitPrincipal = origin.exitPrincipal
  isReservedProbe : u.isReservedProbe = origin.isReservedProbe
  peerCredentials : u.peerCredentials = origin.peerCredentials
  credentials : u.credentials = origin.credentials
  visionOff : u.visionOffExperiment = true → origin.visionOffExperiment = true
  hairpin : u.googleEgressHairpin = true → origin.googleEgressHairpin = true

/-- A new record: a token of its own, no privilege and no grant. -/
structure Fresh (d : SyncDraw) (u : CompatUser) : Prop where
  token : u.subscriptionTokenHashHex = d.tokenHash u.id
  exitPrincipal : u.exitPrincipal = false
  isReservedProbe : u.isReservedProbe = false
  peerCredentials : u.peerCredentials = []
  credentials : u.credentials = []
  visionOff : u.visionOffExperiment = false
  hairpin : u.googleEgressHairpin = false

/-- What a sync should leave alone: the accounts of others stay as and where they are, nobody
    belongs to both writers, the writer's accounts are those of its input, made from accounts of
    its own or from nothing, and the ids stay distinct. -/
structure Separated (d : SyncDraw) (input : SyncInput) (users next : List CompatUser) :
    Prop where
  others : next.filter (!input.owns ·) = users.filter (!input.owns ·)
  exclusive : ∀ u ∈ next, ¬ (isLeaseUser u = true ∧ isExternal u = true)
  oneToOne : (next.filter input.owns).map CompatUser.content = input.contents
  origins : ∀ u ∈ next.filter input.owns,
    ∃ origin, Retains origin u ∧ (origin ∈ users.filter input.owns ∨ Fresh d origin)
  ids : (next.map CompatUser.id).Nodup

/-- The inputs that leave others alone.  The external sync checks this itself; the lease pool
    needs native slots, and no slot may have the id of an account that is no lease account. -/
def SyncInput.Safe (users : List CompatUser) : SyncInput → Prop
  | .leasePool input =>
      (∀ s ∈ input.slots, s.cls ≠ some .compatibility) ∧
        ∀ s ∈ input.slots, ∀ u ∈ users, isLeaseUser u = false → u.id ≠ s.id
  | .external _ => True

section Separated

variable {users next : List CompatUser} {d : SyncDraw} {input : SyncInput} {changed : Bool}
  {a : LeasePoolInput} {b : ExternalAuthorizationInput}

theorem separated_of_accounts (hunique : (users.map CompatUser.id).Nodup)
    (hrec : input.reconcile d users = .ok (next, changed))
    (hown : ∀ u ∈ input.accounts d users, input.owns u = true)
    (hcontents : (input.accounts d users).map CompatUser.content = input.contents)
    (horigins : ∀ u ∈ input.accounts d users,
      ∃ origin, Retains origin u ∧ (origin ∈ users.filter input.owns ∨ Fresh d origin))
    (hids : ((input.accounts d users).map CompatUser.id).Nodup)
    (hapart : ∀ u ∈ users, input.owns u = false → ∀ v ∈ input.accounts d users, u.id ≠ v.id) :
    Separated d input users next := by
  have hnext := SyncInput.reconcile_next hrec
  have howned : next.filter input.owns = input.accounts d users := by
    rw [hnext]
    exact Owned.filter_owned_replace hown
  refine ⟨?_, ?_, ?_, ?_, ?_⟩
  · rw [hnext]
    exact Owned.filter_other_replace hown
  · rintro u - ⟨hlease, hext⟩
    rw [not_lease_of_external hext] at hlease
    cases hlease
  · rw [howned]
    exact hcontents
  · rw [howned]
    exact horigins
  · rw [hnext, Owned.replace, List.map_append]
    refine List.Nodup.append (hunique.sublist (List.filter_sublist.map _)) hids ?_
    intro id hother hwritten
    obtain ⟨u, hu, rfl⟩ := List.mem_map.mp hother
    obtain ⟨v, hv, hid⟩ := List.mem_map.mp hwritten
    obtain ⟨hmem, hnot⟩ := List.mem_filter.mp hu
    exact hapart u hmem (by simpa using hnot) v hv hid.symm

theorem external_separated (hunique : (users.map CompatUser.id).Nodup)
    (hrec : (SyncInput.external b).reconcile d users = .ok (next, changed)) :
    Separated d (.external b) users next := by
  obtain ⟨-, -, hids, -⟩ := reconcile_ok hrec
  apply separated_of_accounts hunique hrec (external_accounts_owned hrec)
  · rw [SyncInput.accounts, SyncInput.contents, List.map_map]
    refine List.map_congr_left fun c _ => ?_
    simp only [Function.comp, CompatUser.content, projected_id]
    rfl
  · intro u hu
    obtain ⟨c, -, rfl⟩ := List.mem_map.mp hu
    cases hkept : keptRecord users c with
    | none =>
      refine ⟨freshExternal d.tokenHash d.now c, ?_, .inr ⟨rfl, rfl, rfl, rfl, rfl, rfl, rfl⟩⟩
      unfold projected
      rw [hkept]
      exact ⟨rfl, rfl, rfl, rfl, rfl, rfl, id, id⟩
    | some origin =>
      have hexternal := List.find?_some hkept
      refine ⟨origin, ?_, .inl (List.mem_filter.mpr ⟨List.mem_of_find?_eq_some hkept, ?_⟩)⟩
      · unfold projected
        rw [hkept]
        exact ⟨rfl, rfl, rfl, rfl, rfl, rfl, id, id⟩
      · exact (Bool.and_eq_true_iff.mp hexternal).2
  · exact external_ids_nodup hrec
  · -- the sync has refused ids of others
    intro u hu hother v hv
    obtain ⟨c, hc, rfl⟩ := List.mem_map.mp hv
    rw [projected_id]
    refine hids u (List.mem_filter.mpr ⟨hu, ?_⟩) c (mem_desired.mp hc)
    exact (Bool.not_eq_true' _).mpr hother

theorem lease_separated (hunique : (users.map CompatUser.id).Nodup)
    (hrec : (SyncInput.leasePool a).reconcile d users = .ok (next, changed))
    (hsafe : (SyncInput.leasePool a).Safe users) :
    Separated d (.leasePool a) users next := by
  obtain ⟨haccepted, -, -, -⟩ := LeasePool.reconcile_iff.mp hrec
  obtain ⟨hnative, hfree⟩ := hsafe
  apply separated_of_accounts hunique hrec
  · intro u hu
    obtain ⟨s, hs, rfl⟩ := List.mem_map.mp hu
    have hslot := LeasePool.mem_sorted.mp hs
    exact (LeasePool.isLeaseUser_leaseUser haccepted hslot).mpr (hnative s hslot)
  · rw [SyncInput.accounts, SyncInput.contents, List.map_map]
    refine List.map_congr_left fun s _ => ?_
    simp only [Function.comp, CompatUser.content, LeasePool.leaseUser_id]
    rfl
  · intro u hu
    obtain ⟨s, hs, rfl⟩ := List.mem_map.mp hu
    cases hfind : users.find? (·.id == s.id) with
    | none =>
      refine ⟨LeasePool.freshLease d.tokenHash d.now s.id, ?_,
        .inr ⟨rfl, rfl, rfl, rfl, rfl, rfl, rfl⟩⟩
      unfold leaseUser
      rw [hfind]
      exact ⟨rfl, rfl, rfl, rfl, rfl, rfl, nofun, nofun⟩
    | some origin =>
      have hmem := List.mem_of_find?_eq_some hfind
      have hid := List.find?_some hfind
      refine ⟨origin, ?_, .inl (List.mem_filter.mpr ⟨hmem, ?_⟩)⟩
      · rw [LeasePool.leaseUser_of_find hfind]
        exact ⟨rfl, rfl, rfl, rfl, rfl, rfl, nofun, nofun⟩
      · -- the record found is a lease account, as no other has this id
        by_contra hother
        exact hfree s (LeasePool.mem_sorted.mp hs) origin hmem (Bool.eq_false_iff.mpr hother)
          (beq_iff_eq.mp hid)
  · exact lease_ids_nodup haccepted
  · intro u hu hother v hv
    obtain ⟨s, hs, rfl⟩ := List.mem_map.mp hv
    rw [LeasePool.leaseUser_id]
    exact hfree s (LeasePool.mem_sorted.mp hs) u hu hother

theorem safe_of_separated (hrec : (SyncInput.leasePool a).reconcile d users = .ok (next, changed))
    (hseparated : Separated d (.leasePool a) users next) :
    (SyncInput.leasePool a).Safe users := by
  obtain ⟨haccepted, -, -, -⟩ := LeasePool.reconcile_iff.mp hrec
  have hnext := SyncInput.reconcile_next hrec
  constructor
  · -- the account of a compatibility slot would stand among those of others
    intro s hs hcls
    have hothers := hseparated.others
    rw [hnext, Owned.filter_replace] at hothers
    unfold Owned.replace at hothers
    rw [List.filter_filter] at hothers
    have hmem : leaseUser d.tokenHash users d.now s ∈
        ((SyncInput.leasePool a).accounts d users).filter
          (!(SyncInput.leasePool a).owns ·) := by
      refine List.mem_filter.mpr ⟨List.mem_map_of_mem (LeasePool.mem_sorted.mpr hs), ?_⟩
      have hlease : ¬ isLeaseUser (leaseUser d.tokenHash users d.now s) = true :=
        fun h => (LeasePool.isLeaseUser_leaseUser haccepted hs).mp h hcls
      simpa [SyncInput.owns] using hlease
    simp only [Bool.and_self, List.append_right_eq_self] at hothers
    rw [hothers] at hmem
    cases hmem
  · intro s hs u hu hother hid
    have hids := hseparated.ids
    rw [hnext, Owned.replace, List.map_append] at hids
    refine (List.nodup_append.mp hids).2.2 u.id ?_ s.id ?_ hid
    · exact List.mem_map_of_mem (List.mem_filter.mpr ⟨hu, by simp [SyncInput.owns, hother]⟩)
    · refine List.mem_map.mpr ⟨leaseUser d.tokenHash users d.now s, ?_, LeasePool.leaseUser_id⟩
      exact List.mem_map_of_mem (LeasePool.mem_sorted.mpr hs)

theorem separated_iff (hunique : (users.map CompatUser.id).Nodup)
    (hrec : input.reconcile d users = .ok (next, changed)) :
    Separated d input users next ↔ input.Safe users := by
  cases input with
  | leasePool a => exact ⟨safe_of_separated hrec, lease_separated hunique hrec⟩
  | external b => exact ⟨fun _ => trivial, fun _ => external_separated hunique hrec⟩

end Separated

def syncStep (users : List CompatUser) (e : SyncDraw × SyncInput) : Option (List CompatUser) :=
  match e.2.reconcile e.1 users with
  | .ok (next, _) => some next
  | .error _ => none

/-- In every store that safe syncs lead to from one with distinct ids, ids are distinct and
    exactly the safe syncs leave the accounts of others alone. -/
theorem writers_separated_iff {users store : List CompatUser}
    (hunique : (users.map CompatUser.id).Nodup)
    (hrun : Runs.Leads syncStep (fun store e => e.2.Safe store) users store) :
    (store.map CompatUser.id).Nodup ∧
      ∀ d input next changed, SyncInput.reconcile d store input = .ok (next, changed) →
        (Separated d input store next ↔ input.Safe store) := by
  have hkeep : ∀ store e next, (store.map CompatUser.id).Nodup → SyncInput.Safe store e.2 →
      syncStep store e = some next → (next.map CompatUser.id).Nodup := by
    intro store e next hstore hsafe hstep
    unfold syncStep at hstep
    split at hstep
    · next next' changed hrec =>
      cases hstep
      exact ((separated_iff hstore hrec).mpr hsafe).ids
    · cases hstep
  have hids := hrun.invariant (fun store => (store.map CompatUser.id).Nodup) hkeep hunique
  exact ⟨hids, fun d input next changed hrec => separated_iff hids hrec⟩

/-- A native slot beside an account of the operator's. -/
theorem writers_separated_iff_native :
    Separated sampleDraw (.leasePool samplePool) [sampleUser] [sampleUser, sampleLeaseUser] := by
  have hsafe : (SyncInput.leasePool samplePool).Safe [sampleUser] := by
    constructor
    · decide
    · decide
  exact ((writers_separated_iff (by decide) (Runs.Leads.refl [sampleUser])).2 sampleDraw _ _ true
    rfl).mpr hsafe

def sampleTaken : CompatUser :=
  { sampleUser with
    id := "cred_slot0001"
    name := "customer"
    subscriptionTokenHashHex := "customer-token"
    exitPrincipal := true }

/-- The lease pool gives its new account the token and the privilege of the other one, and the
    store has two accounts with one id. -/
theorem lease_slot_takes_over_account :
    ([sampleTaken].map CompatUser.id).Nodup ∧ isLeaseUser sampleTaken = false ∧
      SyncInput.reconcile sampleDraw [sampleTaken] (.leasePool samplePool) =
        .ok ([sampleTaken, fill sampleSlot sampleTaken], true) ∧
      (fill sampleSlot sampleTaken).subscriptionTokenHashHex = "customer-token" ∧
      (fill sampleSlot sampleTaken).exitPrincipal = true ∧
      (fill sampleSlot sampleTaken).id = sampleTaken.id ∧
      ¬ Separated sampleDraw (.leasePool samplePool) [sampleTaken]
        [sampleTaken, fill sampleSlot sampleTaken] := by
  refine ⟨by decide, by decide, rfl, rfl, rfl, rfl, ?_⟩
  intro hseparated
  exact absurd hseparated.ids (by decide)

end SingboxVpn
