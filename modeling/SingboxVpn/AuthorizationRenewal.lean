import SingboxVpn.AuthorizationExact

/-!
# Renewing native leases

`AuthorizationSet::renew_native` (`crates/compat-config/src/authorization.rs`) and sequences of such
calls.

* `AuthorizationSet.renewed_cases` — what a call can do.
* `AuthorizationSet.validate_renewed` — when the set is still valid after it.
-/

namespace SingboxVpn

open Authorization (NATIVE_LEASE_SECS MAX_OVERLAP_SECS)

/-- Where a renewed lease ends; the end stays if the new one is not a 64-bit integer. -/
def Authorization.renewedUntil (a : Authorization) (now : Int) : Int :=
  if now + NATIVE_LEASE_SECS ≤ I64_MAX then now + NATIVE_LEASE_SECS else a.validUntil

def Authorization.renewed (a : Authorization) (now : Int) : Authorization :=
  { a with validFrom := now, validUntil := a.renewedUntil now }

namespace AuthorizationSet

def setWindow (credentialId : String) (validFrom validUntil : Int) :
    List Authorization → List Authorization
  | [] => []
  | a :: as =>
    if a.credentialId == credentialId then
      { a with validFrom := validFrom, validUntil := validUntil } :: as
    else a :: setWindow credentialId validFrom validUntil as

/-- The outcome and the set after it.  A renewal that overflows has already moved the start. -/
def renewNative (set : AuthorizationSet) (credentialId : String) (now : Int) :
    Except String Unit × AuthorizationSet :=
  match set.authorizations.find? (·.credentialId == credentialId) with
  | none => (.error "credential not found", set)
  | some item =>
    if item.cls != .native || item.revoked || !item.isActiveAt now then
      (.error "credential is not an active native lease", set)
    else if now + NATIVE_LEASE_SECS ≤ I64_MAX then
      (.ok (), ⟨setWindow credentialId now (now + NATIVE_LEASE_SECS) set.authorizations⟩)
    else
      (.error "renewal timestamp overflow",
        ⟨setWindow credentialId now item.validUntil set.authorizations⟩)

def renewed (set : AuthorizationSet) (call : String × Int) : AuthorizationSet :=
  (set.renewNative call.1 call.2).2

/-! ### What a call can do -/

theorem setWindow_append {credentialId : String} {as bs : List Authorization} {c : Authorization}
    (has : ∀ a ∈ as, a.credentialId ≠ credentialId) (hc : c.credentialId = credentialId)
    (validFrom validUntil : Int) :
    setWindow credentialId validFrom validUntil (as ++ c :: bs) =
      as ++ { c with validFrom := validFrom, validUntil := validUntil } :: bs := by
  induction as with
  | nil => simp [setWindow, hc]
  | cons a as ih =>
    obtain ⟨ha, has⟩ := List.forall_mem_cons.mp has
    simp [setWindow, ha, ih has]

theorem renewed_cases (set : AuthorizationSet) (call : String × Int) :
    (set.renewed call = set ∧ ∀ c, set.authorizations.find? (·.credentialId == call.1) = some c →
        ¬ (c.cls = .native ∧ c.isActiveAt call.2 = true)) ∨
      ∃ as c bs, set = ⟨as ++ c :: bs⟩ ∧ (∀ a ∈ as, a.credentialId ≠ call.1) ∧
        c.credentialId = call.1 ∧ c.cls = .native ∧ c.isActiveAt call.2 = true ∧
        set.renewed call = ⟨as ++ c.renewed call.2 :: bs⟩ := by
  unfold renewed renewNative
  cases hfind : set.authorizations.find? (·.credentialId == call.1) with
  | none => exact .inl ⟨rfl, nofun⟩
  | some item =>
    obtain ⟨hid, as, bs, hsplit, has⟩ := List.find?_eq_some_iff_append.mp hfind
    have has : ∀ a ∈ as, a.credentialId ≠ call.1 := fun a ha => by simpa using has a ha
    have hid : item.credentialId = call.1 := by simpa using hid
    dsimp only
    split
    · next hnot =>
      refine .inl ⟨rfl, ?_⟩
      rintro c hc ⟨hnative, hactive⟩
      obtain rfl := Option.some.inj hc
      have hlive : item.revoked = false := by
        simp only [Authorization.isActiveAt, Bool.and_eq_true, Bool.not_eq_true'] at hactive
        exact hactive.1.1
      simp [hnative, hactive, hlive] at hnot
    · next hok =>
      simp only [Bool.or_eq_true, not_or, bne_iff_ne, ne_eq, not_not, Bool.not_eq_true,
        Bool.not_eq_false'] at hok
      refine .inr ⟨as, item, bs, ?_, has, hid, hok.1.1, hok.2, ?_⟩
      · exact congrArg mk hsplit
      · rw [hsplit]
        unfold Authorization.renewed Authorization.renewedUntil
        split
        · exact congrArg mk (setWindow_append has hid _ _)
        · exact congrArg mk (setWindow_append has hid _ _)

/-! ### Validity after a call -/

/-- Two of the other live credentials of its principal are never open together while a renewal
    prolongs a lease, and no 64-bit overlap with one of them gets too long. -/
def LeavesRoom (set : AuthorizationSet) (call : String × Int) : Prop :=
  ∀ c ∈ set.authorizations, c.credentialId = call.1 → c.cls = .native →
    c.isActiveAt call.2 = true →
    (∀ b ∈ set.live c.principalId, b.credentialId ≠ call.1 →
      overlap (c.renewed call.2) b ≤ MAX_OVERLAP_SECS) ∧
    ∀ t, c.validUntil ≤ t → t < c.renewedUntil call.2 →
      ((set.live c.principalId).countP fun b =>
        b.credentialId ≠ call.1 ∧ b.validFrom ≤ t ∧ t < b.validUntil) ≤ 1

variable {a : Authorization}

theorem isActiveAt_iff {now : Int} :
    a.isActiveAt now = true ↔ a.revoked = false ∧ a.validFrom ≤ now ∧ now < a.validUntil := by
  simp [Authorization.isActiveAt, and_assoc]

section
variable {c : Authorization} {now : Int}

theorem lt_renewedUntil (hactive : c.isActiveAt now = true) : now < c.renewedUntil now := by
  obtain ⟨-, -, huntil⟩ := isActiveAt_iff.mp hactive
  unfold Authorization.renewedUntil NATIVE_LEASE_SECS
  split <;> omega

theorem validateItem_renewed (h : c.validateItem = .ok ()) (hnative : c.cls = .native)
    (hactive : c.isActiveAt now = true) : (c.renewed now).validateItem = .ok () := by
  obtain ⟨hlive, hfrom, huntil⟩ := isActiveAt_iff.mp hactive
  obtain ⟨hnames, -, hwindow⟩ := Authorization.validateItem_ok.mp h
  obtain ⟨hpositive, hsecrets, hlimit⟩ := hwindow hlive
  have hlimit : c.validUntil - c.validFrom ≤ NATIVE_LEASE_SECS := by
    rw [hnative] at hlimit
    exact hlimit
  have hle : c.renewedUntil now - now ≤ NATIVE_LEASE_SECS := by
    unfold Authorization.renewedUntil
    split <;> omega
  have hgt := lt_renewedUntil hactive
  refine Authorization.validateItem_ok.mpr ⟨hnames, ?_, fun _ => ⟨?_, hsecrets, ?_⟩⟩
  · show -(2 ^ 63) ≤ c.renewedUntil now - now ∧ c.renewedUntil now - now < 2 ^ 63
    unfold NATIVE_LEASE_SECS at hle
    omega
  · show 0 < c.renewedUntil now - now
    omega
  · show c.renewedUntil now - now ≤ Authorization.lifetimeLimit c.cls
    rw [hnative]
    exact hle

theorem validFrom_le_of_item {a : Authorization} (h : a.validateItem = .ok ())
    (hlive : a.revoked = false) : a.validFrom ≤ a.validUntil := by
  obtain ⟨-, -, hwindow⟩ := Authorization.validateItem_ok.mp h
  have hpositive := (hwindow hlive).1
  omega

end

section
variable {as bs : List Authorization} {c : Authorization} {now : Int}

def others (as bs : List Authorization) (principal : String) : List Authorization :=
  (mk (as ++ bs)).live principal

theorem live_middle (hlive : c.revoked = false) :
    ((mk (as ++ c :: bs)).live c.principalId).Perm (c :: others as bs c.principalId) := by
  have hcons : (mk (c :: bs)).live c.principalId = c :: (mk bs).live c.principalId := by
    simp [live, hlive]
  rw [others, live_append, live_append, hcons]
  exact List.perm_middle

theorem live_middle_ne {principal : String} (hne : c.principalId ≠ principal) :
    (mk (as ++ c :: bs)).live principal = others as bs principal := by
  have hcons : (mk (c :: bs)).live principal = (mk bs).live principal := by
    simp [live, hne]
  rw [others, live_append, live_append, hcons]

theorem principal_middle (hlive : c.revoked = false)
    (hitems : ∀ a ∈ as ++ c :: bs, a.validateItem = .ok ()) :
    (mk (as ++ c :: bs)).validatePrincipalWith overlap c.principalId = .ok () ↔
      ((∀ b ∈ others as bs c.principalId, overlap c b ≤ MAX_OVERLAP_SECS) ∧
        (others as bs c.principalId).Pairwise fun a b => overlap a b ≤ MAX_OVERLAP_SECS) ∧
      ∀ t, ((others as bs c.principalId).countP fun a => a.validFrom ≤ t ∧ t < a.validUntil) +
        (if c.validFrom ≤ t ∧ t < c.validUntil then 1 else 0) ≤ 2 := by
  have hsymm : ∀ {a b : Authorization}, overlap a b ≤ MAX_OVERLAP_SECS →
      overlap b a ≤ MAX_OVERLAP_SECS := by
    intro a b hab
    rw [overlap, min_comm, max_comm]
    exact hab
  rw [principalWith_ok fun a ha => validFrom_le_of_item (hitems a (mem_live.mp ha).1)
    (mem_live.mp ha).2.2]
  refine and_congr ?_ (forall_congr' fun t => ?_)
  · rw [(live_middle hlive).pairwise_iff hsymm, List.pairwise_cons]
  · rw [(live_middle hlive).countP_eq, List.countP_cons]
    simp only [decide_eq_true_eq]

theorem others_eq (hids : ((as ++ c :: bs).map Authorization.credentialId).Nodup)
    (principal : String) :
    others as bs principal = ((mk (as ++ c :: bs)).live principal).filter fun b =>
      b.credentialId ≠ c.credentialId := by
  rw [List.map_append, List.map_cons, List.nodup_middle] at hids
  have hne : ∀ b ∈ as ++ bs, b.credentialId ≠ c.credentialId := by
    intro b hb heq
    refine (List.nodup_cons.mp hids).1 ?_
    rw [← List.map_append, ← heq]
    exact List.mem_map_of_mem hb
  have hothers : (as ++ c :: bs).filter (fun b => b.credentialId ≠ c.credentialId) = as ++ bs := by
    rw [List.filter_append, List.filter_cons_of_neg (by simp), ← List.filter_append]
    exact List.filter_eq_self.mpr fun b hb => by simpa using hne b hb
  unfold others live
  rw [List.filter_comm, hothers]

theorem eq_of_id {set : AuthorizationSet}
    (hids : (set.authorizations.map Authorization.credentialId).Nodup) {a b : Authorization}
    (ha : a ∈ set.authorizations) (hb : b ∈ set.authorizations)
    (hid : a.credentialId = b.credentialId) : a = b :=
  List.inj_on_of_nodup_map hids ha hb hid

theorem leavesRoom_iff (hids : ((as ++ c :: bs).map Authorization.credentialId).Nodup)
    {call : String × Int} (hid : c.credentialId = call.1) (hnative : c.cls = .native)
    (hactive : c.isActiveAt call.2 = true) :
    (mk (as ++ c :: bs)).LeavesRoom call ↔
      (∀ b ∈ others as bs c.principalId, overlap (c.renewed call.2) b ≤ MAX_OVERLAP_SECS) ∧
      ∀ t, c.validUntil ≤ t → t < c.renewedUntil call.2 →
        ((others as bs c.principalId).countP fun b => b.validFrom ≤ t ∧ t < b.validUntil) ≤ 1 := by
  have hroom : (∀ b ∈ others as bs c.principalId, overlap (c.renewed call.2) b ≤ MAX_OVERLAP_SECS) ↔
      ∀ b ∈ (mk (as ++ c :: bs)).live c.principalId, b.credentialId ≠ call.1 →
        overlap (c.renewed call.2) b ≤ MAX_OVERLAP_SECS := by
    rw [others_eq hids, hid]
    simp only [List.mem_filter, decide_eq_true_eq, and_imp]
  have hcount : ∀ t, ((others as bs c.principalId).countP fun b =>
      b.validFrom ≤ t ∧ t < b.validUntil) = ((mk (as ++ c :: bs)).live c.principalId).countP fun b =>
        b.credentialId ≠ call.1 ∧ b.validFrom ≤ t ∧ t < b.validUntil := by
    intro t
    rw [others_eq hids, hid, List.countP_filter]
    refine List.countP_congr fun b _ => ?_
    simp only [Bool.and_eq_true, decide_eq_true_eq]
    tauto
  simp only [hroom, hcount]
  constructor
  · intro h
    exact h c (by simp) hid hnative hactive
  · intro h d hd hid' _ _
    obtain rfl : d = c := eq_of_id hids hd (by simp) (hid'.trans hid.symm)
    exact h

/-- A lease is renewed from an instant at which it is open: only after its old end does it count
    anew. -/
theorem count_renewed (hactive : c.isActiveAt now = true) {n : Int → Nat}
    (h : ∀ t, n t + (if c.validFrom ≤ t ∧ t < c.validUntil then 1 else 0) ≤ 2) :
    (∀ t, n t + (if now ≤ t ∧ t < c.renewedUntil now then 1 else 0) ≤ 2) ↔
      ∀ t, c.validUntil ≤ t → t < c.renewedUntil now → n t ≤ 1 := by
  obtain ⟨-, hfrom, huntil⟩ := isActiveAt_iff.mp hactive
  constructor
  · intro h' t hold hnew
    have ht := h' t
    rw [if_pos ⟨by omega, hnew⟩] at ht
    omega
  · intro h' t
    have ht := h t
    split
    · next hopen =>
      by_cases hold : t < c.validUntil
      · rw [if_pos ⟨by omega, hold⟩] at ht
        exact ht
      · have hone := h' t (by omega) hopen.2
        omega
    · omega

theorem validate_renewed {set : AuthorizationSet} (hvalid : set.validate = .ok ())
    (call : String × Int) : (set.renewed call).validate = .ok () ↔ set.LeavesRoom call := by
  rw [validate_eq_with] at hvalid
  obtain ⟨hitems, hids, hprincipals⟩ := validateWith_ok.mp hvalid
  rcases set.renewed_cases call with ⟨hsame, hnone⟩ | ⟨as, c, bs, rfl, has, hid, hnative, hactive, hset⟩
  · rw [hsame, validate_eq_with]
    refine iff_of_true hvalid fun c hc hid hnative hactive => ?_
    refine absurd ⟨hnative, hactive⟩ (hnone c ?_)
    cases hfind : set.authorizations.find? (·.credentialId == call.1) with
    | none => exact absurd (beq_iff_eq.mpr hid) (List.find?_eq_none.mp hfind c hc)
    | some d =>
      have hid' : d.credentialId = call.1 := by simpa using List.find?_some hfind
      rw [eq_of_id hids (List.mem_of_find?_eq_some hfind) hc (hid'.trans hid.symm)]
  · have hlive := (isActiveAt_iff.mp hactive).1
    have hitems' : ∀ a ∈ as ++ c.renewed call.2 :: bs, a.validateItem = .ok () := by
      intro a ha
      rcases List.mem_append.mp ha with ha | ha
      · exact hitems a (List.mem_append_left _ ha)
      rcases List.mem_cons.mp ha with rfl | ha
      · exact validateItem_renewed (hitems c (by simp)) hnative hactive
      · exact hitems a (List.mem_append_right _ (List.mem_cons_of_mem _ ha))
    have hids' : ((as ++ c.renewed call.2 :: bs).map Authorization.credentialId).Nodup := by
      rw [List.map_append, List.map_cons] at hids ⊢
      exact hids
    obtain ⟨⟨-, hpairs⟩, hcount⟩ := (principal_middle hlive hitems).mp (hprincipals c.principalId)
    have hprincipal := principal_middle (c := c.renewed call.2) hlive hitems'
    rw [hset, validate_eq_with, validateWith_ok, leavesRoom_iff hids hid hnative hactive,
      ← count_renewed hactive hcount]
    constructor
    · rintro ⟨-, -, hall⟩
      obtain ⟨⟨hoverlaps, -⟩, hcount'⟩ := hprincipal.mp (hall c.principalId)
      exact ⟨hoverlaps, hcount'⟩
    · rintro ⟨hoverlaps, hcount'⟩
      refine ⟨hitems', hids', fun principal => ?_⟩
      by_cases hp : c.principalId = principal
      · subst hp
        exact hprincipal.mpr ⟨⟨hoverlaps, hpairs⟩, hcount'⟩
      · -- the rules of another principal see the same credentials
        have hsame := hprincipals principal
        unfold validatePrincipalWith at hsame ⊢
        rw [live_middle_ne hp] at hsame
        rw [live_middle_ne (c := c.renewed call.2) hp]
        exact hsame

end

/-! ### Sequences of calls -/

def OnlyWindow (credentialId : String) (set set' : AuthorizationSet) : Prop :=
  List.Forall₂ (fun a b => a = b ∨ a.credentialId = credentialId ∧
      b = { a with validFrom := b.validFrom, validUntil := b.validUntil })
    set.authorizations set'.authorizations

def ActiveIn (set : AuthorizationSet) (credentialId : String) (t : Int) : Prop :=
  ∃ a ∈ set.authorizations, a.credentialId = credentialId ∧ a.isActiveAt t = true

def stateAt (set : AuthorizationSet) (calls : List (String × Int)) (k : Nat) : AuthorizationSet :=
  (calls.take k).foldl renewed set

/-- Every set is valid, every call changes at most the window that it names, and what was active
    at a call and is not at a later one never is again. -/
structure Renews (set : AuthorizationSet) (calls : List (String × Int)) : Prop where
  valid : ∀ k, (set.stateAt calls k).validate = .ok ()
  window : ∀ (k : Nat) (call : String × Int), calls[k]? = some call →
    OnlyWindow call.1 (set.stateAt calls k) (set.stateAt calls (k + 1))
  gone : ∀ (i j : Nat) (first second : String × Int), calls[i]? = some first →
    calls[j]? = some second → i < j → ∀ credentialId,
    (set.stateAt calls i).ActiveIn credentialId first.2 →
    ¬ (set.stateAt calls j).ActiveIn credentialId second.2 →
    ∀ k, j ≤ k → ∀ t, second.2 ≤ t → ¬ (set.stateAt calls k).ActiveIn credentialId t

theorem stateAt_succ (set : AuthorizationSet) (calls : List (String × Int)) (k : Nat) :
    set.stateAt calls (k + 1) = match calls[k]? with
      | some call => (set.stateAt calls k).renewed call
      | none => set.stateAt calls k := by
  unfold stateAt
  rw [List.take_add_one, List.foldl_append]
  cases calls[k]? <;> rfl

theorem onlyWindow_renewed (set : AuthorizationSet) (call : String × Int) :
    OnlyWindow call.1 set (set.renewed call) := by
  have hrefl : ∀ l : List Authorization, List.Forall₂ (fun a b => a = b ∨ a.credentialId = call.1 ∧
      b = { a with validFrom := b.validFrom, validUntil := b.validUntil }) l l := fun l =>
    List.forall₂_same.mpr fun _ _ => .inl rfl
  unfold OnlyWindow
  rcases set.renewed_cases call with ⟨hsame, -⟩ | ⟨as, c, bs, rfl, -, hid, -, -, hset⟩
  · rw [hsame]
    exact hrefl _
  · rw [hset]
    exact List.rel_append (hrefl as) (.cons (.inr ⟨hid, rfl⟩) (hrefl bs))

theorem mem_renewed {set : AuthorizationSet} {call : String × Int}
    (h : a ∈ (set.renewed call).authorizations) :
    a ∈ set.authorizations ∨ ∃ c ∈ set.authorizations, a.credentialId = c.credentialId ∧
      c.isActiveAt call.2 = true ∧ a.validFrom = call.2 := by
  rcases set.renewed_cases call with ⟨hsame, -⟩ | ⟨as, c, bs, rfl, -, hid, -, hactive, hset⟩
  · exact .inl (hsame ▸ h)
  · rw [hset] at h
    rcases List.mem_append.mp h with h | h
    · exact .inl (List.mem_append_left _ h)
    rcases List.mem_cons.mp h with rfl | h
    · exact .inr ⟨c, by simp, rfl, hactive, rfl⟩
    · exact .inl (List.mem_append_right _ (List.mem_cons_of_mem _ h))

theorem ids_renewed (set : AuthorizationSet) (call : String × Int) :
    (set.renewed call).authorizations.map Authorization.credentialId =
      set.authorizations.map Authorization.credentialId := by
  rcases set.renewed_cases call with ⟨hsame, -⟩ | ⟨as, c, bs, rfl, -, -, -, -, hset⟩
  · rw [hsame]
  · rw [hset, List.map_append, List.map_append]
    rfl

/-! ### No resurrection -/

def Started (set : AuthorizationSet) (credentialId : String) (s : Int) : Prop :=
  ∀ a ∈ set.authorizations, a.credentialId = credentialId → a.validFrom ≤ s

def Gone (set : AuthorizationSet) (credentialId : String) (s : Int) : Prop :=
  ∀ t, s ≤ t → ¬ set.ActiveIn credentialId t

section
variable {set : AuthorizationSet} {credentialId : String} {s : Int}

theorem ActiveIn.started (h : set.ActiveIn credentialId s)
    (hids : (set.authorizations.map Authorization.credentialId).Nodup) :
    set.Started credentialId s := by
  obtain ⟨a, ha, hid, hactive⟩ := h
  intro b hb hid'
  rw [eq_of_id hids hb ha (hid'.trans hid.symm)]
  exact (isActiveAt_iff.mp hactive).2.1

variable {call : String × Int}

theorem Started.renewed (h : set.Started credentialId s) (hle : s ≤ call.2) :
    (set.renewed call).Started credentialId call.2 := by
  intro a ha hid
  rcases mem_renewed ha with hmem | ⟨-, -, -, -, hfrom⟩
  · exact (h a hmem hid).trans hle
  · exact hfrom.le

theorem Started.gone (h : set.Started credentialId s) (hnot : ¬ set.ActiveIn credentialId s) :
    set.Gone credentialId s := by
  rintro t hle ⟨a, ha, hid, hactive⟩
  obtain ⟨hlive, -, huntil⟩ := isActiveAt_iff.mp hactive
  exact hnot ⟨a, ha, hid, isActiveAt_iff.mpr ⟨hlive, h a ha hid, by omega⟩⟩

theorem Gone.renewed (h : set.Gone credentialId s) (hle : s ≤ call.2) :
    (set.renewed call).Gone credentialId s := by
  rintro t ht ⟨a, ha, hid, hactive⟩
  rcases mem_renewed ha with hmem | ⟨c, hc, hsame, hopen, -⟩
  · exact h t ht ⟨a, hmem, hid, hactive⟩
  · exact h call.2 hle ⟨c, hc, hsame ▸ hid, hopen⟩

end

section
variable {set : AuthorizationSet} {calls : List (String × Int)}

variable {k j i : Nat} {first : String × Int}

theorem stateAt_of_some {call : String × Int} (h : calls[k]? = some call) :
    set.stateAt calls (k + 1) = (set.stateAt calls k).renewed call := by
  rw [stateAt_succ, h]

theorem stateAt_invariant {inv : AuthorizationSet → Prop}
    (hstep : ∀ k call s, j ≤ k → calls[k]? = some call → inv s → inv (s.renewed call))
    (hj : inv (set.stateAt calls j)) (hk : j ≤ k) : inv (set.stateAt calls k) := by
  induction k, hk using Nat.le_induction with
  | base => exact hj
  | succ k hk ih =>
    rw [stateAt_succ]
    cases hcall : calls[k]? with
    | none => exact ih
    | some call => exact hstep k call _ hk hcall ih

theorem ids_stateAt (k : Nat) : (set.stateAt calls k).authorizations.map Authorization.credentialId =
    set.authorizations.map Authorization.credentialId :=
  stateAt_invariant (j := 0) (fun _ call s _ _ hs => (ids_renewed s call).trans hs) rfl
    (Nat.zero_le k)

theorem clock_le (hclock : calls.Pairwise fun c d => c.2 ≤ d.2) {second : String × Int}
    (hi : calls[i]? = some first) (hj : calls[j]? = some second) (hle : i ≤ j) :
    first.2 ≤ second.2 := by
  rcases Nat.eq_or_lt_of_le hle with rfl | hlt
  · rw [Option.some.inj (hi.symm.trans hj)]
  · obtain ⟨hi', rfl⟩ := List.getElem?_eq_some_iff.mp hi
    obtain ⟨hj', rfl⟩ := List.getElem?_eq_some_iff.mp hj
    exact List.pairwise_iff_getElem.mp hclock i j hi' hj' hlt

theorem started_stateAt (hids : (set.authorizations.map Authorization.credentialId).Nodup)
    (hclock : calls.Pairwise fun c d => c.2 ≤ d.2) {credentialId : String}
    (hi : calls[i]? = some first) (hactive : (set.stateAt calls i).ActiveIn credentialId first.2)
    (hij : i ≤ j) :
    ∀ second, calls[j]? = some second → (set.stateAt calls j).Started credentialId second.2 := by
  induction j, hij using Nat.le_induction with
  | base =>
    intro second hsecond
    rw [← Option.some.inj (hi.symm.trans hsecond)]
    refine hactive.started ?_
    rw [ids_stateAt]
    exact hids
  | succ j hij ih =>
    intro second hsecond
    obtain ⟨hlt, -⟩ := List.getElem?_eq_some_iff.mp hsecond
    have hj : calls[j]? = some calls[j] := List.getElem?_eq_getElem (by omega)
    rw [stateAt_of_some hj]
    have hstarted : ((set.stateAt calls j).renewed calls[j]).Started credentialId calls[j].2 :=
      (ih _ hj).renewed le_rfl
    exact fun a ha hid => (hstarted a ha hid).trans (clock_le hclock hj hsecond (Nat.le_succ j))

/-- **Renewals.**  Whatever the calls, only named windows change and nothing that has ended comes
    back; the set stays valid exactly if every call leaves room. -/
theorem renews_iff (hvalid : set.validate = .ok ())
    (hclock : calls.Pairwise fun c d => c.2 ≤ d.2) :
    set.Renews calls ↔ ∀ (k : Nat) (call : String × Int), calls[k]? = some call →
      (set.stateAt calls k).LeavesRoom call := by
  have hids := (validate_ok.mp hvalid).2.1
  constructor
  · intro h k call hcall
    have hnext := h.valid (k + 1)
    rw [stateAt_of_some hcall] at hnext
    exact (validate_renewed (h.valid k) call).mp hnext
  · intro h
    refine ⟨fun k => ?_, fun k call hcall => ?_, ?_⟩
    · induction k with
      | zero => exact hvalid
      | succ k ih =>
        rw [stateAt_succ]
        cases hcall : calls[k]? with
        | none => exact ih
        | some call => exact (validate_renewed ih call).mpr (h k call hcall)
    · rw [stateAt_of_some hcall]
      exact onlyWindow_renewed _ call
    · intro i j first second hi hj hij credentialId hactive hnot k hjk t ht
      have hgone := (started_stateAt hids hclock hi hactive hij.le second hj).gone hnot
      have hkeep : ∀ (m : Nat) (call : String × Int) (s : AuthorizationSet), j ≤ m →
          calls[m]? = some call → s.Gone credentialId second.2 →
          (s.renewed call).Gone credentialId second.2 := fun m call s hjm hcall hs =>
        hs.renewed (clock_le hclock hj hcall hjm)
      exact stateAt_invariant hkeep hgone hjk t ht

end

def sampleLease (credentialId : String) (validFrom : Int) : Authorization where
  principalId := "native_0123456789"
  credentialId := credentialId
  cls := .native
  validFrom := validFrom
  validUntil := validFrom + NATIVE_LEASE_SECS
  revoked := false
  vlessUuid := some "00000000-0000-4000-8000-000000000000"
  hysteria2Password := none

/-- Two leases that follow each other can both be renewed. -/
theorem renews_sampleLease : (mk [sampleLease "cred_0000001" 0, sampleLease "cred_0000002" 900]).Renews
    [("cred_0000001", 1700), ("cred_0000002", 2600)] := by
  refine (renews_iff (by decide +kernel) (by decide)).mpr fun k call hcall => ?_
  match k, hcall with
  | 0, hcall =>
    cases hcall
    exact (validate_renewed (by decide +kernel) _).mp (by decide +kernel)
  | 1, hcall =>
    cases hcall
    exact (validate_renewed (by decide +kernel) _).mp (by decide +kernel)
  | k + 2, hcall => cases hcall

/-- Three leases of one principal, never more than two of them open at once. -/
def sampleLeases : AuthorizationSet :=
  ⟨[sampleLease "cred_0000001" 0, sampleLease "cred_0000002" 900, sampleLease "cred_0000003" 1800]⟩

/-- The first lease is renewed until after the third one has started. -/
theorem renews_sampleLeases_fails :
    sampleLeases.validate = .ok () ∧
      (sampleLeases.renewNative "cred_0000001" 1700).1 = .ok () ∧
      (sampleLeases.renewNative "cred_0000001" 1700).2.validate ≠ .ok () ∧
      ¬ sampleLeases.Renews [("cred_0000001", 1700)] := by
  have hinvalid : (sampleLeases.renewNative "cred_0000001" 1700).2.validate ≠ .ok () := by
    decide +kernel
  exact ⟨by decide +kernel, by decide +kernel, hinvalid, fun h => hinvalid (h.valid 1)⟩

end AuthorizationSet

end SingboxVpn
