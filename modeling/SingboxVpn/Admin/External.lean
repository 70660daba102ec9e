import SingboxVpn.Lib.Owned
import SingboxVpn.Server.Entries

namespace SingboxVpn

open AuthorizationSet (live_append live_eq_nil)

/-!
# Reconciling external authorizations

The control plane hands a node the list of external authorizations that should be in force.
`reconcile` stores each as an account (`cred_` id, `ext_` name) and leaves every other account
alone.  The renderer later rebuilds the authorizations from the stored accounts and validates
them again, and the entries come from the account's grants.

* `reconcile`, `reconcile_ok` — the command and what it returns.
* `restored`, `projectUser_projected` — what the renderer reads back from a stored account.
-/

/-- The credentials that an agent passes to `vpn-admin`. -/
structure ExternalAuthorizationInput where
  authorizations : List Authorization
deriving DecidableEq, Repr

/-- The accounts that this reconciler owns. -/
def isExternal (user : CompatUser) : Bool :=
  Text.startsWith "cred_" user.id && Text.startsWith "ext_" user.name

def Authorization.lowerUuid (a : Authorization) : Option String :=
  a.vlessUuid.map Text.toAsciiLowercase

def keptRecord (users : List CompatUser) (auth : Authorization) : Option CompatUser :=
  users.find? fun u => u.id == auth.credentialId && isExternal u

/-- A new account, with a subscription token that nobody is told. -/
def freshExternal (tokenHash : String → String) (now : Int) (auth : Authorization) :
    CompatUser where
  id := auth.credentialId
  name := auth.principalId
  enabled := false
  vlessUuid := ""
  hysteria2Password := ""
  subscriptionTokenHashHex := tokenHash auth.credentialId
  createdAt := now
  expiresAt := none
  visionOffExperiment := false
  googleEgressHairpin := false
  exitPrincipal := false
  peerCredentials := []
  isReservedProbe := false
  credentials := []

def projected (tokenHash : String → String) (users : List CompatUser) (now : Int)
    (auth : Authorization) : CompatUser :=
  { (keptRecord users auth).getD (freshExternal tokenHash now auth) with
    name := auth.principalId
    enabled := !auth.revoked
    createdAt := auth.validFrom
    expiresAt := some auth.validUntil
    vlessUuid := auth.lowerUuid.getD ""
    hysteria2Password := auth.hysteria2Password.getD "" }

def nonExternal (users : List CompatUser) : List CompatUser := users.filter (!isExternal ·)

def desired (input : ExternalAuthorizationInput) : List Authorization :=
  input.authorizations.insertionSort fun a b => a.credentialId ≤ b.credentialId

/-- The new store, and whether it differs.  `tokenHash` stands for the random subscription
    tokens of new accounts. -/
def reconcile (tokenHash : String → String) (users : List CompatUser)
    (input : ExternalAuthorizationInput) (now : Int) :
    Except String (List CompatUser × Bool) := do
  let set : AuthorizationSet := ⟨input.authorizations⟩
  set.validate
  Check.refuseIf (set.authorizations.any (·.cls != .compatibility))
    "external sync accepts compatibility authorizations only"
  -- client ids are compared as they will be stored; a missing one collides with nothing
  Check.eachSeen
    (fun seen auth => Check.refuseIf
      (auth.lowerUuid.any fun uuid => seen.any (·.lowerUuid == some uuid))
      "external authorizations must have distinct VLESS UUIDs")
    [] set.authorizations
  let uuids := set.authorizations.filterMap Authorization.lowerUuid
  Check.refuseIf
    ((nonExternal users).any fun u => uuids.contains (Text.toAsciiLowercase u.vlessUuid))
    "an external VLESS UUID collides with a non-external user"
  let desiredIds := set.authorizations.map Authorization.credentialId
  Check.refuseIf ((nonExternal users).any fun u => desiredIds.contains u.id)
    "an external credential id collides with a non-external user"
  -- external accounts that the input does not name are dropped
  let next := nonExternal users ++ (desired input).map (projected tokenHash users now)
  .ok (next, decide (next ≠ users))

section Reconcile

variable {tokenHash : String → String} {users next : List CompatUser}
  {input : ExternalAuthorizationInput} {now : Int} {changed : Bool} {a : Authorization}

theorem reconcile_ok (h : reconcile tokenHash users input now = .ok (next, changed)) :
    (AuthorizationSet.mk input.authorizations).validate = .ok () ∧
      (∀ a ∈ input.authorizations, a.cls = .compatibility) ∧
      (∀ u ∈ nonExternal users, ∀ a ∈ input.authorizations, u.id ≠ a.credentialId) ∧
      next = nonExternal users ++ (desired input).map (projected tokenHash users now) := by
  simp only [reconcile, Check.bind_ok, Check.refuseIf_ok, List.any_eq_false, Except.ok.injEq,
    Prod.mk.injEq] at h
  obtain ⟨hvalid, hclass, -, -, hids, hnext, -⟩ := h
  refine ⟨hvalid, ?_, ?_, hnext.symm⟩
  · intro a ha
    simpa using hclass a ha
  · intro u hu a ha heq
    refine hids u hu (List.contains_iff_mem.mpr ?_)
    exact List.mem_map.mpr ⟨a, ha, heq.symm⟩

theorem mem_desired : a ∈ desired input ↔ a ∈ input.authorizations :=
  List.mem_insertionSort _

theorem desired_perm (input : ExternalAuthorizationInput) :
    (desired input).Perm input.authorizations :=
  List.perm_insertionSort _ _

/-! ### Reading a stored account back -/

/-- The authorization that the renderer rebuilds: a missing secret has become an empty one. -/
def restored (a : Authorization) : Authorization :=
  { a with
    vlessUuid := some (a.lowerUuid.getD "")
    hysteria2Password := some (a.hysteria2Password.getD "") }

variable {u : CompatUser} {t : Int} {doc : Json}

theorem keptRecord_some (h : keptRecord users a = some u) : u ∈ users ∧ u.id = a.credentialId := by
  refine ⟨List.mem_of_find?_eq_some h, ?_⟩
  have hfound := List.find?_some h
  simp only [Bool.and_eq_true, beq_iff_eq] at hfound
  exact hfound.1

theorem projected_id : (projected tokenHash users now a).id = a.credentialId := by
  show ((keptRecord users a).getD (freshExternal tokenHash now a)).id = a.credentialId
  cases hkept : keptRecord users a with
  | none => rfl
  | some u => exact (keptRecord_some hkept).2

@[simp] theorem projected_vlessUuid :
    (projected tokenHash users now a).vlessUuid = a.lowerUuid.getD "" := rfl

@[simp] theorem projected_hysteria2Password :
    (projected tokenHash users now a).hysteria2Password = a.hysteria2Password.getD "" := rfl

theorem projected_credentials {g : CredentialGrant}
    (h : g ∈ (projected tokenHash users now a).credentials) :
    ∃ u, keptRecord users a = some u ∧ g ∈ u.credentials := by
  change g ∈ ((keptRecord users a).getD (freshExternal tokenHash now a)).credentials at h
  cases hkept : keptRecord users a with
  | none =>
    rw [hkept] at h
    cases h
  | some u =>
    rw [hkept] at h
    exact ⟨u, rfl, h⟩

theorem ids_of_item (hitem : a.validateItem = .ok ()) (hcls : a.cls = .compatibility) :
    Text.startsWith "cred_" a.credentialId = true ∧
      Text.startsWith "ext_" a.principalId = true := by
  have hnames := Authorization.names_of_item hitem
  rw [hcls] at hnames
  exact hnames

theorem projectUser_projected (hitem : a.validateItem = .ok ()) (hcls : a.cls = .compatibility) :
    projectUser (projected tokenHash users now a) = restored a := by
  have hnative : Text.startsWith "native_" a.principalId = false :=
    Text.startsWith_false_of_prefix (ids_of_item hitem hcls).2 (by decide) (by decide)
  have hrevoked : (!(projected tokenHash users now a).enabled) = a.revoked := Bool.not_not _
  unfold projectUser restored
  rw [projected_id, hrevoked]
  show Authorization.mk a.principalId a.credentialId
    (if Text.startsWith "native_" a.principalId then .native else .compatibility) a.validFrom
    a.validUntil a.revoked _ _ = _
  rw [hnative, ← hcls]
  rfl

/-- What the stored form of a live authorization needs to pass the checks again. -/
def HasBothSecrets (a : Authorization) : Prop :=
  a.revoked = false → a.vlessUuid.isSome = true ∧ a.hysteria2Password.isSome = true

instance (a : Authorization) : Decidable (HasBothSecrets a) := inferInstanceAs (Decidable (_ → _))

/-- A live credential passes the checks again exactly when it carries both secrets: an empty
    text is neither a client id nor a password. -/
theorem restored_live_iff {lifetime : Int} (hlive : a.validateLive lifetime = .ok ()) :
    (restored a).validateLive lifetime = .ok () ↔
      a.vlessUuid.isSome = true ∧ a.hysteria2Password.isSome = true := by
  simp only [Authorization.validateLive, Check.bind_ok, Check.refuseIf_ok] at hlive ⊢
  obtain ⟨hpos, -, huuid, hpassword, hlimit⟩ := hlive
  constructor
  · rintro ⟨-, -, huuid', hpassword', -⟩
    constructor
    · cases hu : a.vlessUuid with
      | some s => rfl
      | none =>
        simp only [restored, Authorization.lowerUuid, hu] at huuid'
        exact absurd huuid' (by decide)
    · cases hp : a.hysteria2Password with
      | some s => rfl
      | none =>
        simp only [restored, hp] at hpassword'
        exact absurd hpassword' (by decide)
  · rintro ⟨hu, hp⟩
    obtain ⟨s, hs⟩ := Option.isSome_iff_exists.mp hu
    obtain ⟨t, ht⟩ := Option.isSome_iff_exists.mp hp
    rw [hs] at huuid
    rw [ht] at hpassword
    simp only [Option.any_some, Bool.not_eq_false'] at huuid hpassword
    refine ⟨hpos, rfl, ?_, ?_, hlimit⟩
    · simp [restored, Authorization.lowerUuid, hs, Authorization.validVlessUuid_lower huuid]
    · simp [restored, ht, hpassword]

theorem restored_item_iff (hitem : a.validateItem = .ok ()) :
    (restored a).validateItem = .ok () ↔ HasBothSecrets a := by
  simp only [Authorization.validateItem, Check.bind_ok] at hitem ⊢
  obtain ⟨hprincipal, hcred, hclass, hrange, hlive⟩ := hitem
  have hkept : ∀ P : Prop, (Authorization.validatePrincipalId (restored a).principalId = .ok () ∧
      Authorization.validateCredentialId (restored a).credentialId = .ok () ∧
      (restored a).validateClass = .ok () ∧
      Check.refuseIf ((restored a).validUntil - (restored a).validFrom < -(2 ^ 63) ||
        2 ^ 63 ≤ (restored a).validUntil - (restored a).validFrom)
        "invalid validity range" = .ok () ∧ P) ↔ P :=
    fun P => ⟨fun h => h.2.2.2.2, fun h => ⟨hprincipal, hcred, hclass, hrange, h⟩⟩
  rw [hkept]
  show (if a.revoked then .ok () else
    (restored a).validateLive (a.validUntil - a.validFrom)) = .ok () ↔ _
  unfold HasBothSecrets
  -- a revoked credential is not looked at any further
  cases hrevoked : a.revoked with
  | true => simp
  | false =>
    rw [hrevoked, if_neg Bool.false_ne_true] at hlive
    simp [restored_live_iff hlive]

/-! ### The new store -/

theorem isExternal_projected (hitem : a.validateItem = .ok ())
    (hcls : a.cls = .compatibility) :
    isExternal (projected tokenHash users now a) = true := by
  obtain ⟨hcred, hext⟩ := ids_of_item hitem hcls
  simp only [isExternal, projected_id, Bool.and_eq_true]
  exact ⟨hcred, hext⟩

def otherCredentials (users : List CompatUser) : List Authorization :=
  ((nonExternal users).filter fun user => Text.startsWith "cred_" user.id).map projectUser

theorem accepted_item (hrec : reconcile tokenHash users input now = .ok (next, changed))
    (ha : a ∈ input.authorizations) :
    a.validateItem = .ok () ∧ a.cls = .compatibility := by
  obtain ⟨hvalid, hclass, -, -⟩ := reconcile_ok hrec
  exact ⟨(AuthorizationSet.validate_ok.mp hvalid).1 a ha, hclass a ha⟩

theorem projectedSet_next (hrec : reconcile tokenHash users input now = .ok (next, changed)) :
    projectedSet next = ⟨otherCredentials users ++ (desired input).map restored⟩ := by
  obtain ⟨-, -, -, rfl⟩ := reconcile_ok hrec
  have hall : ((desired input).map (projected tokenHash users now)).filter
      (fun user => Text.startsWith "cred_" user.id) =
        (desired input).map (projected tokenHash users now) := by
    refine List.filter_eq_self.mpr fun u hu => ?_
    obtain ⟨a, ha, rfl⟩ := List.mem_map.mp hu
    obtain ⟨hitem, hcls⟩ := accepted_item hrec (mem_desired.mp ha)
    rw [projected_id]
    exact (ids_of_item hitem hcls).1
  simp only [projectedSet, List.filter_append, hall, List.map_append, List.map_map]
  congr 2
  refine List.map_congr_left fun a ha => ?_
  obtain ⟨hitem, hcls⟩ := accepted_item hrec (mem_desired.mp ha)
  exact projectUser_projected hitem hcls

theorem mem_otherCredentials {b : Authorization} (hb : b ∈ otherCredentials users) :
    ∃ u ∈ nonExternal users, b = projectUser u ∧ Text.startsWith "ext_" u.name = false := by
  obtain ⟨u, hu, rfl⟩ := List.mem_map.mp hb
  obtain ⟨hother, hcred⟩ := List.mem_filter.mp hu
  refine ⟨u, hother, rfl, ?_⟩
  have hnot := (List.mem_filter.mp hother).2
  simpa [isExternal, hcred] using hnot

theorem otherCredentials_sublist :
    (otherCredentials users).Sublist (projectedSet users).authorizations :=
  (List.filter_sublist.filter _).map _

/-- For a principal outside the reconciler's names, the old store has no other live
    credentials. -/
theorem live_other {principal : String} (hp : Text.startsWith "ext_" principal = false) :
    (AuthorizationSet.mk (otherCredentials users)).live principal =
      (projectedSet users).live principal := by
  simp only [AuthorizationSet.live, otherCredentials, nonExternal, projectedSet, List.filter_map,
    List.filter_filter]
  congr 1
  refine List.filter_congr fun u _ => ?_
  simp only [Function.comp, isExternal]
  by_cases hname : u.name = principal
  · rw [hname, hp]
    simp
  · have hne : ((projectUser u).principalId == principal) = false := by simpa [projectUser]
    rw [hne]
    simp

theorem live_restored (l : List Authorization) (principal : String) :
    ((AuthorizationSet.mk (l.map restored)).live principal).map AuthorizationSet.window =
      ((AuthorizationSet.mk l).live principal).map AuthorizationSet.window := by
  simp only [AuthorizationSet.live, List.filter_map, List.map_map]
  rfl

/-- The set rules hold of the new store: the names of the reconciler's principals and of the
    others are apart, and each side has passed them already. -/
theorem next_validateSet (hold : (projectedSet users).validate = .ok ())
    (hrec : reconcile tokenHash users input now = .ok (next, changed)) :
    (projectedSet next).validateSet = .ok () := by
  obtain ⟨hvalid, -, -, -⟩ := reconcile_ok hrec
  have holdSet := AuthorizationSet.validateSet_ok.mp (AuthorizationSet.validate_ok.mp hold).2.2
  have hinSet := AuthorizationSet.validateSet_ok.mp (AuthorizationSet.validate_ok.mp hvalid).2.2
  rw [projectedSet_next hrec, AuthorizationSet.validateSet_ok]
  intro principal
  rw [live_append, List.map_append, live_restored]
  -- a principal's live credentials lie on one side only
  by_cases hp : Text.startsWith "ext_" principal = true
  · have hnone : (AuthorizationSet.mk (otherCredentials users)).live principal = [] := by
      refine live_eq_nil fun b hb heq => ?_
      obtain ⟨u, -, rfl, hname⟩ := mem_otherCredentials hb
      rw [← heq] at hp
      exact Bool.false_ne_true (hname.symm.trans hp)
    rw [hnone, List.map_nil, List.nil_append]
    exact (hinSet principal).of_perm (((desired_perm input).symm.filter _).map _)
  · have hnone : (AuthorizationSet.mk (desired input)).live principal = [] := by
      refine live_eq_nil fun b hb heq => hp ?_
      obtain ⟨hitem, hcls⟩ := accepted_item hrec (mem_desired.mp hb)
      rw [← heq]
      exact (ids_of_item hitem hcls).2
    rw [hnone, List.map_nil, List.append_nil, live_other (Bool.eq_false_iff.mpr hp)]
    exact holdSet principal

theorem next_nodup (hold : (projectedSet users).validate = .ok ())
    (hrec : reconcile tokenHash users input now = .ok (next, changed)) :
    ((projectedSet next).authorizations.map Authorization.credentialId).Nodup := by
  obtain ⟨hvalid, -, hids, -⟩ := reconcile_ok hrec
  have holdNodup := (AuthorizationSet.validate_ok.mp hold).2.1
  have hinNodup := (AuthorizationSet.validate_ok.mp hvalid).2.1
  rw [projectedSet_next hrec, List.map_append, List.map_map]
  refine List.Nodup.append (holdNodup.sublist (otherCredentials_sublist.map _)) ?_ ?_
  · exact ((desired_perm input).map Authorization.credentialId).nodup_iff.mpr hinNodup
  -- the reconciler has refused ids of other accounts
  · intro id hother hnew
    obtain ⟨b, hb, rfl⟩ := List.mem_map.mp hother
    obtain ⟨u, hu, rfl, -⟩ := mem_otherCredentials hb
    obtain ⟨a, ha, heq⟩ := List.mem_map.mp hnew
    exact hids u hu a (mem_desired.mp ha) heq.symm

theorem next_valid_iff (hold : (projectedSet users).validate = .ok ())
    (hrec : reconcile tokenHash users input now = .ok (next, changed)) :
    (projectedSet next).validate = .ok () ↔ ∀ a ∈ input.authorizations, HasBothSecrets a := by
  rw [AuthorizationSet.validate_ok]
  constructor
  · rintro ⟨hitems, -, -⟩ a ha
    rw [projectedSet_next hrec] at hitems
    refine (restored_item_iff (accepted_item hrec ha).1).mp (hitems (restored a) ?_)
    exact List.mem_append_right _ (List.mem_map_of_mem (mem_desired.mpr ha))
  · intro hboth
    refine ⟨?_, next_nodup hold hrec, next_validateSet hold hrec⟩
    rw [projectedSet_next hrec]
    intro b hb
    rcases List.mem_append.mp hb with hb | hb
    · exact (AuthorizationSet.validate_ok.mp hold).1 b (otherCredentials_sublist.subset hb)
    · obtain ⟨a, ha, rfl⟩ := List.mem_map.mp hb
      have ha := mem_desired.mp ha
      exact (restored_item_iff (accepted_item hrec ha).1).mpr (hboth a ha)

/-! ### Entries -/

def activePairs (secret : Authorization → Option String) (input : ExternalAuthorizationInput)
    (t : Int) : List (String × String) :=
  ((AuthorizationSet.mk input.authorizations).activeAt t).filterMap fun a =>
    (secret a).map fun s => (a.credentialId, s)

def EntryIs (field : String) (entry : Json) (pair : String × String) : Prop :=
  entry.idx "name" = .str pair.1 ∧ entry.idx field = .str pair.2

def ListsExactly (doc : Json) (tag field : String) (others : List Json)
    (pairs : List (String × String)) : Prop :=
  ∃ own listed, inboundEntries doc tag = others ++ own ∧ List.Forall₂ (EntryIs field) own listed ∧
    listed.Perm pairs

/-- The document is the projection of the authorizations at an instant: the entries for the
    external accounts are those in force. -/
def ProjectsAt (input : ExternalAuthorizationInput) (next : List CompatUser) (t : Int)
    (doc : Json) : Prop :=
  ListsExactly doc REALITY_INBOUND "uuid" ((authorizedGrants (nonExternal next) t).map vlessUser)
      (activePairs Authorization.lowerUuid input t) ∧
    ListsExactly doc "hysteria2-in" "password"
      ((authorizedGrants (nonExternal next) t).map hysteriaUser)
      (activePairs Authorization.hysteria2Password input t)

theorem authorizedGrants_append (us vs : List CompatUser) (t : Int) :
    authorizedGrants (us ++ vs) t = authorizedGrants us t ++ authorizedGrants vs t := by
  simp [authorizedGrants]

theorem isExternal_of_reconcile
    (hrec : reconcile tokenHash users input now = .ok (next, changed)) :
    ∀ u ∈ (desired input).map (projected tokenHash users now), isExternal u = true := by
  intro u hu
  obtain ⟨a, ha, rfl⟩ := List.mem_map.mp hu
  obtain ⟨hitem, hcls⟩ := accepted_item hrec (mem_desired.mp ha)
  exact isExternal_projected hitem hcls

theorem nonExternal_next (hrec : reconcile tokenHash users input now = .ok (next, changed)) :
    nonExternal next = nonExternal users := by
  have howned := isExternal_of_reconcile hrec
  obtain ⟨-, -, -, rfl⟩ := reconcile_ok hrec
  exact Owned.filter_other_replace howned

theorem grants_next (hrec : reconcile tokenHash users input now = .ok (next, changed)) (t : Int) :
    authorizedGrants next t = authorizedGrants (nonExternal next) t ++
      authorizedGrants ((desired input).map (projected tokenHash users now)) t := by
  rw [nonExternal_next hrec, ← authorizedGrants_append, ← (reconcile_ok hrec).2.2.2]

theorem isActive_projected (hitem : a.validateItem = .ok ()) (hcls : a.cls = .compatibility)
    (t : Int) : (projected tokenHash users now a).isActive t = a.isActiveAt t := by
  unfold CompatUser.isActive
  rw [projected_id, (ids_of_item hitem hcls).1]
  rfl

theorem mem_grants_projected {ug : CompatUser × CredentialGrant}
    (h : ug ∈ authorizedGrants ((desired input).map (projected tokenHash users now)) t) :
    ∃ a ∈ input.authorizations, ug.2 ∈ (projected tokenHash users now a).authorizedGrants t := by
  obtain ⟨hmem, -, hg⟩ := mem_authorizedGrants_iff.mp h
  obtain ⟨a, ha, heq⟩ := List.mem_map.mp hmem
  rw [← heq] at hg
  exact ⟨a, mem_desired.mp ha, hg⟩

/-! ### When the projection is exact -/

/-- What the reconciler does not check: each live authorization carries both secrets, its
    window lies in the times at which an account without stored grants has one in force, and
    the record kept for it has no stored grant. -/
def ReconcileSafe (users : List CompatUser) (input : ExternalAuthorizationInput) : Prop :=
  ∀ a ∈ input.authorizations, a.revoked = false →
    a.vlessUuid.isSome = true ∧ a.hysteria2Password.isSome = true ∧
      -VALID_FROM_SKEW_GRACE_SECS ≤ a.validFrom ∧
      a.validUntil - 1 + VALID_FROM_SKEW_GRACE_SECS ≤ I64_MAX ∧
      ∀ u ∈ keptRecord users a, u.credentials = []

theorem live_of_active (h : a.isActiveAt t = true) :
    a.revoked = false ∧ a.validFrom ≤ t ∧ t < a.validUntil := by
  simpa [Authorization.isActiveAt, and_assoc] using h

theorem authorizedGrants_projected
    (hrec : reconcile tokenHash users input now = .ok (next, changed))
    (hsafe : ReconcileSafe users input) (ha : a ∈ input.authorizations)
    (hactive : a.isActiveAt t = true) :
    (projected tokenHash users now a).authorizedGrants t =
      [(projected tokenHash users now a).legacyGrant] := by
  obtain ⟨hlive, hfrom, huntil⟩ := live_of_active hactive
  obtain ⟨-, -, hlow, hhigh, hkept⟩ := hsafe a ha hlive
  obtain ⟨hitem, hcls⟩ := accepted_item hrec ha
  have hnone : (projected tokenHash users now a).credentials = [] := by
    refine List.eq_nil_iff_forall_not_mem.mpr fun g hg => ?_
    obtain ⟨u, hu, hgu⟩ := projected_credentials hg
    rw [hkept u hu] at hgu
    cases hgu
  -- no stored grant, active, and at a time of the account's own grant
  refine CompatUser.authorizedGrants_legacy hnone ?_ ?_
  · rw [isActive_projected hitem hcls]
    exact hactive
  · exact ⟨by omega, by omega⟩

theorem grants_projected (hrec : reconcile tokenHash users input now = .ok (next, changed))
    (hsafe : ReconcileSafe users input) (t : Int) {l : List Authorization}
    (hsub : ∀ a ∈ l, a ∈ input.authorizations) :
    authorizedGrants (l.map (projected tokenHash users now)) t =
      (l.filter (·.isActiveAt t)).map fun a =>
        (projected tokenHash users now a, (projected tokenHash users now a).legacyGrant) := by
  -- account by account
  induction l with
  | nil => rfl
  | cons a l ih =>
    obtain ⟨ha, hl⟩ := List.forall_mem_cons.mp hsub
    obtain ⟨hitem, hcls⟩ := accepted_item hrec ha
    have hactive : (projected tokenHash users now a).isActive t = a.isActiveAt t :=
      isActive_projected hitem hcls t
    rw [List.map_cons, ← List.singleton_append, authorizedGrants_append, ih hl]
    by_cases h : a.isActiveAt t = true
    · simp [authorizedGrants, hactive, h, authorizedGrants_projected hrec hsafe ha h]
    · simp [authorizedGrants, hactive, h]

theorem listsExactly_of_safe {tag field : String} {entry : CompatUser × CredentialGrant → Json}
    {secret : Authorization → Option String}
    (hrec : reconcile tokenHash users input now = .ok (next, changed))
    (hsafe : ReconcileSafe users input)
    (hentries : inboundEntries doc tag = (authorizedGrants next t).map entry)
    (hentry : ∀ a, EntryIs field (entry (projected tokenHash users now a,
      (projected tokenHash users now a).legacyGrant)) (a.credentialId, (secret a).getD ""))
    (hsecret : ∀ a ∈ input.authorizations, a.revoked = false → (secret a).isSome = true) :
    ListsExactly doc tag field ((authorizedGrants (nonExternal next) t).map entry)
      (activePairs secret input t) := by
  refine ⟨((desired input).filter (·.isActiveAt t)).map fun a =>
      entry (projected tokenHash users now a, (projected tokenHash users now a).legacyGrant),
    ((desired input).filter (·.isActiveAt t)).map fun a => (a.credentialId, (secret a).getD ""),
    ?_, ?_, ?_⟩
  · rw [hentries, grants_next hrec, List.map_append,
      grants_projected hrec hsafe t fun a ha => mem_desired.mp ha, List.map_map]
    rfl
  · rw [List.forall₂_map_left_iff, List.forall₂_map_right_iff]
    exact List.forall₂_same.mpr fun a _ => hentry a
  · -- every authorization in force has the secret, so none is filtered out
    have hmap : ((desired input).filter (·.isActiveAt t)).map
        (fun a => (a.credentialId, (secret a).getD "")) =
          ((desired input).filter (·.isActiveAt t)).filterMap
            fun a => (secret a).map fun s => (a.credentialId, s) := by
      rw [← List.filterMap_eq_map]
      refine List.filterMap_congr fun a ha => ?_
      obtain ⟨hmem, hactive⟩ := List.mem_filter.mp ha
      obtain ⟨s, hs⟩ := Option.isSome_iff_exists.mp
        (hsecret a (mem_desired.mp hmem) (live_of_active hactive).1)
      simp [hs]
    rw [hmap]
    refine List.Perm.filterMap _ (((desired_perm input).filter _).trans ?_)
    exact (List.perm_insertionSort _ _).symm

/-! ### The projection, from either side -/

/-- The new store renders at every time, as the projection of the authorizations. -/
def Projects (ext : External) (d : DeploymentConfig) (reality : RealityServerParams)
    (hysteria : Hysteria2ServerParams) (input : ExternalAuthorizationInput)
    (next : List CompatUser) : Prop :=
  ∀ t, IsI64 t → ∃ doc,
    renderServerConfigForDeployment ext d next reality hysteria t = .ok doc ∧
      ProjectsAt input next t doc

/-- No stored grant takes a credential id as its principal; minted principals never do. -/
def GrantsKeepOffCredentials (users : List CompatUser) : Prop :=
  ∀ u ∈ users, ∀ g ∈ u.credentials, Text.startsWith "cred_" g.principalId = false

variable {ext : External} {d : DeploymentConfig} {reality : RealityServerParams}
  {hysteria : Hysteria2ServerParams}

theorem projects_of_safe (hd : d.validate ext = .ok ())
    (hold : (projectedSet users).validate = .ok ())
    (hrec : reconcile tokenHash users input now = .ok (next, changed))
    (hsafe : ReconcileSafe users input) : Projects ext d reality hysteria input next := by
  intro t _
  have hboth : ∀ a ∈ input.authorizations, HasBothSecrets a := fun a ha hlive =>
    ⟨(hsafe a ha hlive).1, (hsafe a ha hlive).2.1⟩
  obtain ⟨doc, hdoc⟩ : ∃ doc,
      renderServerConfigForDeployment ext d next reality hysteria t = .ok doc :=
    render_ok_iff.mpr ⟨hd, (next_valid_iff hold hrec).mpr hboth⟩
  refine ⟨doc, hdoc, ?_, ?_⟩
  · refine listsExactly_of_safe hrec hsafe (vlessEntries_rendered hdoc) ?_ ?_
    · intro a
      simp [EntryIs, vlessUser, Json.idx_object, Json.lookup_cons_ite, CompatUser.legacyGrant,
        projected_id]
    · intro a ha hlive
      simpa [Authorization.lowerUuid] using (hboth a ha hlive).1
  · refine listsExactly_of_safe hrec hsafe (hysteriaEntries_rendered hdoc) ?_ ?_
    · intro a
      simp [EntryIs, hysteriaUser, Json.idx_object, Json.lookup_cons_ite, CompatUser.legacyGrant,
        projected_id]
    · exact fun a ha hlive => (hboth a ha hlive).2

theorem legacyTime_of_authorized (ht : IsI64 t) (h : grantIsAuthorized u.legacyGrant t = true) :
    CompatUser.LegacyTime t := by
  obtain ⟨hlow, hhigh⟩ := ht
  simp only [grantIsAuthorized, Bool.and_eq_true, decide_eq_true_eq] at h
  have hfrom : 0 ≤ wrap64 (t + VALID_FROM_SKEW_GRACE_SECS) := h.1.2
  unfold CompatUser.LegacyTime
  unfold VALID_FROM_SKEW_GRACE_SECS at hfrom ⊢
  by_cases hmax : t + 30 ≤ I64_MAX
  · rw [wrap64_of_mem (by omega) hmax] at hfrom
    exact ⟨by omega, hmax⟩
  · -- past the largest integer the sum wraps around to a negative one
    exfalso
    unfold I64_MAX at hhigh hmax
    unfold wrap64 at hfrom
    rw [Int.bmod_def] at hfrom
    split at hfrom <;> omega

theorem exists_of_forall₂_right {α β : Type} {r : α → β → Prop} {l : List α} {l' : List β} {b : β}
    (h : List.Forall₂ r l l') (hb : b ∈ l') : ∃ a ∈ l, r a b := by
  induction h with
  | nil => cases hb
  | cons hab _ ih =>
    rcases List.mem_cons.mp hb with rfl | hb
    · exact ⟨_, List.mem_cons_self, hab⟩
    · obtain ⟨a, ha, hab⟩ := ih hb
      exact ⟨a, List.mem_cons_of_mem _ ha, hab⟩

/-- If the document at some instant is the projection, then an authorization in force has the
    account's own secrets in force, and no stored grant. -/
theorem legacy_in_force (hrec : reconcile tokenHash users input now = .ok (next, changed))
    (hkeep : GrantsKeepOffCredentials users)
    (hdoc : renderServerConfigForDeployment ext d next reality hysteria t = .ok doc)
    (hproj : ProjectsAt input next t doc) (ha : a ∈ input.authorizations)
    (hactive : a.isActiveAt t = true) (huuid : a.vlessUuid.isSome = true) :
    (projected tokenHash users now a).credentials = [] ∧
      grantIsAuthorized (projected tokenHash users now a).legacyGrant t = true := by
  obtain ⟨⟨own, listed, hown, hforall, hperm⟩, -⟩ := hproj
  have hown' : own = (authorizedGrants
      ((desired input).map (projected tokenHash users now)) t).map vlessUser := by
    rw [vlessEntries_rendered hdoc, grants_next hrec, List.map_append] at hown
    exact (List.append_cancel_left hown).symm
  obtain ⟨s, hs⟩ := Option.isSome_iff_exists.mp huuid
  have hpair : (a.credentialId, Text.toAsciiLowercase s) ∈ listed := by
    refine hperm.mem_iff.mpr (List.mem_filterMap.mpr ⟨a, ?_, ?_⟩)
    · exact AuthorizationSet.mem_activeAt.mpr ⟨ha, hactive⟩
    · simp [Authorization.lowerUuid, hs]
  obtain ⟨entry, hentry, hname, -⟩ := exists_of_forall₂_right hforall hpair
  rw [hown'] at hentry
  obtain ⟨ug, hug, rfl⟩ := List.mem_map.mp hentry
  obtain ⟨b, hb, hg⟩ := mem_grants_projected hug
  have hprincipal : ug.2.principalId = a.credentialId := by
    simpa [vlessUser, Json.idx_object, Json.lookup_cons_ite] using hname
  obtain ⟨hmem, hauth⟩ := List.mem_filter.mp hg
  obtain ⟨hitem, hcls⟩ := accepted_item hrec ha
  unfold CompatUser.effectiveGrants at hmem
  split at hmem
  · -- a stored grant has no credential id for a principal
    obtain ⟨u, hu, hgu⟩ := projected_credentials hmem
    have hoff := hkeep u (keptRecord_some hu).1 ug.2 hgu
    rw [hprincipal, (ids_of_item hitem hcls).1] at hoff
    cases hoff
  · next hempty =>
    rw [List.mem_singleton.mp hmem] at hprincipal hauth
    have hid : b.credentialId = a.credentialId := projected_id.symm.trans hprincipal
    have hab : b = a := List.inj_on_of_nodup_map
      (AuthorizationSet.validate_ok.mp (reconcile_ok hrec).1).2.1 hb ha hid
    rw [hab] at hempty hauth
    exact ⟨by simpa using hempty, hauth⟩

theorem window_of_item (hitem : a.validateItem = .ok ()) (hlive : a.revoked = false) :
    a.validFrom < a.validUntil := by
  simp only [Authorization.validateItem, Check.bind_ok, hlive, Bool.false_eq_true, if_false,
    Authorization.validateLive, Check.refuseIf_ok, decide_eq_false_iff_not] at hitem
  obtain ⟨-, -, -, -, hpos, -⟩ := hitem
  omega

theorem safe_of_projects (hold : (projectedSet users).validate = .ok ())
    (hrec : reconcile tokenHash users input now = .ok (next, changed))
    (hrange : ∀ a ∈ input.authorizations, IsI64 a.validFrom ∧ IsI64 a.validUntil)
    (hkeep : GrantsKeepOffCredentials users) (h : Projects ext d reality hysteria input next) :
    ReconcileSafe users input := by
  intro a ha hlive
  have hboth : HasBothSecrets a := by
    obtain ⟨doc, hdoc, -⟩ := h 0 (by decide)
    exact (next_valid_iff hold hrec).mp (render_checks hdoc).2 a ha
  obtain ⟨huuid, hpassword⟩ := hboth hlive
  obtain ⟨⟨hfromLow, hfromHigh⟩, huntilLow, huntilHigh⟩ := hrange a ha
  have hwindow := window_of_item (accepted_item hrec ha).1 hlive
  have hforce : ∀ t, IsI64 t → a.validFrom ≤ t → t < a.validUntil →
      (projected tokenHash users now a).credentials = [] ∧ CompatUser.LegacyTime t := by
    intro t ht hfrom huntil
    obtain ⟨doc, hdoc, hproj⟩ := h t ht
    have hactive : a.isActiveAt t = true := by
      simp [Authorization.isActiveAt, hlive, hfrom, huntil]
    obtain ⟨hnone, hauth⟩ := legacy_in_force hrec hkeep hdoc hproj ha hactive huuid
    exact ⟨hnone, legacyTime_of_authorized ht hauth⟩
  -- the first and the last second of the window
  obtain ⟨hnone, hfirst, -⟩ := hforce a.validFrom ⟨hfromLow, hfromHigh⟩ le_rfl hwindow
  obtain ⟨-, -, hlast⟩ := hforce (a.validUntil - 1) ⟨by omega, by omega⟩ (by omega) (by omega)
  refine ⟨huuid, hpassword, hfirst, hlast, ?_⟩
  intro u hu
  change ((keptRecord users a).getD (freshExternal tokenHash now a)).credentials = [] at hnone
  rw [Option.mem_def.mp hu] at hnone
  exact hnone

/-- An accepted input leaves a store that renders, at every time, as the projection of the
    authorizations, if each live one carries both secrets, its window lies in the times of the
    account's own grant, and its record has no stored grant.  Unless a stored grant goes by a
    credential id, only then. -/
theorem reconcile_projects_iff
    (hrenders : ∀ t, IsI64 t → ∃ doc,
      renderServerConfigForDeployment ext d users reality hysteria t = .ok doc)
    (hrec : reconcile tokenHash users input now = .ok (next, changed))
    (hrange : ∀ a ∈ input.authorizations, IsI64 a.validFrom ∧ IsI64 a.validUntil) :
    (ReconcileSafe users input → Projects ext d reality hysteria input next) ∧
      (GrantsKeepOffCredentials users → Projects ext d reality hysteria input next →
        ReconcileSafe users input) := by
  obtain ⟨hd, hold⟩ := render_ok_iff.mp (hrenders 0 (by decide))
  exact ⟨projects_of_safe hd hold hrec, safe_of_projects hold hrec hrange⟩

end Reconcile

/-! ### One authorization -/

/-- A day's authorization with both secrets, or with the client id alone. -/
def sampleAuthorization (password : Option String) : Authorization where
  principalId := "ext_principal001"
  credentialId := "cred_aaaa0001"
  cls := .compatibility
  validFrom := 0
  validUntil := 86400
  revoked := false
  vlessUuid := some "00000000-0000-4000-8000-00000000000A"
  hysteria2Password := password

/-- The store that the input leaves beside one account of the operator's. -/
def sampleReconciled (password : Option String) : List CompatUser :=
  [sampleUser, projected (fun _ => "hash") [sampleUser] 0 (sampleAuthorization password)]

/-- An authorization with both secrets is projected. -/
theorem reconcile_projects_iff_both :
    Projects sampleExternal sampleExit sampleReality sampleHysteria
      ⟨[sampleAuthorization (some "0123456789abcdef")]⟩
      (sampleReconciled (some "0123456789abcdef")) := by
  have hrec : reconcile (fun _ => "hash") [sampleUser]
      ⟨[sampleAuthorization (some "0123456789abcdef")]⟩ 0 =
        .ok (sampleReconciled (some "0123456789abcdef"), true) := rfl
  refine (reconcile_projects_iff (fun t _ => sampleExit_renders _ _ t rfl) hrec ?_).1 ?_
  · intro a ha
    rw [List.mem_singleton.mp ha]
    decide
  · intro a ha _
    rw [List.mem_singleton.mp ha]
    refine ⟨rfl, rfl, by decide, by decide, ?_⟩
    intro u hu
    cases hu

/-- An authorization without a password is accepted, and from then on nothing renders. -/
theorem accepted_input_blocks_rendering :
    reconcile (fun _ => "hash") [sampleUser] ⟨[sampleAuthorization none]⟩ 0 =
        .ok (sampleReconciled none, true) ∧
      (∀ t, ∃ doc, renderServerConfigForDeployment sampleExternal sampleExit [sampleUser]
        sampleReality sampleHysteria t = .ok doc) ∧
      (∀ t doc, renderServerConfigForDeployment sampleExternal sampleExit (sampleReconciled none)
        sampleReality sampleHysteria t ≠ .ok doc) ∧
      ¬ Projects sampleExternal sampleExit sampleReality sampleHysteria
        ⟨[sampleAuthorization none]⟩ (sampleReconciled none) := by
  have hrec : reconcile (fun _ => "hash") [sampleUser] ⟨[sampleAuthorization none]⟩ 0 =
      .ok (sampleReconciled none, true) := rfl
  have hblocked : ∀ t doc, renderServerConfigForDeployment sampleExternal sampleExit
      (sampleReconciled none) sampleReality sampleHysteria t ≠ .ok doc := by
    intro t doc hdoc
    have hboth := (next_valid_iff rfl hrec).mp (render_checks hdoc).2 (sampleAuthorization none)
      List.mem_cons_self
    revert hboth
    decide
  refine ⟨hrec, fun t => sampleExit_renders _ _ t rfl, hblocked, ?_⟩
  intro h
  obtain ⟨doc, hdoc, -⟩ := h 0 (by decide)
  exact hblocked 0 doc hdoc

end SingboxVpn
