import SingboxVpn.Admin.Users
import SingboxVpn.Server.Entries

namespace SingboxVpn

open AuthorizationSet (WindowsOk window)
open Authorization (lifetimeLimit)

/-!
# Moving an account's expiry

`user set-expiry` renders the new store only when the account starts or stops being active.
The document does not change otherwise, but the checks that the renderer makes on the way do
read the expiry of every account that stands for a credential.

* `ExpiryFits`, `valid_of_expiry_iff` — when the store with the new expiry passes the checks.
-/

def Renders (env : Env) (users : Store) (t : Int) (doc : Json) : Prop :=
  ∃ reality, env.reality = .ok reality ∧
    renderServerConfigForDeployment env.ext env.cfg users reality env.hysteria t = .ok doc

/-- The account is active in both stores or in neither, and then the command saves only. -/
def ActivityKept (env : Env) (id : String) (users next : Store) : Prop :=
  (users.find? (·.id == id)).map (·.isActive env.now) =
    (next.find? (·.id == id)).map (·.isActive env.now)

instance (env : Env) (id : String) (users next : Store) :
    Decidable (ActivityKept env id users next) :=
  inferInstanceAs (Decidable (_ = _))

def CompatUser.withExpiry (u : CompatUser) (expiresAt : Option Int) : CompatUser :=
  { u with expiresAt := expiresAt }

/-- The end of the window that the renderer reads from an account with this expiry. -/
def expiryEnd (expiresAt : Option Int) : Int := expiresAt.getD I64_MAX

def otherWindows (users : Store) (u : CompatUser) : List (Int × Int) :=
  ((projectedSet (users.eraseP (·.id == u.id))).live u.name).map window

/-- The expiry suits the account.  Of accounts that stand for no credential the checks read
    nothing; a disabled credential only needs a length that is a machine integer, an enabled
    one a length within its class and a window that goes with those beside it. -/
def ExpiryFits (users : Store) (u : CompatUser) (expiresAt : Option Int) : Prop :=
  Text.startsWith "cred_" u.id = true →
    (-(2 ^ 63) ≤ expiryEnd expiresAt - u.createdAt ∧ expiryEnd expiresAt - u.createdAt < 2 ^ 63) ∧
      (u.enabled = true →
        (0 < expiryEnd expiresAt - u.createdAt ∧
          expiryEnd expiresAt - u.createdAt ≤ lifetimeLimit (projectUser u).cls) ∧
        WindowsOk ((u.createdAt, expiryEnd expiresAt) :: otherWindows users u))

section Expiry

variable {env : Env} {users users' before after : Store} {u : CompatUser} {id : String}
  {expiresAt : Option Int} {t : Int}

/-! ### The document -/

/-- At a machine time, the grant that an active account stands for is in force whatever its
    expiry is. -/
theorem legacyGrant_authorized_iff (ht : IsI64 t) (hu : u.isActive t = true) :
    grantIsAuthorized u.legacyGrant t =
      decide ((0 : Int) ≤ wrap64 (t + VALID_FROM_SKEW_GRACE_SECS)) := by
  show (true && decide ((0 : Int) ≤ wrap64 (t + VALID_FROM_SKEW_GRACE_SECS)) &&
    decide (t < u.expiresAt.getD I64_MAX)) = _
  cases hexp : u.expiresAt with
  | some e =>
    simp only [CompatUser.isActive, hexp, Option.map_some, Option.getD_some, Bool.and_eq_true] at hu
    simp [hu.2]
  | none =>
    -- the largest machine time is not before the end, but there the start fails already
    by_cases hmax : t = I64_MAX
    · rw [hmax]
      decide
    · have hlt : t < I64_MAX := by
        have := ht.2
        omega
      simp [hlt]

theorem sameAt_of_expiry (ht : IsI64 t)
    (hactive : (u.withExpiry expiresAt).isActive t = u.isActive t) :
    SameAt t u (u.withExpiry expiresAt) := by
  refine ⟨hactive, ?_, rfl, rfl, rfl, rfl⟩
  intro hon
  have hauth := legacyGrant_authorized_iff ht hon
  have hauth' := legacyGrant_authorized_iff ht (hactive.trans hon)
  have hcredentials : (u.withExpiry expiresAt).credentials = u.credentials := rfl
  unfold CompatUser.authorizedGrants CompatUser.effectiveGrants
  rw [hcredentials]
  split
  · rfl
  · simp only [List.filter_cons, List.filter_nil, hauth, hauth']
    split <;> rfl

/-! ### The checks -/

theorem item_of_expiry_iff (hitem : (projectUser u).validateItem = .ok ()) :
    (projectUser (u.withExpiry expiresAt)).validateItem = .ok () ↔
      (-(2 ^ 63) ≤ expiryEnd expiresAt - u.createdAt ∧ expiryEnd expiresAt - u.createdAt < 2 ^ 63) ∧
        (u.enabled = true → 0 < expiryEnd expiresAt - u.createdAt ∧
          expiryEnd expiresAt - u.createdAt ≤ lifetimeLimit (projectUser u).cls) := by
  obtain ⟨hnames, -, hlive⟩ := Authorization.validateItem_ok.mp hitem
  -- names and secrets are those of the account as it was
  have hnames' : (projectUser (u.withExpiry expiresAt)).Identifiable := hnames
  rw [Authorization.validateItem_ok]
  constructor
  · rintro ⟨-, hrange, hlive'⟩
    refine ⟨hrange, fun hon => ?_⟩
    obtain ⟨hpos, -, hlimit⟩ := hlive' (show (!u.enabled) = false by rw [hon]; rfl)
    exact ⟨hpos, hlimit⟩
  · rintro ⟨hrange, hon⟩
    refine ⟨hnames', hrange, fun hrevoked => ?_⟩
    have henabled : u.enabled = true := by
      have : (!u.enabled) = false := hrevoked
      simpa using this
    obtain ⟨hpos, hlimit⟩ := hon henabled
    exact ⟨hpos, (hlive hrevoked).2.1, hlimit⟩

theorem projectedSet_skip (hcred : ¬ Text.startsWith "cred_" u.id = true) :
    projectedSet (before ++ u :: after) = projectedSet (before ++ after) := by
  simp [projectedSet, hcred]

theorem projectedSet_split (hcred : Text.startsWith "cred_" u.id = true) :
    projectedSet (before ++ u :: after) =
      ⟨(projectedSet before).authorizations ++ projectUser u ::
        (projectedSet after).authorizations⟩ := by
  simp [projectedSet, hcred]

theorem projectedSet_append (us vs : Store) :
    projectedSet (us ++ vs) =
      ⟨(projectedSet us).authorizations ++ (projectedSet vs).authorizations⟩ := by
  simp [projectedSet]

theorem live_split (principal : String) (l l' : List Authorization) (a : Authorization) :
    ((AuthorizationSet.mk (l ++ a :: l')).live principal).Perm
      ((AuthorizationSet.mk [a]).live principal ++
        (AuthorizationSet.mk (l ++ l')).live principal) := by
  unfold AuthorizationSet.live
  simp only [List.filter_append, List.filter_cons, List.filter_nil]
  split
  · exact List.perm_middle
  · exact List.Perm.refl _

theorem eraseP_split (hfirst : ∀ v ∈ before, v.id ≠ u.id) :
    (before ++ u :: after).eraseP (·.id == u.id) = before ++ after := by
  rw [List.eraseP_append_right _ fun v hv => by simpa using hfirst v hv, List.eraseP_cons_of_pos]
  exact beq_self_eq_true u.id

theorem windows_withExpiry (hcred : Text.startsWith "cred_" u.id = true)
    (hfirst : ∀ v ∈ before, v.id ≠ u.id) (hon : u.enabled = true) :
    (((projectedSet (before ++ u.withExpiry expiresAt :: after)).live u.name).map window).Perm
      ((u.createdAt, expiryEnd expiresAt) :: otherWindows (before ++ u :: after) u) := by
  have hcred' : Text.startsWith "cred_" (u.withExpiry expiresAt).id = true := hcred
  have hown : (AuthorizationSet.mk [projectUser (u.withExpiry expiresAt)]).live u.name =
      [projectUser (u.withExpiry expiresAt)] := by
    have hname : (projectUser (u.withExpiry expiresAt)).principalId = u.name := rfl
    have hrevoked : (projectUser (u.withExpiry expiresAt)).revoked = !u.enabled := rfl
    simp [AuthorizationSet.live, hname, hrevoked, hon]
  rw [otherWindows, eraseP_split hfirst, projectedSet_split hcred', projectedSet_append]
  refine ((live_split u.name _ _ _).map window).trans ?_
  rw [hown]
  exact List.Perm.refl _

theorem windows_unchanged (hcred : Text.startsWith "cred_" u.id = true) {principal : String}
    (hother : ¬ (principal = u.name ∧ u.enabled = true)) :
    (((projectedSet (before ++ u :: after)).live principal).map window).Perm
      (((projectedSet (before ++ u.withExpiry expiresAt :: after)).live principal).map window) := by
  have hcred' : Text.startsWith "cred_" (u.withExpiry expiresAt).id = true := hcred
  have hnone : ∀ v : CompatUser, v.name = u.name → v.enabled = u.enabled →
      (AuthorizationSet.mk [projectUser v]).live principal = [] := by
    intro v hname henabled
    refine List.filter_eq_nil_iff.mpr fun a ha hkeep => hother ?_
    rw [List.mem_singleton.mp ha] at hkeep
    simp only [projectUser, Bool.and_eq_true, beq_iff_eq, Bool.not_not] at hkeep
    exact ⟨hkeep.1.symm.trans hname, henabled.symm.trans hkeep.2⟩
  rw [projectedSet_split hcred, projectedSet_split hcred']
  refine ((live_split principal _ _ _).trans (List.Perm.trans ?_
    (live_split principal _ _ _).symm)).map window
  rw [hnone u rfl rfl, hnone (u.withExpiry expiresAt) rfl rfl]

theorem valid_of_expiry_iff (hfirst : ∀ v ∈ before, v.id ≠ u.id)
    (hold : (projectedSet (before ++ u :: after)).validate = .ok ()) :
    (projectedSet (before ++ u.withExpiry expiresAt :: after)).validate = .ok () ↔
      ExpiryFits (before ++ u :: after) u expiresAt := by
  by_cases hcred : Text.startsWith "cred_" u.id = true
  swap
  · -- the account is no credential: the checks never see it
    have hcred' : ¬ Text.startsWith "cred_" (u.withExpiry expiresAt).id = true := hcred
    rw [projectedSet_skip hcred] at hold
    rw [projectedSet_skip hcred']
    exact ⟨fun _ h => absurd h hcred, fun _ => hold⟩
  have hcred' : Text.startsWith "cred_" (u.withExpiry expiresAt).id = true := hcred
  obtain ⟨hitems, hnodup, hset⟩ := AuthorizationSet.validate_ok.mp hold
  rw [AuthorizationSet.validateSet_ok] at hset
  rw [projectedSet_split hcred] at hitems hnodup
  have hitem : (projectUser u).validateItem = .ok () :=
    hitems _ (List.mem_append_right _ List.mem_cons_self)
  constructor
  · intro hnew _
    obtain ⟨hitems', -, hset'⟩ := AuthorizationSet.validate_ok.mp hnew
    have hitem' : (projectUser (u.withExpiry expiresAt)).validateItem = .ok () := by
      apply hitems'
      rw [projectedSet_split hcred']
      exact List.mem_append_right _ List.mem_cons_self
    obtain ⟨hrange, hlive⟩ := (item_of_expiry_iff hitem).mp hitem'
    refine ⟨hrange, fun hon => ⟨hlive hon, ?_⟩⟩
    exact (AuthorizationSet.validateSet_ok.mp hset' u.name).of_perm
      (windows_withExpiry hcred hfirst hon)
  · intro hfits
    obtain ⟨hrange, hlive⟩ := hfits hcred
    refine AuthorizationSet.validate_ok.mpr ⟨?_, ?_, AuthorizationSet.validateSet_ok.mpr ?_⟩
    · rw [projectedSet_split hcred']
      intro a ha
      rcases List.mem_append.mp ha with hbefore | hrest
      · exact hitems a (List.mem_append_left _ hbefore)
      · rcases List.mem_cons.mp hrest with rfl | hafter
        · exact (item_of_expiry_iff hitem).mpr ⟨hrange, fun hon => (hlive hon).1⟩
        · exact hitems a (List.mem_append_right _ (List.mem_cons_of_mem _ hafter))
    · -- no credential id has changed
      rw [projectedSet_split hcred']
      rw [List.map_append, List.map_cons] at hnodup ⊢
      exact hnodup
    · intro principal
      by_cases hown : principal = u.name ∧ u.enabled = true
      · rw [hown.1]
        exact (hlive hown.2).2.of_perm (windows_withExpiry hcred hfirst hown.2).symm
      · exact (hset principal).of_perm (windows_unchanged hcred hown)

/-! ### The command -/

theorem modifyUser_first (f : CompatUser → Except String CompatUser) {u' : CompatUser}
    (hfirst : ∀ v ∈ before, v.id ≠ u.id) (hf : f u = .ok u') :
    modifyUser u.id f (before ++ u :: after) = .ok (before ++ u' :: after) := by
  induction before with
  | nil =>
    rw [List.nil_append, modifyUser, if_pos rfl, hf]
    rfl
  | cons v before ih =>
    obtain ⟨hv, hbefore⟩ := List.forall_mem_cons.mp hfirst
    rw [List.cons_append, modifyUser, if_neg hv, ih hbefore]
    rfl

/-- The command saves the store with the new expiry, and past a change of activity it has
    rendered that store. -/
theorem setExpiry_ok (hfirst : ∀ v ∈ before, v.id ≠ u.id)
    (hcmd : cmdUserSetExpiry env u.id expiresAt (before ++ u :: after) = .ok users') :
    users' = before ++ u.withExpiry expiresAt :: after := by
  obtain ⟨next, hnext, hsave⟩ := Check.bind_eq_ok.mp hcmd
  have hnext' : modifyUser u.id (fun v => .ok { v with expiresAt := expiresAt })
      (before ++ u :: after) = .ok (before ++ u.withExpiry expiresAt :: after) :=
    modifyUser_first _ hfirst rfl
  rw [hnext'] at hnext
  cases hnext
  dsimp only at hsave
  split at hsave
  · exact saveUsers_ok hsave
  · exact applyUsersAndSave_ok hsave

theorem find?_split (hfirst : ∀ v ∈ before, v.id ≠ u.id) :
    (before ++ u :: after).find? (·.id == u.id) = some u := by
  rw [List.find?_append, List.find?_eq_none.mpr fun v hv => by simpa using hfirst v hv]
  simp

/-- What the command is meant to keep: the saved store renders, and if the command did not
    render it, the document is the one that the store had before. -/
def KeepsRendering (env : Env) (id : String) (users users' : Store) : Prop :=
  (∃ doc, Renders env users' env.now doc) ∧
    (ActivityKept env id users users' →
      ∀ doc, Renders env users env.now doc → Renders env users' env.now doc)

/-- A successful `set-expiry` leaves a store that renders, to the same document if it was not
    rendered on the way, exactly when the expiry fits the account. -/
theorem set_expiry_keeps_rendering_iff (hnow : IsI64 env.now)
    (hrenders : ∃ doc, Renders env users env.now doc)
    (hu : users.find? (·.id == id) = some u)
    (hcmd : cmdUserSetExpiry env id expiresAt users = .ok users') :
    KeepsRendering env id users users' ↔ ExpiryFits users u expiresAt := by
  obtain ⟨hid, before, after, rfl, hbefore⟩ := List.find?_eq_some_iff_append.mp hu
  obtain rfl : u.id = id := by simpa using hid
  have hfirst : ∀ v ∈ before, v.id ≠ u.id := fun v hv => by simpa using hbefore v hv
  obtain rfl := setExpiry_ok hfirst hcmd
  obtain ⟨doc, reality, hreality, hdoc⟩ := hrenders
  obtain ⟨hd, hold⟩ := render_checks hdoc
  rw [← valid_of_expiry_iff hfirst hold]
  constructor
  · rintro ⟨⟨doc', reality', -, hdoc'⟩, -⟩
    exact (render_checks hdoc').2
  · intro hvalid
    obtain ⟨doc', hdoc'⟩ := render_ok_iff.mpr ⟨hd, hvalid⟩
    refine ⟨⟨doc', reality, hreality, hdoc'⟩, ?_⟩
    rintro hkept doc₁ ⟨reality₁, hreality₁, hdoc₁⟩
    -- every other account is untouched, and this one renders alike
    have hactive : (u.withExpiry expiresAt).isActive env.now = u.isActive env.now := by
      unfold ActivityKept at hkept
      have hfind' : (before ++ u.withExpiry expiresAt :: after).find? (·.id == u.id) =
          some (u.withExpiry expiresAt) :=
        find?_split (u := u.withExpiry expiresAt) hfirst
      rw [find?_split hfirst, hfind'] at hkept
      exact (Option.some.inj hkept).symm
    have hsame : List.Forall₂ (SameAt env.now) (before ++ u :: after)
        (before ++ u.withExpiry expiresAt :: after) := by
      have hrefl : ∀ l : Store, List.Forall₂ (SameAt env.now) l l := fun l =>
        List.forall₂_same.mpr fun v _ => SameAt.refl env.now v
      exact List.rel_append (hrefl before) (.cons (sameAt_of_expiry hnow hactive) (hrefl after))
    exact ⟨reality₁, hreality₁, render_congr hsame hvalid hdoc₁⟩

end Expiry

/-! ### One credential -/

/-- The account of a day's credential, beside an operator's account. -/
def sampleCredentialUser : CompatUser :=
  { sampleUser with
    id := "cred_aaaa0001"
    name := "ext_principal001"
    vlessUuid := "00000000-0000-4000-8000-00000000000a"
    expiresAt := some 86400 }

def sampleCredentialStore : Store := [sampleUser, sampleCredentialUser]

theorem sampleCredentialStore_renders : ∃ doc, Renders sampleEnv sampleCredentialStore 0 doc := by
  obtain ⟨doc, hdoc⟩ := sampleRelay_renders sampleCredentialStore 0 rfl
  exact ⟨doc, sampleReality, rfl, hdoc⟩

/-- A later expiry within the class's limit is kept without rendering. -/
theorem set_expiry_keeps_rendering_iff_extended :
    KeepsRendering sampleEnv "cred_aaaa0001" sampleCredentialStore
      [sampleUser, sampleCredentialUser.withExpiry (some 172800)] := by
  have hcmd : cmdUserSetExpiry sampleEnv "cred_aaaa0001" (some 172800) sampleCredentialStore =
      .ok [sampleUser, sampleCredentialUser.withExpiry (some 172800)] := rfl
  refine (set_expiry_keeps_rendering_iff (by decide) sampleCredentialStore_renders rfl hcmd).mpr ?_
  intro _
  exact ⟨by decide, fun _ => ⟨by decide, by decide, by decide⟩⟩

/-- Clearing the expiry of an active credential succeeds without rendering; the saved store
    does not render, and disabling the other account is refused from then on. -/
theorem cleared_expiry_blocks_rendering :
    (∃ doc, Renders sampleEnv sampleCredentialStore 0 doc) ∧
      cmdUserSetExpiry sampleEnv "cred_aaaa0001" none sampleCredentialStore =
        .ok [sampleUser, sampleCredentialUser.withExpiry none] ∧
      (∀ doc, ¬ Renders sampleEnv [sampleUser, sampleCredentialUser.withExpiry none] 0 doc) ∧
      cmdUserSetEnabled sampleEnv "user_1" false
        [sampleUser, sampleCredentialUser.withExpiry none] = .error renderContext ∧
      ¬ KeepsRendering sampleEnv "cred_aaaa0001" sampleCredentialStore
        [sampleUser, sampleCredentialUser.withExpiry none] := by
  have hcmd : cmdUserSetExpiry sampleEnv "cred_aaaa0001" none sampleCredentialStore =
      .ok [sampleUser, sampleCredentialUser.withExpiry none] := rfl
  have hblocked : ∀ doc,
      ¬ Renders sampleEnv [sampleUser, sampleCredentialUser.withExpiry none] 0 doc := by
    rintro doc ⟨reality, -, hdoc⟩
    have hvalid := (render_checks hdoc).2
    revert hvalid
    decide
  refine ⟨sampleCredentialStore_renders, hcmd, hblocked, rfl, ?_⟩
  rintro ⟨⟨doc, hdoc⟩, -⟩
  exact hblocked doc hdoc

end SingboxVpn
