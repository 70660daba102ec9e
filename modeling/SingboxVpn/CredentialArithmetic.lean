import SingboxVpn.AuthorizationExact
import SingboxVpn.CredentialPolicy
import SingboxVpn.Lib.Checked

/-!
# The arithmetic of the credential policies

The set rules of authorizations (`crates/compat-config/src/authorization.rs`) and of stored grants
(`crates/compat-config/src/credential_policy.rs`) with every operation on 64-bit integers as a step
that may overflow.

* `validateSetChecked_agrees`, `validateGrantSetChecked_agrees` — without overflow the outcome is
  that of the code.
* `runs_validateSet`, `runs_validateGrantSet` — when nothing overflows.
-/

namespace SingboxVpn

open Checked

theorem agrees_wrap {ε : Type} {n : Int} :
    Agrees (fit IsI64 n : Checked ε Int) (.ok (wrap64 n)) := by
  intro r h
  simp only [fit, ExceptT.run_mk, Option.ite_none_right_eq_some, Option.some.injEq] at h
  obtain ⟨hfits, rfl⟩ := h
  rw [wrap64_of_mem hfits.1 hfits.2]

/-! ### Authorizations -/

namespace AuthorizationSet

open Authorization (MAX_OVERLAP_SECS)

def pairChecked (p : Authorization × Authorization) : Checked String Unit := do
  let overlap ← fit IsI64 (exactOverlap p.1 p.2)
  lift (Check.refuseIf (MAX_OVERLAP_SECS < overlap)
    ("principal " ++ Text.debug p.1.principalId ++ " overlap exceeds 48 hours"))

def sweepChecked (principal : String) : Int → List (Int × Int) → Checked String Unit
  | _, [] => pure ()
  | active, e :: es => do
    let active ← fit IsI64 (active + e.2)
    lift (Check.refuseIf (2 < active)
      ("principal " ++ Text.debug principal ++ " has more than two simultaneous credentials"))
    sweepChecked principal active es

def validatePrincipalChecked (set : AuthorizationSet) (principal : String) :
    Checked String Unit := do
  each pairChecked (pairs (set.live principal))
  sweepChecked principal 0 (events (set.live principal))

def validateSetChecked (set : AuthorizationSet) : Checked String Unit :=
  each set.validatePrincipalChecked set.principals

theorem agrees_pair (p : Authorization × Authorization) :
    Agrees (pairChecked p) (Check.refuseIf (MAX_OVERLAP_SECS < overlap p.1 p.2)
      ("principal " ++ Text.debug p.1.principalId ++ " overlap exceeds 48 hours")) :=
  agrees_bind (g := fun overlap => Check.refuseIf (MAX_OVERLAP_SECS < overlap) _) agrees_wrap
    fun _ _ => agrees_lift

theorem agrees_sweep (principal : String) (active : Int) (es : List (Int × Int)) :
    Agrees (sweepChecked principal active es) (Check.refuseIf (!sweepOk active es)
      ("principal " ++ Text.debug principal ++ " has more than two simultaneous credentials")) := by
  induction es generalizing active with
  | nil => exact agrees_pure
  | cons e es ih =>
    have hstep : Agrees (sweepChecked principal active (e :: es)) _ :=
      agrees_bind agrees_fit fun a _ => agrees_bind agrees_lift fun _ _ => ih a
    intro r hr
    rw [hstep r hr, sweepOk]
    by_cases hle : active + e.2 ≤ 2
    · simp [Check.refuseIf, hle, not_lt.mpr hle, bind, Except.bind]
    · simp [Check.refuseIf, hle, not_le.mp hle, bind, Except.bind]

theorem agrees_principal (set : AuthorizationSet) (principal : String) :
    Agrees (set.validatePrincipalChecked principal) (set.validatePrincipal principal) :=
  agrees_bind (agrees_each fun p _ => agrees_pair p) fun _ _ => agrees_sweep principal 0 _

theorem validateSetChecked_agrees (set : AuthorizationSet) :
    Agrees set.validateSetChecked set.validateSet :=
  agrees_each fun principal _ => set.agrees_principal principal

/-! ### When the set rules run -/

/-- Neither window starts more than `2 ^ 63` seconds after the other has ended. -/
def Near (a b : Authorization) : Prop :=
  b.validFrom ≤ a.validUntil + 2 ^ 63 ∧ a.validFrom ≤ b.validUntil + 2 ^ 63

/-- The windows that the rules compare are near, up to the first pair or principal that they
    refuse. -/
def WindowsNear (set : AuthorizationSet) : Prop :=
  ∀ principal, Reached (fun p => set.validatePrincipal p = .ok ()) set.principals principal →
    ∀ p, Reached (fun q : Authorization × Authorization => overlap q.1 q.2 ≤ MAX_OVERLAP_SECS)
        (pairs (set.live principal)) p →
      Near p.1 p.2

variable {a : Authorization} {principal : String}

theorem window_of_item (h : a.validateItem = .ok ()) (hlive : a.revoked = false) :
    a.validFrom < a.validUntil ∧ a.validUntil - a.validFrom ≤ 30 * 24 * 60 * 60 := by
  obtain ⟨-, -, hwindow⟩ := Authorization.validateItem_ok.mp h
  obtain ⟨hpositive, -, hlimit⟩ := hwindow hlive
  have hmax : Authorization.lifetimeLimit a.cls ≤ 30 * 24 * 60 * 60 := by
    cases a.cls <;> decide
  omega

theorem isI64_overlap {b : Authorization} (ha : a.validFrom < a.validUntil)
    (ha' : a.validUntil - a.validFrom ≤ 30 * 24 * 60 * 60) (hb : b.validFrom < b.validUntil) :
    IsI64 (exactOverlap a b) ↔ Near a b := by
  unfold IsI64 exactOverlap Near I64_MAX
  omega

theorem mem_of_mem_pairs {α : Type} {l : List α} {p : α × α} (h : p ∈ pairs l) :
    p.1 ∈ l ∧ p.2 ∈ l :=
  forall_mem_pairs (r := fun a b => a ∈ l ∧ b ∈ l) |>.mpr
    (List.pairwise_of_forall_mem_list fun _ ha _ hb => ⟨ha, hb⟩) p h

theorem runs_sweep {active : Int} {es : List (Int × Int)} (hsorted : es.Pairwise Sweep.Before)
    (hchange : ∀ e ∈ es, e.2 ≤ 1) (hlow : 0 ≤ active) (hhigh : active ≤ 2)
    (htrough : ∀ t, 0 ≤ active + Sweep.trough es t) : Runs (sweepChecked principal active es) := by
  induction es generalizing active with
  | nil => exact runs_pure
  | cons e es ih =>
    obtain ⟨hstep, hrest⟩ := Sweep.trough_step hsorted hlow htrough
    obtain ⟨he, hes⟩ := List.forall_mem_cons.mp hchange
    have hfits : IsI64 (active + e.2) := by
      unfold IsI64 I64_MAX
      omega
    rw [sweepChecked, runs_bind_of_agrees agrees_fit, runs_fit, runs_bind]
    refine ⟨hfits, runs_lift, fun u hu => ?_⟩
    have hok := Check.refuseIf_ok.mp (agrees_lift _ hu).symm
    exact ih (List.pairwise_cons.mp hsorted).2 hes hstep (by simpa using hok) hrest

theorem runs_principalSweep {set : AuthorizationSet}
    (h : ∀ a ∈ set.live principal, a.validFrom < a.validUntil) :
    Runs (sweepChecked principal 0 (events (set.live principal))) := by
  have hperm := events_perm (set.live principal)
  refine runs_sweep (events_sorted _) (fun e he => ?_) le_rfl (by decide) fun t => ?_
  · obtain ⟨w, -, hedge⟩ := List.mem_flatMap.mp (hperm.mem_iff.mp he)
    rcases List.mem_pair.mp hedge with rfl | rfl
    · exact le_rfl
    · exact (by decide : (-1 : Int) ≤ 1)
  · rw [Sweep.trough, Sweep.total_perm hperm, ← Sweep.trough, zero_add]
    exact Sweep.trough_edges (by simpa [window] using h) t

theorem runs_validateSet {set : AuthorizationSet}
    (hitems : ∀ a ∈ set.authorizations, a.validateItem = .ok ()) :
    Runs set.validateSetChecked ↔ set.WindowsNear := by
  have hwindow : ∀ {principal a}, a ∈ set.live principal → a.validFrom < a.validUntil ∧
      a.validUntil - a.validFrom ≤ 30 * 24 * 60 * 60 := fun ha => by
    obtain ⟨hmem, -, hlive⟩ := mem_live.mp ha
    exact window_of_item (hitems _ hmem) hlive
  rw [validateSetChecked, runs_each fun principal _ => set.agrees_principal principal]
  refine forall_congr' fun principal => imp_congr_right fun _ => ?_
  rw [validatePrincipalChecked, runs_bind, runs_each fun p _ => agrees_pair p,
    and_iff_left fun _ _ => runs_principalSweep fun a ha => (hwindow ha).1]
  simp only [Check.refuseIf_ok, decide_eq_false_iff_not, not_lt]
  refine forall_congr' fun p => forall_congr' fun hreached => ?_
  obtain ⟨hp, hp'⟩ := mem_of_mem_pairs hreached.mem
  rw [pairChecked, runs_bind_of_agrees agrees_fit, runs_fit, and_iff_left runs_lift,
    isI64_overlap (hwindow hp).1 (hwindow hp).2 (hwindow hp').1]

end AuthorizationSet

/-! ### Stored grants -/

namespace CredentialPolicy

def grantIsAuthorizedChecked (g : CredentialGrant) (nowUnix : Int) : Checked String Bool :=
  if g.isRevokedAt nowUnix then pure false
  else do
    let graced ← fit IsI64 (nowUnix + VALID_FROM_SKEW_GRACE_SECS)
    pure (decide (g.validFrom ≤ graced) && decide (nowUnix < g.validUntil))

def overlapSecsChecked (a b : CredentialGrant) : Checked String Int := do
  let length ← fit IsI64 (min a.validUntil b.validUntil - max a.validFrom b.validFrom)
  pure (max length 0)

def overlapChecked (cls : CredentialClass) (p : CredentialGrant × CredentialGrant) :
    Checked String Unit := do
  let overlap ← overlapSecsChecked p.1 p.2
  lift (Check.refuseIf (decide (MAX_OVERLAP_SECS < overlap))
    ("credentials " ++ p.1.principalId ++ " and " ++ p.2.principalId ++ " of class " ++
      cls.asStr ++ " are simultaneously authorized for " ++ toString overlap ++
      "s, exceeding the " ++ toString MAX_OVERLAP_SECS ++ "s maximum overlap"))

def validateOverlapsChecked (grants : List CredentialGrant) (cls : CredentialClass) :
    Checked String Unit :=
  each (overlapChecked cls) (AuthorizationSet.pairs (grants.filter (·.cls == cls)))

def anchorChecked (sameClass : List CredentialGrant) (cls : CredentialClass)
    (anchor : CredentialGrant) : Checked String Unit := do
  let liveAtStart ← Checked.filter (grantIsAuthorizedChecked · anchor.validFrom) sameClass
  lift (Check.refuseIf (decide (MAX_LIVE_GRANTS_PER_CLASS < liveAtStart.length))
    (toString liveAtStart.length ++ " credentials of class " ++ cls.asStr ++
      " are simultaneously authorized at t=" ++ toString anchor.validFrom ++ " (" ++
      String.intercalate ", " (liveAtStart.map (·.principalId)) ++ "); at most " ++
      toString MAX_LIVE_GRANTS_PER_CLASS ++ " may be live at once"))

def validateAnchorsChecked (grants : List CredentialGrant) (cls : CredentialClass) :
    Checked String Unit :=
  let sameClass := grants.filter (·.cls == cls)
  each (anchorChecked sameClass cls) sameClass

def validateGrantSetChecked (grants : List CredentialGrant) : Checked String Unit := do
  each (fun g => lift g.validate) grants
  each (validateOverlapsChecked grants) [.native, .compatibility]
  each (validateAnchorsChecked grants) [.native, .compatibility]

theorem agrees_authorized (g : CredentialGrant) (nowUnix : Int) :
    Agrees (grantIsAuthorizedChecked g nowUnix) (.ok (grantIsAuthorized g nowUnix)) := by
  unfold grantIsAuthorizedChecked grantIsAuthorized
  cases g.isRevokedAt nowUnix with
  | true => exact agrees_pure
  | false =>
    exact agrees_bind (g := fun graced =>
      .ok (decide (g.validFrom ≤ graced) && decide (nowUnix < g.validUntil))) agrees_wrap
      fun _ _ => agrees_pure

theorem agrees_overlapSecs (a b : CredentialGrant) :
    Agrees (overlapSecsChecked a b) (.ok (overlapSecs a b)) :=
  agrees_bind (g := fun length => .ok (max length 0)) agrees_wrap fun _ _ => agrees_pure

theorem agrees_overlap (cls : CredentialClass) (p : CredentialGrant × CredentialGrant) :
    Agrees (overlapChecked cls p) (Check.refuseIf (decide (MAX_OVERLAP_SECS < overlapSecs p.1 p.2))
      ("credentials " ++ p.1.principalId ++ " and " ++ p.2.principalId ++ " of class " ++
        cls.asStr ++ " are simultaneously authorized for " ++ toString (overlapSecs p.1 p.2) ++
        "s, exceeding the " ++ toString MAX_OVERLAP_SECS ++ "s maximum overlap")) :=
  agrees_bind (g := fun overlap => Check.refuseIf (decide (MAX_OVERLAP_SECS < overlap)) _)
    (agrees_overlapSecs p.1 p.2) fun _ h => by
      cases h
      exact agrees_lift

theorem agrees_anchor (sameClass : List CredentialGrant) (cls : CredentialClass)
    (anchor : CredentialGrant) :
    let liveAtStart := sameClass.filter (grantIsAuthorized · anchor.validFrom)
    Agrees (anchorChecked sameClass cls anchor)
      (Check.refuseIf (decide (MAX_LIVE_GRANTS_PER_CLASS < liveAtStart.length))
        (toString liveAtStart.length ++ " credentials of class " ++ cls.asStr ++
          " are simultaneously authorized at t=" ++ toString anchor.validFrom ++ " (" ++
          String.intercalate ", " (liveAtStart.map (·.principalId)) ++ "); at most " ++
          toString MAX_LIVE_GRANTS_PER_CLASS ++ " may be live at once")) :=
  agrees_bind (g := fun live =>
      Check.refuseIf (decide (MAX_LIVE_GRANTS_PER_CLASS < live.length)) _)
    (agrees_filter fun g _ => agrees_authorized g anchor.validFrom) fun _ h => by
      cases h
      exact agrees_lift

theorem agrees_overlaps (grants : List CredentialGrant) (cls : CredentialClass) :
    Agrees (validateOverlapsChecked grants cls) (validateOverlaps grants cls) :=
  agrees_each fun p _ => agrees_overlap cls p

theorem agrees_anchors (grants : List CredentialGrant) (cls : CredentialClass) :
    Agrees (validateAnchorsChecked grants cls) (validateAnchors grants cls) :=
  agrees_each fun anchor _ => agrees_anchor _ cls anchor

theorem validateGrantSetChecked_agrees (grants : List CredentialGrant) :
    Agrees (validateGrantSetChecked grants) (validateGrantSet grants) :=
  agrees_bind (agrees_each fun _ _ => agrees_lift) fun _ _ =>
    agrees_bind (agrees_each fun cls _ => agrees_overlaps grants cls) fun _ _ =>
      agrees_each fun cls _ => agrees_anchors grants cls

/-! ### When the grant rules run -/

/-- The instant with its grace is a machine integer, or nothing is compared with it. -/
def Graced (g : CredentialGrant) (nowUnix : Int) : Prop :=
  g.isRevokedAt nowUnix = true ∨ nowUnix ≤ I64_MAX - VALID_FROM_SKEW_GRACE_SECS

variable {g : CredentialGrant}

theorem runs_authorized {nowUnix : Int} (hnow : IsI64 nowUnix) :
    Runs (grantIsAuthorizedChecked g nowUnix) ↔ Graced g nowUnix := by
  unfold grantIsAuthorizedChecked Graced
  cases g.isRevokedAt nowUnix with
  | true => simp
  | false =>
    simp only [Bool.false_eq_true, if_false, false_or, runs_bind_of_agrees agrees_fit, runs_fit,
      runs_pure, and_true]
    unfold IsI64 at hnow ⊢
    unfold VALID_FROM_SKEW_GRACE_SECS
    omega

theorem window_of_grant (h : g.validate = .ok ()) :
    0 ≤ g.validFrom ∧ g.validFrom < g.validUntil := by
  simp only [CredentialGrant.validate, Check.bind_ok, Check.refuseIf_ok, Bool.or_eq_false_iff,
    decide_eq_false_iff_not, not_le, not_lt] at h
  exact ⟨h.2.2.2.2.1.2, h.2.2.2.1⟩

variable {grants : List CredentialGrant}

theorem runs_overlapSecs {a b : CredentialGrant} (ha : a.validate = .ok ())
    (hb : b.validate = .ok ()) (ha' : IsI64 a.validUntil) (hb' : IsI64 b.validUntil) :
    Runs (overlapSecsChecked a b) := by
  obtain ⟨hfa, hua⟩ := window_of_grant ha
  obtain ⟨hfb, hub⟩ := window_of_grant hb
  rw [overlapSecsChecked, runs_bind_of_agrees agrees_fit, runs_fit, and_iff_left runs_pure]
  unfold IsI64 I64_MAX at *
  omega

theorem runs_overlaps (hgrants : ∀ g ∈ grants, g.validate = .ok ())
    (htimes : ∀ g ∈ grants, IsI64 g.validUntil) (cls : CredentialClass) :
    Runs (validateOverlapsChecked grants cls) := by
  refine (runs_each fun p _ => agrees_overlap cls p).mpr fun p hreached => ?_
  obtain ⟨ha, hb⟩ := AuthorizationSet.mem_of_mem_pairs hreached.mem
  have ha := (List.mem_filter.mp ha).1
  have hb := (List.mem_filter.mp hb).1
  rw [overlapChecked, runs_bind_of_agrees (agrees_overlapSecs p.1 p.2)]
  exact ⟨runs_overlapSecs (hgrants _ ha) (hgrants _ hb) (htimes _ ha) (htimes _ hb), runs_lift⟩

theorem isI64_start (h : g.validate = .ok ()) (htime : IsI64 g.validUntil) : IsI64 g.validFrom := by
  obtain ⟨hfrom, huntil⟩ := window_of_grant h
  unfold IsI64 I64_MAX at *
  omega

def AnchorsGraced (grants : List CredentialGrant) (cls : CredentialClass) : Prop :=
  ∀ anchor, Reached (fun b => ((grants.filter (·.cls == cls)).filter
        (grantIsAuthorized · b.validFrom)).length ≤ MAX_LIVE_GRANTS_PER_CLASS)
      (grants.filter (·.cls == cls)) anchor →
    ∀ g ∈ grants, g.cls = cls → Graced g anchor.validFrom

theorem runs_anchors (hgrants : ∀ g ∈ grants, g.validate = .ok ())
    (htimes : ∀ g ∈ grants, IsI64 g.validUntil) (cls : CredentialClass) :
    Runs (validateAnchorsChecked grants cls) ↔ AnchorsGraced grants cls := by
  rw [validateAnchorsChecked, runs_each fun anchor _ => agrees_anchor _ cls anchor]
  simp only [Check.refuseIf_ok, decide_eq_false_iff_not, not_lt]
  refine forall_congr' fun anchor => forall_congr' fun hreached => ?_
  have hanchor := (List.mem_filter.mp hreached.mem).1
  have hstart := isI64_start (hgrants anchor hanchor) (htimes anchor hanchor)
  have hagrees := fun g (_ : g ∈ grants.filter (·.cls == cls)) =>
    agrees_authorized g anchor.validFrom
  rw [anchorChecked, runs_bind_of_agrees (agrees_filter hagrees), and_iff_left runs_lift,
    runs_filter hagrees]
  simp only [runs_authorized hstart, List.mem_filter, beq_iff_eq, and_imp]

/-- The starts at which grants are counted have their grace, up to the first count that is
    refused; nothing is counted where two grants overlap for too long. -/
def StartsGraced (grants : List CredentialGrant) : Prop :=
  (∀ cls, validateOverlaps grants cls = .ok ()) →
    ∀ cls, Reached (fun c => validateAnchors grants c = .ok ()) [.native, .compatibility] cls →
      AnchorsGraced grants cls

theorem runs_validateGrantSet (hgrants : ∀ g ∈ grants, g.validate = .ok ())
    (htimes : ∀ g ∈ grants, IsI64 g.validUntil) :
    Runs (validateGrantSetChecked grants) ↔ StartsGraced grants := by
  have hvalid : Agrees (each (fun g : CredentialGrant => lift g.validate) grants) (.ok ()) := by
    have hagrees := agrees_each (l := grants) fun g _ => agrees_lift (r := g.validate)
    rwa [Check.each_ok.mpr hgrants] at hagrees
  have hvalidRuns : Runs (each (fun g : CredentialGrant => lift g.validate) grants) :=
    (runs_each fun _ _ => agrees_lift).mpr fun _ _ => runs_lift
  have hoverlaps := agrees_each (l := [.native, .compatibility]) fun cls _ =>
    agrees_overlaps grants cls
  have hoverlapRuns : Runs (each (validateOverlapsChecked grants) [.native, .compatibility]) :=
    (runs_each fun cls _ => agrees_overlaps grants cls).mpr fun cls _ =>
      runs_overlaps hgrants htimes cls
  have hclasses : Check.each (validateOverlaps grants) [.native, .compatibility] = .ok () ↔
      ∀ cls, validateOverlaps grants cls = .ok () := by
    rw [Check.each_ok]
    exact forall_congr' fun cls => by cases cls <;> simp
  have hanchors : Runs (each (validateAnchorsChecked grants) [.native, .compatibility]) ↔
      ∀ cls, Reached (fun c => validateAnchors grants c = .ok ()) [.native, .compatibility] cls →
        AnchorsGraced grants cls := by
    rw [runs_each fun cls _ => agrees_anchors grants cls]
    simp only [runs_anchors hgrants htimes]
  rw [validateGrantSetChecked, runs_bind_of_agrees hvalid, and_iff_right hvalidRuns, runs_bind,
    and_iff_right hoverlapRuns, hoverlaps.run_eq hoverlapRuns, hanchors, StartsGraced, ← hclasses]
  simp only [Option.some.injEq]
  exact ⟨fun h hok => h () hok, fun h _ hok => h hok⟩

end CredentialPolicy

/-! ### Both policies -/

open CredentialPolicy AuthorizationSet

/-- No operation of the set rules of either policy overflows. -/
structure NoOverflow (set : AuthorizationSet) (grants : List CredentialGrant) (nowUnix : Int) :
    Prop where
  authorizations : Runs set.validateSetChecked
  authorized : ∀ g ∈ grants, Runs (grantIsAuthorizedChecked g nowUnix)
  overlaps : ∀ a ∈ grants, ∀ b ∈ grants, Runs (overlapSecsChecked a b)
  grantSet : Runs (validateGrantSetChecked grants)

/-- The windows and instants are far enough from the ends of the 64-bit integers. -/
structure InRange (set : AuthorizationSet) (grants : List CredentialGrant) (nowUnix : Int) :
    Prop where
  near : set.WindowsNear
  graced : ∀ g ∈ grants, Graced g nowUnix
  starts : StartsGraced grants

/-- **No overflow.**  The rules on single credentials bound a window's length, but neither how far two
    windows are apart nor how near an instant is to the last one. -/
theorem noOverflow_iff {set : AuthorizationSet} {grants : List CredentialGrant} {nowUnix : Int}
    (hitems : ∀ a ∈ set.authorizations, a.validateItem = .ok ())
    (hgrants : ∀ g ∈ grants, g.validate = .ok ()) (htimes : ∀ g ∈ grants, IsI64 g.validUntil)
    (hnow : IsI64 nowUnix) : NoOverflow set grants nowUnix ↔ InRange set grants nowUnix := by
  constructor
  · rintro ⟨hset, hauthorized, -, hgrantSet⟩
    exact ⟨(runs_validateSet hitems).mp hset,
      fun g hg => (runs_authorized hnow).mp (hauthorized g hg),
      (runs_validateGrantSet hgrants htimes).mp hgrantSet⟩
  · rintro ⟨hnear, hgraced, hstarts⟩
    exact ⟨(runs_validateSet hitems).mpr hnear,
      fun g hg => (runs_authorized hnow).mpr (hgraced g hg),
      fun a ha b hb => runs_overlapSecs (hgrants a ha) (hgrants b hb) (htimes a ha) (htimes b hb),
      (runs_validateGrantSet hgrants htimes).mpr hstarts⟩

def sampleWindow (credentialId : String) (validFrom validUntil : Int) : Authorization where
  principalId := "native_0123456789"
  credentialId := credentialId
  cls := .native
  validFrom := validFrom
  validUntil := validUntil
  revoked := false
  vlessUuid := some "00000000-0000-4000-8000-000000000000"
  hysteria2Password := none

def sampleGrant (validFrom validUntil : Int) : CredentialGrant where
  principalId := "native_000000000000000000000000"
  cls := .native
  vlessUuid := "00000000-0000-4000-8000-000000000000"
  hysteria2Password := "pw"
  validFrom := validFrom
  validUntil := validUntil
  revokedAt := none
  generation := 0

def sampleRotation : AuthorizationSet :=
  ⟨[sampleWindow "cred_0000001" 1000 1600, sampleWindow "cred_0000002" 1500 2100]⟩

/-- A rotation with ordinary times stays within 64 bits. -/
theorem noOverflow_sampleRotation : NoOverflow sampleRotation [sampleGrant 1000 2000] 1500 := by
  have hgraced : ∀ t ∈ [1000, 1500], ∀ g, Graced g t := fun t ht g => .inr (by revert t; decide)
  refine (noOverflow_iff (by decide +kernel) (by decide +kernel) (by decide) (by decide)).mpr
    ⟨fun principal _ p hreached => ?_, fun g _ => hgraced 1500 (by simp) g, ?_⟩
  · obtain ⟨ha, hb⟩ := mem_of_mem_pairs hreached.mem
    have hnear : ∀ a ∈ sampleRotation.authorizations, ∀ b ∈ sampleRotation.authorizations,
        Near a b := by
      unfold Near
      decide
    exact hnear _ (mem_live.mp ha).1 _ (mem_live.mp hb).1
  · intro _ cls _ anchor hreached g _ _
    obtain rfl := List.mem_singleton.mp (List.mem_filter.mp hreached.mem).1
    exact hgraced 1000 (by simp) g

def sampleFar : AuthorizationSet :=
  ⟨[sampleWindow "cred_0000001" I64_MIN (I64_MIN + 600), sampleWindow "cred_0000002" 1000 1600]⟩

/-- Each of the three operations overflows; what follows in a build without overflow checks is that
    windows without a common instant are refused, and a grant is not authorized in its window. -/
theorem noOverflow_fails :
    ((∀ a ∈ sampleFar.authorizations, a.validateItem = .ok ()) ∧
      sampleFar.validateSetChecked.run = none ∧ sampleFar.validateSet ≠ .ok ()) ∧
    ((sampleGrant 0 I64_MAX).validate = .ok () ∧
      (grantIsAuthorizedChecked (sampleGrant 0 I64_MAX) (I64_MAX - 1)).run = none ∧
      grantIsAuthorized (sampleGrant 0 I64_MAX) (I64_MAX - 1) = false) ∧
    (sampleGrant (I64_MAX - 10) I64_MAX).validate = .ok () ∧
      (validateGrantSetChecked [sampleGrant (I64_MAX - 10) I64_MAX]).run = none := by
  decide +kernel

/-! ### How many grants are authorized at once -/

def authorizedOf (grants : List CredentialGrant) (cls : CredentialClass) (nowUnix : Int) :
    List CredentialGrant :=
  grants.filter fun g => g.cls == cls && grantIsAuthorized g nowUnix

def BoundedAtOnce (grants : List CredentialGrant) : Prop :=
  ∀ cls t, IsI64 t → (∀ g ∈ grants, g.cls = cls → Runs (grantIsAuthorizedChecked g t)) →
    (authorizedOf grants cls t).length ≤ MAX_LIVE_GRANTS_PER_CLASS

variable {g : CredentialGrant} {t : Int}

theorem validFrom_of_validate (h : g.validate = .ok ()) : 0 ≤ g.validFrom := by
  simp only [CredentialGrant.validate, Check.bind_ok, Check.refuseIf_ok, Bool.or_eq_false_iff,
    decide_eq_false_iff_not, not_lt] at h
  exact h.2.2.2.2.1.2

theorem grantIsAuthorized_iff (ht : IsI64 t) (hgrace : t ≤ I64_MAX - VALID_FROM_SKEW_GRACE_SECS) :
    grantIsAuthorized g t = true ↔ g.isRevokedAt t = false ∧
      g.validFrom ≤ t + VALID_FROM_SKEW_GRACE_SECS ∧ t < g.validUntil := by
  have hwrap : wrap64 (t + VALID_FROM_SKEW_GRACE_SECS) = t + VALID_FROM_SKEW_GRACE_SECS := by
    unfold VALID_FROM_SKEW_GRACE_SECS at hgrace ⊢
    exact wrap64_of_mem (by have := ht.1; omega) (by omega)
  unfold grantIsAuthorized
  rw [hwrap, Bool.and_eq_true_iff, Bool.and_eq_true_iff, Bool.not_eq_true', decide_eq_true_iff,
    decide_eq_true_iff, and_assoc]

theorem isRevokedAt_back {s : Int} (hle : s ≤ t) (h : g.isRevokedAt t = false) :
    g.isRevokedAt s = false := by
  unfold CredentialGrant.isRevokedAt at h ⊢
  cases hat : g.revokedAt with
  | none => rfl
  | some r =>
    rw [hat] at h
    have hgt : ¬ r ≤ t := of_decide_eq_false h
    exact decide_eq_false fun hrs => hgt (hrs.trans hle)

theorem exists_start {grants : List CredentialGrant} {cls : CredentialClass} (ht : IsI64 t)
    (hgrace : t ≤ I64_MAX - VALID_FROM_SKEW_GRACE_SECS) (hvalid : ∀ g ∈ grants, 0 ≤ g.validFrom)
    (htimes : ∀ g ∈ grants, IsI64 g.validFrom) (hsome : authorizedOf grants cls t ≠ []) :
    ∃ anchor ∈ grants, anchor.cls = cls ∧ ∀ g ∈ grants, g.cls = cls → grantIsAuthorized g t →
      grantIsAuthorized g (anchor.validFrom - VALID_FROM_SKEW_GRACE_SECS) := by
  obtain ⟨first, hfirst⟩ := List.exists_mem_of_ne_nil _ hsome
  obtain ⟨last, hlast, -, hmax⟩ := exists_last (fun _ => True)
    (List.mem_map_of_mem (f := CredentialGrant.validFrom) hfirst) trivial
  obtain ⟨anchor, hanchor, rfl⟩ := List.mem_map.mp hlast
  obtain ⟨hmem, hin⟩ := List.mem_filter.mp hanchor
  rw [Bool.and_eq_true_iff, beq_iff_eq] at hin
  obtain ⟨-, hstarted, -⟩ := (grantIsAuthorized_iff ht hgrace).mp hin.2
  have hstart : IsI64 (anchor.validFrom - VALID_FROM_SKEW_GRACE_SECS) := by
    have hlow := hvalid anchor hmem
    have hhigh := (htimes anchor hmem).2
    unfold IsI64 VALID_FROM_SKEW_GRACE_SECS
    omega
  have hstart' : anchor.validFrom - VALID_FROM_SKEW_GRACE_SECS ≤
      I64_MAX - VALID_FROM_SKEW_GRACE_SECS := by
    have hhigh := (htimes anchor hmem).2
    omega
  refine ⟨anchor, hmem, hin.1, fun g hg hcls hauthorized => ?_⟩
  have hle : g.validFrom ≤ anchor.validFrom :=
    hmax _ (List.mem_map_of_mem (List.mem_filter.mpr ⟨hg, by simp [hcls, hauthorized]⟩)) trivial
  obtain ⟨hrevoked, -, huntil⟩ := (grantIsAuthorized_iff ht hgrace).mp hauthorized
  exact (grantIsAuthorized_iff hstart hstart').mpr
    ⟨isRevokedAt_back (by omega) hrevoked, by omega, by omega⟩

/-- **Simultaneous grants.**  The set check counts at the starts of the windows, authorization
    begins a grace before them: an accepted set is bounded at every instant iff it is where each
    grace begins. -/
theorem boundedAtOnce_iff {grants : List CredentialGrant}
    (haccepted : validateGrantSet grants = .ok ()) (htimes : ∀ g ∈ grants, IsI64 g.validFrom) :
    BoundedAtOnce grants ↔ ∀ anchor ∈ grants,
      (authorizedOf grants anchor.cls (anchor.validFrom - VALID_FROM_SKEW_GRACE_SECS)).length ≤
        MAX_LIVE_GRANTS_PER_CLASS := by
  have hvalid : ∀ g ∈ grants, 0 ≤ g.validFrom := by
    simp only [validateGrantSet, Check.bind_ok, Check.each_ok] at haccepted
    exact fun g hg => validFrom_of_validate (haccepted.1 g hg)
  constructor
  · intro hbounded anchor hanchor
    have hlow := hvalid anchor hanchor
    have hhigh := (htimes anchor hanchor).2
    have hstart : IsI64 (anchor.validFrom - VALID_FROM_SKEW_GRACE_SECS) := by
      unfold IsI64 VALID_FROM_SKEW_GRACE_SECS
      omega
    refine hbounded _ _ hstart fun g _ _ => (runs_authorized hstart).mpr (.inr ?_)
    omega
  · intro hanchors cls t ht hruns
    by_cases hgrace : t ≤ I64_MAX - VALID_FROM_SKEW_GRACE_SECS
    · by_cases hsome : authorizedOf grants cls t = []
      · rw [hsome]
        exact Nat.zero_le _
      · obtain ⟨anchor, hanchor, rfl, hback⟩ := exists_start ht hgrace hvalid htimes hsome
        refine le_trans ?_ (hanchors anchor hanchor)
        unfold authorizedOf
        rw [← List.countP_eq_length_filter, ← List.countP_eq_length_filter]
        refine List.countP_mono_left fun g hg hin => ?_
        rw [Bool.and_eq_true_iff, beq_iff_eq] at hin ⊢
        exact ⟨hin.1, hback g hg hin.1 hin.2⟩
    · -- only revoked grants can be asked about this late
      have hnone : authorizedOf grants cls t = [] := by
        refine List.filter_eq_nil_iff.mpr fun g hg hin => ?_
        rw [Bool.and_eq_true_iff, beq_iff_eq] at hin
        have hrevoked := ((runs_authorized ht).mp (hruns g hg hin.1)).resolve_right hgrace
        simp [grantIsAuthorized, hrevoked] at hin
      rw [hnone]
      exact Nat.zero_le _

/-- Three windows of which two are open at once. -/
theorem boundedAtOnce_sampleChain :
    BoundedAtOnce [sampleGrant 1000 5000, sampleGrant 4000 8000, sampleGrant 5100 12000] :=
  (boundedAtOnce_iff (by decide +kernel) (by decide)).mpr (by decide +kernel)

/-- The first window closes within the grace of the third. -/
theorem boundedAtOnce_fails :
    validateGrantSet [sampleGrant 1000 5000, sampleGrant 4000 8000, sampleGrant 5010 12000] =
        .ok () ∧
      (authorizedOf [sampleGrant 1000 5000, sampleGrant 4000 8000, sampleGrant 5010 12000] .native
        4990).length = 3 ∧
      ¬ BoundedAtOnce [sampleGrant 1000 5000, sampleGrant 4000 8000, sampleGrant 5010 12000] := by
  refine ⟨by decide +kernel, by decide +kernel, fun hbounded => ?_⟩
  have hle := hbounded .native 4990 (by decide) fun g _ _ =>
    (runs_authorized (by decide)).mpr (.inr (by decide))
  revert hle
  decide +kernel

end SingboxVpn
