import SingboxVpn.Server.Entries
import Mathlib.Data.Finset.Max

/-!
# The overlap policy of stored grants

`crates/compat-config/src/credential_policy.rs` with the checks of a single grant: how many grants
of one class an account may have in force at once, and for how long two of them may overlap.

* `CompatUser.openings` — the instants at which a window of the account opens.
* `rendered_le_iff` — a bound holds at every instant once it holds at these.
-/

namespace SingboxVpn

open Text (debug)

/-! ### The policy -/

/-- The name of a class. -/
def CredentialClass.asStr : CredentialClass → String
  | .native => "native"
  | .compatibility => "compatibility"

/-- How the principals of a class start. -/
def CredentialClass.principalPrefix : CredentialClass → String
  | .native => "native_"
  | .compatibility => "ext_"

namespace CredentialPolicy

/-- How long two grants of a class may overlap, in seconds. -/
def MAX_OVERLAP_SECS : Int := 60 * 60

/-- How many grants of a class may be live at once. -/
def MAX_LIVE_GRANTS_PER_CLASS : Nat := 2

/-- How long two grants overlap, in 64-bit arithmetic. -/
def overlapSecs (a b : CredentialGrant) : Int :=
  max (wrap64 (min a.validUntil b.validUntil - max a.validFrom b.validFrom)) 0

/-- The shape of a principal of a class. -/
def validatePrincipalId (principalId : String) (cls : CredentialClass) : Except String Unit :=
  match Text.afterStart cls.principalPrefix principalId with
  | none => .error ("authorization principal " ++ debug principalId ++ " must start with " ++
      debug cls.principalPrefix ++ " for a " ++ cls.asStr ++ " credential")
  | some suffix => do
    Check.refuseIf (Text.len suffix != 24)
      ("authorization principal " ++ debug principalId ++ " has " ++ toString (Text.len suffix) ++
        " hex characters after " ++ debug cls.principalPrefix ++ "; exactly 24 are required")
    Check.refuseIf (!suffix.toList.all Text.isAsciiHexdigit)
      ("authorization principal " ++ debug principalId ++ " must be hexadecimal; it must be an " ++
        "opaque id and must never carry customer identity (email, name, account id, or billing " ++
        "reference)")

end CredentialPolicy

open CredentialPolicy

/-- The checks of a single grant. -/
def CredentialGrant.validate (g : CredentialGrant) : Except String Unit := do
  validatePrincipalId g.principalId g.cls
  Check.refuseIf (!isUuidV4Shaped g.vlessUuid)
    ("credential " ++ g.principalId ++ " has a VLESS UUID that is not 8-4-4-4-12 hex")
  Check.refuseIf g.hysteria2Password.isEmpty
    ("credential " ++ g.principalId ++ " has an empty Hysteria2 password")
  Check.refuseIf (decide (g.validUntil ≤ g.validFrom))
    ("credential " ++ g.principalId ++ " has valid_until " ++ toString g.validUntil ++
      " at or before valid_from " ++ toString g.validFrom ++
      "; every credential must have a non-empty validity window")
  Check.refuseIf (decide (g.validUntil ≤ 0) || decide (g.validFrom < 0))
    ("credential " ++ g.principalId ++ " has a non-positive validity window (" ++
      toString g.validFrom ++ ", " ++ toString g.validUntil ++ ")")
  Check.onSome (fun revokedAt => Check.refuseIf (decide (revokedAt < g.validFrom))
    ("credential " ++ g.principalId ++ " was revoked at " ++ toString revokedAt ++
      ", before its window opened at " ++ toString g.validFrom)) g.revokedAt

namespace CredentialPolicy

def validateOverlaps (grants : List CredentialGrant) (cls : CredentialClass) : Except String Unit :=
  Check.each (fun p : CredentialGrant × CredentialGrant =>
      Check.refuseIf (decide (MAX_OVERLAP_SECS < overlapSecs p.1 p.2))
        ("credentials " ++ p.1.principalId ++ " and " ++ p.2.principalId ++ " of class " ++
          cls.asStr ++ " are simultaneously authorized for " ++ toString (overlapSecs p.1 p.2) ++
          "s, exceeding the " ++ toString MAX_OVERLAP_SECS ++ "s maximum overlap"))
    (AuthorizationSet.pairs (grants.filter (·.cls == cls)))

def validateAnchors (grants : List CredentialGrant) (cls : CredentialClass) : Except String Unit :=
  let sameClass := grants.filter (·.cls == cls)
  Check.each (fun anchor =>
      let liveAtStart := sameClass.filter (grantIsAuthorized · anchor.validFrom)
      Check.refuseIf (decide (MAX_LIVE_GRANTS_PER_CLASS < liveAtStart.length))
        (toString liveAtStart.length ++ " credentials of class " ++ cls.asStr ++
          " are simultaneously authorized at t=" ++ toString anchor.validFrom ++ " (" ++
          String.intercalate ", " (liveAtStart.map (·.principalId)) ++ "); at most " ++
          toString MAX_LIVE_GRANTS_PER_CLASS ++ " may be live at once"))
    sameClass

/-- The checks of an account's grants together. -/
def validateGrantSet (grants : List CredentialGrant) : Except String Unit := do
  Check.each CredentialGrant.validate grants
  Check.each (validateOverlaps grants) [.native, .compatibility]
  Check.each (validateAnchors grants) [.native, .compatibility]

end CredentialPolicy

/-- The grants of an account meet the policy. -/
def CompatUser.validateGrants (u : CompatUser) : Except String Unit :=
  validateGrantSet u.credentials

variable {u : CompatUser}

theorem CompatUser.overlaps_of_validateGrants (h : u.validateGrants = .ok ())
    (cls : CredentialClass) :
    (u.credentials.filter (·.cls == cls)).Pairwise fun a b => overlapSecs a b ≤ MAX_OVERLAP_SECS := by
  simp only [validateGrants, validateGrantSet, Check.bind_ok, Check.each_ok] at h
  have hcls := h.2.1 cls (by cases cls <;> decide)
  simp only [validateOverlaps, Check.each_ok, Check.refuseIf_ok, decide_eq_false_iff_not,
    not_lt] at hcls
  exact AuthorizationSet.forall_mem_pairs.mp hcls

/-! ### Windows that are open at once -/

namespace CompatUser

def rendered (u : CompatUser) (cls : CredentialClass) (now : Int) : List CredentialGrant :=
  (u.inForce now).filter (·.cls == cls)

/-- The instants at which a window of the account opens: the first one, the account's own start,
    and the start of each stored grant with its grace. -/
def openings (u : CompatUser) : List Int :=
  I64_MIN :: u.createdAt ::
    u.credentials.map fun g => wrap64 (g.validFrom - VALID_FROM_SKEW_GRACE_SECS)

/-- The times that an account stores are machine integers. -/
structure TimesI64 (u : CompatUser) : Prop where
  createdAt : IsI64 u.createdAt
  validFrom : ∀ g ∈ u.credentials, IsI64 g.validFrom

end CompatUser

theorem wrap64_start {v : Int} (h : IsI64 v) :
    wrap64 (v - VALID_FROM_SKEW_GRACE_SECS) =
      if -2 ^ 63 ≤ v - 30 then v - 30 else v - 30 + 18446744073709551616 := by
  obtain ⟨hlow, hhigh⟩ := h
  unfold VALID_FROM_SKEW_GRACE_SECS
  unfold I64_MAX at hhigh
  split
  · next hin => exact wrap64_of_mem hin (by unfold I64_MAX; omega)
  · next hout => exact wrap64_of_low (by omega) (by unfold I64_MAX; omega)

theorem wrap64_grace {now : Int} (h : IsI64 now) :
    wrap64 (now + VALID_FROM_SKEW_GRACE_SECS) =
      if now + 30 ≤ I64_MAX then now + 30 else now + 30 - 18446744073709551616 := by
  obtain ⟨hlow, hhigh⟩ := h
  unfold VALID_FROM_SKEW_GRACE_SECS
  split
  · next hin => exact wrap64_of_mem (by omega) hin
  · next hout =>
    unfold I64_MAX at hhigh hout
    exact wrap64_of_high (by omega) (by unfold I64_MAX; omega)

/-- An account and a grant stay in force back to an instant before which neither has started. -/
theorem inForce_back {g : CredentialGrant} {t now : Int} (hle : t ≤ now)
    (hcreated : u.createdAt ≤ now → u.createdAt ≤ t)
    (hstart : g.validFrom ≤ wrap64 (now + VALID_FROM_SKEW_GRACE_SECS) →
      g.validFrom ≤ wrap64 (t + VALID_FROM_SKEW_GRACE_SECS))
    (h : (u.isActive now && grantIsAuthorized g now) = true) :
    (u.isActive t && grantIsAuthorized g t) = true := by
  simp only [CompatUser.isActive, grantIsAuthorized, CredentialGrant.isRevokedAt,
    Bool.and_eq_true, Bool.or_eq_true, Bool.not_eq_true', decide_eq_true_eq] at h ⊢
  obtain ⟨⟨⟨henabled, hstarted⟩, hexpires⟩, ⟨hrevoked, hfrom⟩, huntil⟩ := h
  refine ⟨⟨⟨henabled, hstarted.imp_right hcreated⟩, ?_⟩, ⟨?_, hstart hfrom⟩, by omega⟩
  · cases hexp : u.expiresAt with
    | none => rfl
    | some e =>
      rw [hexp] at hexpires
      have hlt : now < e := of_decide_eq_true hexpires
      exact decide_eq_true (lt_of_le_of_lt hle hlt)
  · cases hat : g.revokedAt with
    | none => rfl
    | some r =>
      rw [hat] at hrevoked
      have hgt : ¬ r ≤ now := of_decide_eq_false hrevoked
      exact decide_eq_false fun hrt => hgt (hrt.trans hle)

theorem CompatUser.TimesI64.openings (h : u.TimesI64) : ∀ t ∈ u.openings, IsI64 t := by
  intro t ht
  rcases List.mem_cons.mp ht with rfl | ht
  · decide
  rcases List.mem_cons.mp ht with rfl | ht
  · exact h.createdAt
  obtain ⟨g, hg, rfl⟩ := List.mem_map.mp ht
  have hv := h.validFrom g hg
  rw [wrap64_start hv]
  obtain ⟨hlow, hhigh⟩ := hv
  unfold IsI64
  unfold I64_MAX at hhigh ⊢
  split <;> omega

theorem exists_last {l : List Int} (p : Int → Prop) [DecidablePred p] {x : Int} (hx : x ∈ l)
    (hp : p x) : ∃ t ∈ l, p t ∧ ∀ y ∈ l, p y → y ≤ t := by
  have hne : (l.filter (p ·)).toFinset.Nonempty := ⟨x, by simpa using ⟨hx, hp⟩⟩
  obtain ⟨t, ht, hmax⟩ := (l.filter (p ·)).toFinset.exists_max_image id hne
  simp only [List.mem_toFinset, List.mem_filter, decide_eq_true_eq] at ht hmax
  exact ⟨t, ht.1, ht.2, fun y hy hpy => hmax y ⟨hy, hpy⟩⟩

theorem exists_opening {now : Int} (hnow : IsI64 now) (htimes : u.TimesI64) {g₀ : CredentialGrant}
    (hg₀ : g₀ ∈ u.credentials) (hforce : (u.isActive now && grantIsAuthorized g₀ now) = true) :
    ∃ t ∈ u.openings, ∀ g ∈ u.credentials,
      (u.isActive now && grantIsAuthorized g now) = true →
      (u.isActive t && grantIsAuthorized g t) = true := by
  have hcreated : u.createdAt ∈ u.openings := by simp [CompatUser.openings]
  have hstart : ∀ g ∈ u.credentials,
      wrap64 (g.validFrom - VALID_FROM_SKEW_GRACE_SECS) ∈ u.openings := fun g hg =>
    List.mem_cons_of_mem _ (List.mem_cons_of_mem _ (List.mem_map_of_mem hg))
  by_cases hwrap : now + 30 ≤ I64_MAX
  · obtain ⟨t, ht, hle, hlast⟩ := exists_last (· ≤ now)
      (show I64_MIN ∈ u.openings from List.mem_cons_self ..) hnow.1
    obtain ⟨htlow, hthigh⟩ := htimes.openings t ht
    refine ⟨t, ht, fun g hg => inForce_back hle (hlast _ hcreated) ?_⟩
    rw [wrap64_grace hnow, wrap64_grace ⟨htlow, hthigh⟩, if_pos hwrap, if_pos (by omega)]
    intro hfrom
    -- a window that opened before the first instant is open at every one
    have hopen := hlast _ (hstart g hg)
    rw [wrap64_start (htimes.validFrom g hg)] at hopen
    split at hopen <;> omega
  · -- the grace wraps around: only windows that open this late have started
    have hlate : ∀ g ∈ u.credentials, g.validFrom ≤ wrap64 (now + VALID_FROM_SKEW_GRACE_SECS) →
        wrap64 (g.validFrom - VALID_FROM_SKEW_GRACE_SECS) =
          g.validFrom - 30 + 18446744073709551616 ∧
        g.validFrom - 30 + 18446744073709551616 ≤ now ∧
        ¬ g.validFrom - 30 + 18446744073709551616 + 30 ≤ I64_MAX := by
      intro g hg hfrom
      have hv := htimes.validFrom g hg
      rw [wrap64_grace hnow, if_neg hwrap] at hfrom
      rw [wrap64_start hv]
      obtain ⟨hlow, hhigh⟩ := hv
      obtain ⟨hlow', hhigh'⟩ := hnow
      unfold I64_MAX at *
      rw [if_neg (by omega)]
      omega
    have hfrom₀ : g₀.validFrom ≤ wrap64 (now + VALID_FROM_SKEW_GRACE_SECS) := by
      simp only [grantIsAuthorized, Bool.and_eq_true, decide_eq_true_eq] at hforce
      exact hforce.2.1.2
    obtain ⟨heq₀, hle₀, hlate₀⟩ := hlate g₀ hg₀ hfrom₀
    obtain ⟨t, ht, ⟨hle, hside⟩, hlast⟩ := exists_last (fun t => t ≤ now ∧ ¬ t + 30 ≤ I64_MAX)
      (hstart g₀ hg₀) (heq₀ ▸ ⟨hle₀, hlate₀⟩)
    refine ⟨t, ht, fun g hg => inForce_back hle ?_ ?_⟩
    · intro hcreatedNow
      by_cases hside' : u.createdAt + 30 ≤ I64_MAX
      · omega
      · exact hlast _ hcreated ⟨hcreatedNow, hside'⟩
    · intro hfrom
      obtain ⟨heq, hbound⟩ := hlate g hg hfrom
      have hopen := hlast _ (hstart g hg) (heq ▸ hbound)
      rw [wrap64_grace (htimes.openings t ht), if_neg hside]
      omega

theorem rendered_le_iff (htimes : u.TimesI64) (cls : CredentialClass) :
    (∀ now, IsI64 now → (u.rendered cls now).length ≤ MAX_LIVE_GRANTS_PER_CLASS) ↔
      ∀ t ∈ u.openings, (u.rendered cls t).length ≤ MAX_LIVE_GRANTS_PER_CLASS := by
  constructor
  · exact fun h t ht => h t (htimes.openings t ht)
  · intro h now hnow
    have hrendered : ∀ t, u.rendered cls t = u.effectiveGrants.filter fun g =>
        g.cls == cls && (u.isActive t && grantIsAuthorized g t) := by
      intro t
      rw [CompatUser.rendered, CompatUser.inForce_filter, List.filter_filter]
    cases hgrants : u.credentials with
    | nil =>
      -- an account without stored grants stands for one
      have hone : u.effectiveGrants = [u.legacyGrant] := by
        simp [CompatUser.effectiveGrants, hgrants]
      rw [hrendered, hone]
      exact (List.length_filter_le _ _).trans (show 1 ≤ 2 by omega)
    | cons first rest =>
      have hstored : u.effectiveGrants = u.credentials := by
        simp [CompatUser.effectiveGrants, hgrants]
      by_cases hnone : u.rendered cls now = []
      · rw [hnone]
        exact Nat.zero_le _
      · obtain ⟨g₀, hmem⟩ := List.exists_mem_of_ne_nil _ hnone
        rw [hrendered, hstored] at hmem
        obtain ⟨hg₀, hforce⟩ := List.mem_filter.mp hmem
        obtain ⟨t, ht, hback⟩ := exists_opening hnow htimes hg₀ (Bool.and_eq_true_iff.mp hforce).2
        refine le_trans ?_ (h t ht)
        rw [hrendered, hrendered, hstored, ← List.countP_eq_length_filter,
          ← List.countP_eq_length_filter]
        refine List.countP_mono_left fun g hg hin => ?_
        obtain ⟨hcls, hin⟩ := Bool.and_eq_true_iff.mp hin
        exact Bool.and_eq_true_iff.mpr ⟨hcls, hback g hg hin⟩

end SingboxVpn
