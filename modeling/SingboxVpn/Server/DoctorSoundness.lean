import SingboxVpn.Server.Doctor

namespace SingboxVpn

open Json (object strs)
open FirstMatch (eval carry)

/-!
# What the doctor's acceptance is worth

The check of a relay's document counts rules by shape and looks at the last one.  A document
that is accepted need not be one the renderer wrote, and one that is not may forward anything.

* `allDecided_iff_covers`, `shadowed_iff_of_plain` — what the text of a document says about the
  connections that run past its rules, or past those before one of them;
* `allHarmless_of_count` — what the count is worth where the forward rules of all declared targets
  are there;
* `doctor_soundness` — when an accepted document forwards nothing but what a relay is meant to.
-/

/-! ### Soundness of a document -/

section Soundness

variable (d : DeploymentConfig) (doc : Json)

/-- A rule scoped to identities and to the Google domain set. -/
def isGoogleHairpin (r : Json) : Prop :=
  (r.get? "auth_user").isSome = true ∧
    r.get? "domain_suffix" = some (strs GOOGLE_EGRESS_DOMAINS)

instance (r : Json) : Decidable (isGoogleHairpin r) := inferInstanceAs (Decidable (_ ∧ _))

/-- The rule at this position is one a relay is meant to have: in the probe prefix, a forward
    rule to a declared target, a hairpin rule, or in the exit-principal block. -/
def Listed (i : Nat) (r : Json) : Prop :=
  i < probeConfinementRuleCount doc ∨ r ∈ d.relayTargets.map relayTargetRule ∨
    isGoogleHairpin r ∨
    ∃ start len ps, locateExitBlock d (routeRules doc) = some (some (start, len), ps) ∧
      start ≤ i ∧ i < start + len

def CoveredBy (core : Core) (c : Conn) : Prop :=
  ∃ before r after m, routeRules doc = before ++ r :: after ∧
    eval (act core c) Meta.start before = .pass m ∧
    act core c m r = .stop (decision core doc c) ∧ Listed d doc before.length r

/-- The document rejects every connection that no listed rule decides. -/
def DoctorSound : Prop :=
  ∀ (core : Core) (c : Conn), c.inbound ∈ inboundTags doc →
    decision core doc c = .reject ∨ CoveredBy d doc core c

def Harmless (i : Nat) (r : Json) : Prop :=
  Listed d doc i r ∨ ruleAction r ∈ ["reject", "sniff", "resolve", "route-options"]

/-- Rules with the other actions let a connection go on. -/
def Decides (r : Json) : Prop := ruleAction r ∉ ["sniff", "resolve", "route-options"]

instance (r : Json) : Decidable (Decides r) := inferInstanceAs (Decidable (_ ∉ _))

/-- Fields of a rule that restrict nothing. -/
def freeFields : List String :=
  ["action", "outbound", "method", "no_drop", "sniffer", "timeout", "tls_spoof", "tls_spoof_method"]

/-- The rule restricts at most the inbound and the network. -/
def Plain (r : Json) : Prop := ∀ kv ∈ r.fields, kv.1 ∈ "inbound" :: "network" :: freeFields

def itemAdmits (tag : String) (n : Network) (kv : String × Json) : Bool :=
  if kv.1 = "inbound" then kv.2.texts.contains tag
  else if kv.1 = "network" then kv.2.texts.contains n.asStr
  else freeFields.contains kv.1

/-- The rule is plain, and lets this inbound and this network in. -/
def admits (tag : String) (n : Network) (r : Json) : Bool := r.fields.all (itemAdmits tag n)

/-- For each inbound and network some plain rule decides. -/
def Covers : Prop :=
  ∀ tag ∈ inboundTags doc, ∀ n : Network, ∃ r ∈ routeRules doc, Decides r ∧ admits tag n r = true

/-- One of these rules decides and matches the connection, with the names and addresses that are
    known when it is read. -/
def Caught (core : Core) (c : Conn) (before : List Json) : Prop :=
  ∃ pre q post, before = pre ++ q :: post ∧ Decides q ∧
    ruleMatches core c (carry (act core c) Meta.start pre) q = true

/-- What the rule matches, one of those before it has decided. -/
def Shadowed (before : List Json) (r : Json) : Prop :=
  ∀ (core : Core) (c : Conn), c.inbound ∈ inboundTags doc →
    ruleMatches core c (carry (act core c) Meta.start before) r = true → Caught core c before

/-- Every rule that is neither listed nor without a verdict of its own is shadowed. -/
def StraysShadowed : Prop :=
  ∀ before r after, routeRules doc = before ++ r :: after → ¬ Harmless d doc before.length r →
    Shadowed doc before r

def exitBlockAt : Option (Nat × Nat) := (locateExitBlock d (routeRules doc)).bind Prod.fst

/-- What the count adds to the number of targets: the probe prefix, the exit-principal block, the
    hairpin rules outside it, and the last rule. -/
def parts : List (Json × Nat → Bool) :=
  [fun p => decide (p.2 < probeConfinementRuleCount doc),
    fun p => !outsideBlock (exitBlockAt d doc) p.2,
    fun p => outsideBlock (exitBlockAt d doc) p.2 && isHairpinRule p.1,
    fun p => decide (p.2 + 1 = (routeRules doc).length)]

/-- No rule belongs to two of the parts. -/
def CountedOnce : Prop :=
  ∀ p ∈ (routeRules doc).zipIdx, (parts d doc).countP (fun part => part p) ≤ 1

instance : Decidable (CountedOnce d doc) := inferInstanceAs (Decidable (∀ _ ∈ _, _ ≤ _))

def HairpinsHarmless : Prop :=
  ∀ before r after, routeRules doc = before ++ r :: after → isHairpinRule r = true →
    Harmless d doc before.length r

def AllDecided : Prop :=
  ∀ (core : Core) (c : Conn), c.inbound ∈ inboundTags doc →
    ∃ verdict, eval (act core c) Meta.start (routeRules doc) = .stop verdict

end Soundness

/-! ### Which rules stop a connection -/

section Stops

variable {core : Core} {d : DeploymentConfig} {doc r : Json} {c : Conn} {m : Meta}
  {verdict : Decision} {before after : List Json}

theorem ruleAction_of_idx {action : String} (h : r.idx "action" = .str action) :
    ruleAction r = action := by
  unfold Json.idx at h
  cases hget : r.get? "action" with
  | none => simp [hget] at h
  | some v =>
    rw [hget, Option.getD_some] at h
    simp [ruleAction, hget, h, Json.asStr]

theorem stops_iff :
    (∃ verdict, act core c m r = .stop verdict) ↔ Decides r ∧ ruleMatches core c m r = true := by
  constructor
  · rintro ⟨verdict, hstop⟩
    refine ⟨fun hmem => ?_, matches_of_stop hstop⟩
    simp only [List.mem_cons, List.not_mem_nil, or_false] at hmem
    rcases hmem with h | h | h
    · rw [act_sniff h] at hstop
      cases hstop
    · rw [act_resolve h] at hstop
      cases hstop
    · rw [act_options h] at hstop
      cases hstop
  · rintro ⟨hdecides, hmatch⟩
    simp only [Decides, List.mem_cons, List.not_mem_nil, or_false, not_or] at hdecides
    rw [act, if_pos hmatch, perform]
    split
    · exact absurd ‹_› hdecides.1
    · exact absurd ‹_› hdecides.2.1
    · exact absurd ‹_› hdecides.2.2
    · exact ⟨_, rfl⟩
    · exact ⟨_, rfl⟩
    · exact ⟨_, rfl⟩

/-- A rule stops with a reject if its action says so, and not otherwise. -/
theorem verdict_eq_reject (hstop : act core c m r = .stop verdict) :
    verdict = .reject ↔ ruleAction r = "reject" := by
  rw [act, if_pos (matches_of_stop hstop), perform] at hstop
  split at hstop <;> cases hstop <;> simp_all

theorem reject_of_action (h : ruleAction r ∈ ["reject", "sniff", "resolve", "route-options"])
    (hstop : act core c m r = .stop verdict) : verdict = .reject := by
  rcases List.mem_cons.mp h with h | h
  · exact (verdict_eq_reject hstop).mpr h
  · exact absurd h (stops_iff.mp ⟨verdict, hstop⟩).1

theorem caught_iff :
    Caught core c before ↔ ¬ ∃ m, eval (act core c) Meta.start before = .pass m := by
  rw [FirstMatch.exists_pass_iff]
  constructor
  · rintro ⟨pre, q, post, hbefore, hq⟩ hpass
    obtain ⟨verdict, hstop⟩ := stops_iff.mpr hq
    exact hpass pre q post verdict hbefore hstop
  · intro h
    push Not at h
    obtain ⟨pre, q, post, verdict, hbefore, hstop⟩ := h
    exact ⟨pre, q, post, hbefore, stops_iff.mp ⟨verdict, hstop⟩⟩

theorem decision_of_stop (hrules : routeRules doc = before ++ r :: after)
    (hpass : eval (act core c) Meta.start before = .pass m)
    (hstop : act core c m r = .stop verdict) : decision core doc c = verdict := by
  rw [decision, decideBy, hrules, FirstMatch.eval_append_pass _ hpass,
    FirstMatch.eval_cons_stop after hstop]

theorem doctorSound_of_shadowed (hshadowed : StraysShadowed d doc) (hall : AllDecided doc) :
    DoctorSound d doc := by
  intro core c hin
  obtain ⟨verdict, hverdict⟩ := hall core c hin
  obtain ⟨before, r, after, m, hrules, hpass, hstop⟩ := FirstMatch.exists_stop hverdict
  have hdecision := decision_of_stop hrules hpass hstop
  by_cases hharmless : Harmless d doc before.length r
  · rcases hharmless with hlist | hact
    · exact .inr ⟨before, r, after, m, hrules, hpass, by rw [hdecision]; exact hstop, hlist⟩
    · exact .inl (by rw [hdecision]; exact reject_of_action hact hstop)
  · -- a shadowed rule is not reached
    have hcaught := hshadowed before r after hrules hharmless core c hin
      (by rw [FirstMatch.carry_of_pass hpass]; exact matches_of_stop hstop)
    exact absurd ⟨m, hpass⟩ (caught_iff.mp hcaught)

theorem shadowed_of_doctorSound (hsound : DoctorSound d doc) : StraysShadowed d doc := by
  intro before r after hrules hnot core c hin hmatch
  rw [caught_iff]
  rintro ⟨m, hpass⟩
  rw [FirstMatch.carry_of_pass hpass] at hmatch
  rw [Harmless, not_or, List.mem_cons, not_or] at hnot
  obtain ⟨verdict, hstop⟩ := stops_iff.mpr ⟨hnot.2.2, hmatch⟩
  have hdecision := decision_of_stop hrules hpass hstop
  rcases hsound core c hin with hreject | ⟨before', r', after', m', hrules', hpass', hstop', hlist⟩
  · exact hnot.2.1 ((verdict_eq_reject hstop).mp (hdecision.symm.trans hreject))
  · obtain ⟨rfl, rfl⟩ :=
      FirstMatch.stop_unique (hrules.symm.trans hrules') hpass hstop hpass' hstop'
    exact hnot.1 hlist

theorem allDecided_of_doctorSound (hsound : DoctorSound d doc) : AllDecided doc := by
  intro core c hin
  cases heval : eval (act core c) Meta.start (routeRules doc) with
  | stop verdict => exact ⟨verdict, rfl⟩
  | pass m =>
    -- what is left to `route.final` is neither rejected nor decided by a rule
    exfalso
    rcases hsound core c hin with hreject | ⟨before, r, after, m', hrules, hpass, hstop, -⟩
    · rw [decision, decideBy, heval] at hreject
      cases hreject
    · rw [hrules, FirstMatch.eval_append_pass _ hpass, FirstMatch.eval_cons_stop after hstop]
        at heval
      cases heval

end Stops

/-! ### Connections that no rule knows -/

section Stray

def ruleTexts (rules : List Json) : List String :=
  rules.flatMap fun r => r.fields.flatMap fun kv => kv.2.texts

def ruleNums (rules : List Json) : List Int :=
  rules.flatMap fun r => r.fields.flatMap fun kv => kv.2.nums

/-- A connection whose user, name and port no rule has, and in which nothing is sniffed. -/
def strayConn (rules : List Json) (tag : String) (n : Network) : Conn where
  inbound := tag
  user := freshText (ruleTexts rules)
  network := n
  dest := .name (freshText (ruleTexts rules))
  port := ((ruleNums rules).map Int.natAbs).sum + 1
  resolved := []
  sniff := fun _ => none

variable {rules : List Json} {tag : String} {n : Network} {m : Meta} {r : Json}
  {kv : String × Json}

theorem itemMatches_stray (hr : r ∈ rules) (hkv : kv ∈ r.fields) (hm : m.sniffed = none) :
    itemMatches sampleCore (strayConn rules tag n) m kv.1 kv.2 = itemAdmits tag n kv := by
  obtain ⟨k, v⟩ := kv
  have htexts : v.texts ⊆ ruleTexts rules := fun t ht =>
    List.mem_flatMap.mpr ⟨r, hr, List.mem_flatMap.mpr ⟨(k, v), hkv, ht⟩⟩
  have hnums : v.nums ⊆ ruleNums rules := fun t ht =>
    List.mem_flatMap.mpr ⟨r, hr, List.mem_flatMap.mpr ⟨(k, v), hkv, ht⟩⟩
  have hfresh : freshText (ruleTexts rules) ∉ v.texts := fun h => freshText_ne (htexts h) rfl
  have hport : (((ruleNums rules).map Int.natAbs).sum + 1 : Nat) ∉ v.nums.map Int.natAbs := by
    intro h
    obtain ⟨i, hi, heq⟩ := List.mem_map.mp h
    have hle := List.le_sum_of_mem (List.mem_map_of_mem (f := Int.natAbs) (hnums hi))
    omega
  have hhosts : (strayConn rules tag n).hosts sampleCore m = [freshText (ruleTexts rules)] := by
    simp [Conn.hosts, sampleCore, hm, strayConn, Conn.requested]
  have haddresses : (strayConn rules tag n).addresses m = [] := by
    simp [Conn.addresses, strayConn, Conn.literal]
  change itemMatches sampleCore (strayConn rules tag n) m k v = itemAdmits tag n (k, v)
  unfold itemMatches
  split
  · rfl
  · simpa [itemAdmits, freeFields, strayConn] using hfresh
  · rfl
  · have hnot : (((strayConn rules tag n).port : Nat) : Int) ∉ v.nums := fun h =>
      hport (List.mem_map.mpr ⟨_, h, rfl⟩)
    simpa [itemAdmits, freeFields] using hnot
  · rfl
  · rw [haddresses]
    simp [inCidrs, itemAdmits, freeFields]
  · simpa [hhosts, itemAdmits, freeFields] using hfresh
  · simp [hhosts, itemAdmits, freeFields, underSuffix_freshText htexts]
  -- the fields that restrict nothing, and those that this core does not know
  all_goals first | rfl | simp_all [itemAdmits, freeFields, sampleCore]

theorem ruleMatches_stray (hr : r ∈ rules) (hm : m.sniffed = none) :
    ruleMatches sampleCore (strayConn rules tag n) m r = admits tag n r := by
  rw [Bool.eq_iff_iff, ruleMatches, admits, List.all_eq_true, List.all_eq_true]
  exact forall₂_congr fun kv hkv => by rw [itemMatches_stray hr hkv hm]

/-- Whatever rules it runs past, nothing is sniffed in it. -/
theorem sniffed_stray (before : List Json) :
    (carry (act sampleCore (strayConn rules tag n)) Meta.start before).sniffed = none := by
  refine FirstMatch.carry_induction (motive := fun m : Meta => m.sniffed = none) rfl ?_
  intro m r m' _ hm hpass
  unfold act perform at hpass
  split at hpass
  · split at hpass
    · cases hpass
      simp [hm, strayConn]
    · cases hpass
      exact hm
    · cases hpass
      exact hm
    all_goals cases hpass
  · cases hpass
    exact hm

variable {core : Core} {c : Conn} {doc : Json} {before after : List Json}

theorem matches_of_admits (h : admits c.inbound c.network r = true) :
    ruleMatches core c m r = true := by
  rw [admits, List.all_eq_true] at h
  rw [ruleMatches, List.all_eq_true]
  rintro ⟨k, v⟩ hkv
  have hitem := h (k, v) hkv
  unfold itemAdmits at hitem
  split at hitem
  · rename_i hk
    obtain rfl : k = "inbound" := hk
    exact hitem
  · split at hitem
    · rename_i hk
      obtain rfl : k = "network" := hk
      exact hitem
    · simp only [freeFields, List.contains_eq_mem, List.mem_cons, List.not_mem_nil, or_false,
        decide_eq_true_eq] at hitem
      rcases hitem with rfl | rfl | rfl | rfl | rfl | rfl | rfl | rfl <;> rfl

theorem admits_of_plain (hplain : Plain r) (h : ruleMatches core c m r = true) :
    admits c.inbound c.network r = true := by
  rw [ruleMatches, List.all_eq_true] at h
  rw [admits, List.all_eq_true]
  rintro ⟨k, v⟩ hkv
  have hitem := h (k, v) hkv
  unfold itemAdmits
  split_ifs with hin hnet
  · obtain rfl : k = "inbound" := hin
    exact hitem
  · obtain rfl : k = "network" := hnet
    exact hitem
  · have hk := hplain (k, v) hkv
    simp only [List.mem_cons] at hk
    simpa using (hk.resolve_left hin).resolve_left hnet

/-- A connection that no rule knows is decided by a plain rule or by none. -/
theorem allDecided_iff_covers : AllDecided doc ↔ Covers doc := by
  constructor
  · intro hall tag htag n
    obtain ⟨verdict, hverdict⟩ := hall sampleCore (strayConn (routeRules doc) tag n) htag
    obtain ⟨before, r, after, m, hrules, hpass, hstop⟩ := FirstMatch.exists_stop hverdict
    have hr : r ∈ routeRules doc := by simp [hrules]
    have hm : m.sniffed = none := by
      rw [← FirstMatch.carry_of_pass hpass]
      exact sniffed_stray before
    obtain ⟨hdecides, hmatch⟩ := stops_iff.mp ⟨verdict, hstop⟩
    exact ⟨r, hr, hdecides, by rw [← ruleMatches_stray hr hm]; exact hmatch⟩
  · intro hcovers core c hin
    obtain ⟨r, hr, hdecides, hadmits⟩ := hcovers c.inbound hin c.network
    obtain ⟨before, after, hrules⟩ := List.append_of_mem hr
    cases heval : eval (act core c) Meta.start (routeRules doc) with
    | stop verdict => exact ⟨verdict, rfl⟩
    | pass m =>
      have hnot : ¬ Caught core c (routeRules doc) := fun h => caught_iff.mp h ⟨m, heval⟩
      exact absurd ⟨before, r, after, hrules, hdecides, matches_of_admits hadmits⟩ hnot

/-- A plain rule is in the shadow of plain rules or of none. -/
theorem shadowed_iff_of_plain (hrules : routeRules doc = before ++ r :: after) (hplain : Plain r) :
    Shadowed doc before r ↔ ∀ tag ∈ inboundTags doc, ∀ n : Network, admits tag n r = true →
      ∃ q ∈ before, Decides q ∧ admits tag n q = true := by
  constructor
  · intro hshadowed tag htag n hadmits
    have hr : r ∈ routeRules doc := by simp [hrules]
    obtain ⟨pre, q, post, rfl, hdecides, hmatch⟩ := hshadowed sampleCore
      (strayConn (routeRules doc) tag n) htag
      ((ruleMatches_stray hr (sniffed_stray before)).trans hadmits)
    have hq : q ∈ routeRules doc := by simp [hrules]
    exact ⟨q, by simp, hdecides,
      by rw [← ruleMatches_stray hq (sniffed_stray pre)]; exact hmatch⟩
  · intro h core c hin hmatch
    obtain ⟨q, hq, hdecides, hadmits⟩ := h c.inbound hin c.network (admits_of_plain hplain hmatch)
    obtain ⟨pre, post, hbefore⟩ := List.append_of_mem hq
    exact ⟨pre, q, post, hbefore, hdecides, matches_of_admits hadmits⟩

end Stray

/-! ### What the count leaves -/

section Count

variable {α : Type}

/-- Parts of a list that do not meet, and what is in none of them. -/
theorem length_of_parts (qs : List (α → Bool)) (l : List α)
    (h : ∀ a ∈ l, qs.countP (fun q => q a) ≤ 1) :
    (qs.map fun q => l.countP q).sum + l.countP (fun a => qs.all fun q => !q a) = l.length := by
  induction l with
  | nil => simp
  | cons a l ih =>
    have hl := ih fun b hb => h b (List.mem_cons_of_mem _ hb)
    have hsum : (qs.map fun q => (a :: l).countP q).sum =
        (qs.map fun q => l.countP q).sum + qs.countP fun q => q a := by
      clear hl ih h
      induction qs with
      | nil => rfl
      | cons q qs ihq =>
        rw [List.map_cons, List.sum_cons, ihq, List.map_cons, List.sum_cons, List.countP_cons,
          List.countP_cons]
        omega
    have hnone : (qs.all fun q => !q a) = true ↔ qs.countP (fun q => q a) = 0 := by
      simp [List.countP_eq_zero]
    have hle := h a List.mem_cons_self
    rw [hsum, List.countP_cons, List.length_cons]
    by_cases hall : (qs.all fun q => !q a) = true
    · rw [if_pos hall, hnone.mp hall]
      omega
    · have hpos : qs.countP (fun q => q a) ≠ 0 := fun h0 => hall (hnone.mpr h0)
      rw [if_neg hall]
      omega

theorem countP_range (lo hi n : Nat) :
    (List.range n).countP (fun i => decide (lo ≤ i) && decide (i < hi)) = min hi n - lo := by
  induction n with
  | zero => simp
  | succ n ih =>
    rw [List.range_succ, List.countP_append, ih, List.countP_singleton]
    by_cases hlo : lo ≤ n
    · by_cases hhi : n < hi
      · simp only [hlo, hhi, decide_true, Bool.and_self, if_true]
        omega
      · simp only [hlo, hhi, decide_true, decide_false, Bool.and_false, Bool.false_eq_true,
          if_false]
        omega
    · simp only [hlo, decide_false, Bool.false_and, Bool.false_eq_true, if_false]
      omega

theorem countP_zipIdx (l : List α) (q : Nat → Bool) :
    l.zipIdx.countP (fun p => q p.2) = (List.range l.length).countP q := by
  rw [List.range_eq_range', ← List.zipIdx_map_snd 0 l, List.countP_map]
  rfl

variable {d : DeploymentConfig} {doc r : Json} {i : Nat}

theorem routeRules_of_ruleArray {rules : List Json} (h : ruleArray doc = some rules) :
    routeRules doc = rules := by
  unfold ruleArray at h
  rw [routeRules, h, Option.getD_some]

/-- What acceptance says: where the last rule and the block are, and that the numbers add up. -/
theorem accepted_spec (h : (relayPolicyFacts d doc).failClosed = true) :
    (∃ last ∈ (routeRules doc).getLast?, last.idx "action" = .str "reject") ∧
      (routeRules doc).length = d.relayTargets.length + 1 +
        (routeRules doc).zipIdx.countP (fun p => outsideBlock (exitBlockAt d doc) p.2 &&
          isHairpinRule p.1) + probeConfinementRuleCount doc +
        ((exitBlockAt d doc).map Prod.snd).getD 0 := by
  unfold relayPolicyFacts at h
  cases hrules : ruleArray doc with
  | none => simp [hrules] at h
  | some rules =>
    have hroute := routeRules_of_ruleArray hrules
    simp only [hrules] at h
    cases hblock : locateExitBlock d rules with
    | none => simp [hblock] at h
    | some found =>
      obtain ⟨block, principals⟩ := found
      have hat : exitBlockAt d doc = block := by rw [exitBlockAt, hroute, hblock]; rfl
      simp only [hblock, Bool.and_eq_true, Option.any_eq_true, decide_eq_true_eq,
        List.filter_filter] at h
      obtain ⟨⟨last, hlast, haction⟩, hlength⟩ := h
      refine ⟨⟨last, by rw [hroute]; exact hlast, haction⟩, ?_⟩
      rw [hat, hroute, List.countP_eq_length_filter, hlength]
      simp only [Bool.and_comm]

theorem exitBlockAt_spec {start len : Nat} (h : exitBlockAt d doc = some (start, len)) :
    ∃ ps, ((routeRules doc).drop start).take len = exitPrincipalRules d ps ∧
      (exitPrincipalRules d ps).length = len := by
  unfold exitBlockAt locateExitBlock at h
  split at h
  · simp at h
  · dsimp only at h
    split_ifs at h with hoff hshort hblock
    · simp at h
    · simp at h
    · simp only [Option.bind_some, Option.some.injEq, Prod.mk.injEq] at h
      obtain ⟨rfl, rfl⟩ := h
      exact ⟨_, hblock, rfl⟩
    · simp at h
  · simp at h

theorem auth_user_of_block (hi : (routeRules doc)[i]? = some r)
    (h : outsideBlock (exitBlockAt d doc) i = false) : (r.get? "auth_user").isSome = true := by
  cases hblock : exitBlockAt d doc with
  | none => simp [hblock, outsideBlock] at h
  | some block =>
    obtain ⟨start, len⟩ := block
    simp only [hblock, outsideBlock, Option.all_some, Bool.or_eq_false_iff,
      decide_eq_false_iff_not, Nat.not_lt, Nat.not_le] at h
    obtain ⟨ps, hrules, -⟩ := exitBlockAt_spec hblock
    have hmem : r ∈ exitPrincipalRules d ps := by
      rw [← hrules]
      refine List.mem_of_getElem? (i := i - start) ?_
      rw [List.getElem?_take_of_lt (by omega), List.getElem?_drop, Nat.add_sub_cancel' h.1, hi]
    rw [auth_user_exitBlock hmem]
    rfl

theorem inBlock_of (h : (!outsideBlock (exitBlockAt d doc) i) = true) :
    ∃ start len ps, locateExitBlock d (routeRules doc) = some (some (start, len), ps) ∧
      start ≤ i ∧ i < start + len := by
  unfold exitBlockAt at h
  cases hfound : locateExitBlock d (routeRules doc) with
  | none => simp [hfound, outsideBlock] at h
  | some found =>
    obtain ⟨_ | ⟨start, len⟩, ps⟩ := found
    · simp [hfound, outsideBlock] at h
    · simp only [hfound, outsideBlock, Option.bind_some, Option.all_some, Bool.not_or,
        Bool.and_eq_true, Bool.not_eq_true', decide_eq_false_iff_not, Nat.not_lt, Nat.not_le] at h
      exact ⟨start, len, ps, rfl, h⟩

theorem probeCount_le : probeConfinementRuleCount doc ≤ (routeRules doc).length := by
  unfold probeConfinementRuleCount
  cases hrules : ruleArray doc with
  | none => exact Nat.zero_le _
  | some rules =>
    have hdrop : ∀ k, 3 ≤ (rules.drop k).length → k + 3 ≤ (routeRules doc).length := by
      intro k hk
      rw [List.length_drop] at hk
      rw [routeRules_of_ruleArray hrules]
      omega
    dsimp only
    split_ifs with _ hprobe hprobe
    · exact hdrop 1 hprobe.1
    · exact Nat.zero_le _
    · exact hdrop 0 hprobe.1
    · exact Nat.zero_le _

theorem auth_user_of_prefix (hi : (routeRules doc)[i]? = some r)
    (h : i < probeConfinementRuleCount doc) : (r.get? "auth_user").isSome = true := by
  unfold probeConfinementRuleCount at h
  cases hrules : ruleArray doc with
  | none => simp [hrules] at h
  | some rules =>
    have hroute := routeRules_of_ruleArray hrules
    rw [hroute] at hi
    have hprobe : ∀ (l : List Json) (k : Nat), (l.take 3).all isProbeRule = true → k < 3 →
        l[k]? = some r → (r.get? "auth_user").isSome = true := by
      intro l k hall hk hget
      have := List.all_eq_true.mp hall r
        (List.mem_of_getElem? (i := k) (by rw [List.getElem?_take_of_lt hk, hget]))
      simp only [isProbeRule, Bool.and_eq_true] at this
      exact this.1.1.1
    simp only [hrules] at h
    split_ifs at h with hloop hall hall
    · -- one exception in front of the three
      obtain ⟨-, hall, -⟩ := hall
      cases i with
      | zero =>
        cases rules with
        | nil => simp at hi
        | cons x rest =>
          simp only [List.getElem?_cons_zero, Option.some.injEq] at hi
          subst hi
          simp only [List.head?_cons, Option.any_some, isLoopbackSelftest, Bool.and_eq_true]
            at hloop
          exact hloop.1.1
      | succ k =>
        refine hprobe _ k hall (by omega) ?_
        rw [List.getElem?_drop, Nat.add_comm, hi]
    · omega
    · obtain ⟨-, hall, -⟩ := hall
      exact hprobe _ i hall (by omega) (by rw [List.drop_zero, hi])
    · omega

theorem action_target (t : RelayTarget) : (relayTargetRule t).idx "action" = .str "route" := by
  rw [relayTargetRule, Json.idx_set (by simp), if_neg]
  · simp [Json.idx_object, Json.lookup_cons_ite]
  · rcases targetItem_key t.host with hk | hk <;> simp [hk]

theorem forward_uncounted (h : (relayPolicyFacts d doc).failClosed = true)
    (hi : (routeRules doc)[i]? = some r) (hr : r ∈ d.relayTargets.map relayTargetRule) :
    (parts d doc).all (fun part => !part (r, i)) = true := by
  have huser : r.get? "auth_user" = none :=
    auth_user_relayEnd (List.mem_append_left [rejectAllRule []] hr)
  have hprefix : ¬ i < probeConfinementRuleCount doc := fun hlt => by
    simpa [huser] using auth_user_of_prefix hi hlt
  have hblock : outsideBlock (exitBlockAt d doc) i = true := by
    by_contra hnot
    simpa [huser] using auth_user_of_block hi (Bool.eq_false_iff.mpr hnot)
  have hlast : i + 1 ≠ (routeRules doc).length := by
    intro heq
    obtain ⟨⟨last, hlast, haction⟩, -⟩ := accepted_spec h
    rw [List.getLast?_eq_getElem?, ← heq, Nat.add_sub_cancel, hi, Option.mem_some_iff] at hlast
    obtain ⟨t, -, rfl⟩ := List.mem_map.mp hr
    rw [← hlast, action_target] at haction
    simp at haction
  simp [parts, hprefix, hblock, hlast, isHairpinRule_of_user huser]

/-- The rules that belong to none of the parts. -/
def uncounted (d : DeploymentConfig) (doc : Json) : List (Json × Nat) :=
  (routeRules doc).zipIdx.filter fun p => (parts d doc).all fun part => !part p

theorem countP_probes : (routeRules doc).zipIdx.countP
    (fun p => decide (p.2 < probeConfinementRuleCount doc)) = probeConfinementRuleCount doc := by
  have hcount := countP_range 0 (probeConfinementRuleCount doc) (routeRules doc).length
  simp only [Nat.zero_le, decide_true, Bool.true_and] at hcount
  rw [countP_zipIdx _ fun i => decide (i < probeConfinementRuleCount doc), hcount,
    Nat.min_eq_left probeCount_le, Nat.sub_zero]

theorem countP_exitBlock : (routeRules doc).zipIdx.countP
    (fun p => !outsideBlock (exitBlockAt d doc) p.2) =
      ((exitBlockAt d doc).map Prod.snd).getD 0 := by
  cases hat : exitBlockAt d doc with
  | none => simp [outsideBlock]
  | some block =>
    obtain ⟨start, len⟩ := block
    obtain ⟨ps, hrules, hps⟩ := exitBlockAt_spec hat
    have hle : len ≤ (routeRules doc).length - start := by
      have hlen := congrArg List.length hrules
      rw [List.length_take, List.length_drop, hps] at hlen
      omega
    have hcount := countP_range start (start + len) (routeRules doc).length
    rw [countP_zipIdx _ fun i => !outsideBlock (some (start, len)) i]
    simp only [outsideBlock, Option.all_some, Bool.not_or, ← decide_not, Nat.not_lt, Nat.not_le,
      hcount, Option.map_some, Option.getD_some]
    omega

theorem countP_last (hpos : 0 < (routeRules doc).length) : (routeRules doc).zipIdx.countP
    (fun p => decide (p.2 + 1 = (routeRules doc).length)) = 1 := by
  have hcount := countP_range ((routeRules doc).length - 1) (routeRules doc).length
    (routeRules doc).length
  rw [Nat.min_self, Nat.sub_sub_self hpos] at hcount
  rw [countP_zipIdx _ fun i => decide (i + 1 = (routeRules doc).length)]
  refine (List.countP_congr fun i _ => ?_).trans hcount
  simp only [decide_eq_true_eq, Bool.and_eq_true]
  omega

/-- Where no rule is counted twice, as many rules are left as targets are declared. -/
theorem length_uncounted (h : (relayPolicyFacts d doc).failClosed = true)
    (honce : CountedOnce d doc) : (uncounted d doc).length = d.relayTargets.length := by
  obtain ⟨-, hlength⟩ := accepted_spec h
  have hpos : 0 < (routeRules doc).length := by omega
  have hparts := length_of_parts (parts d doc) (routeRules doc).zipIdx honce
  simp only [parts, List.map_cons, List.map_nil, List.sum_cons, List.sum_nil, countP_probes,
    countP_exitBlock, countP_last hpos, List.length_zipIdx] at hparts
  rw [uncounted, ← List.countP_eq_length_filter]
  simp only [parts]
  omega

/-- Where no rule is counted twice and the forward rules of all declared targets are there, the
    count leaves room for no other. -/
theorem allHarmless_of_count (h : (relayPolicyFacts d doc).failClosed = true)
    (honce : CountedOnce d doc)
    (htargets : (d.relayTargets.map relayTargetRule).Subperm (routeRules doc))
    (hhairpins : HairpinsHarmless d doc) {before after : List Json}
    (hrules : routeRules doc = before ++ r :: after) : Harmless d doc before.length r := by
  have hsub : (d.relayTargets.map relayTargetRule).Subperm ((uncounted d doc).map Prod.fst) := by
    rw [List.subperm_ext_iff] at htargets ⊢
    intro x hx
    refine (htargets x hx).trans ?_
    conv_lhs => rw [← List.zipIdx_map_fst 0 (routeRules doc)]
    rw [List.count_eq_countP, List.count_eq_countP, List.countP_map, List.countP_map, uncounted,
      List.countP_filter]
    refine List.countP_mono_left fun p hp hpx => ?_
    obtain rfl : p.1 = x := by simpa using hpx
    rw [Bool.and_eq_true]
    exact ⟨hpx, forward_uncounted h (List.mem_zipIdx_iff_getElem?.mp hp) hx⟩
  have hperm := hsub.perm_of_length_le (by
    rw [List.length_map, List.length_map, length_uncounted h honce])
  have hat : (routeRules doc)[before.length]? = some r := by simp [hrules]
  by_cases hcounted : (parts d doc).all (fun part => !part (r, before.length)) = true
  · have hmem : (r, before.length) ∈ uncounted d doc :=
      List.mem_filter.mpr ⟨List.mem_zipIdx_iff_getElem?.mpr hat, hcounted⟩
    exact .inl (.inr (.inl (hperm.symm.subset (List.mem_map_of_mem (f := Prod.fst) hmem))))
  · obtain ⟨part, hpart, htrue⟩ : ∃ part ∈ parts d doc, part (r, before.length) = true := by
      simpa using hcounted
    simp only [parts, List.mem_cons, List.not_mem_nil, or_false] at hpart
    rcases hpart with rfl | rfl | rfl | rfl
    · exact .inl (.inl (of_decide_eq_true htrue))
    · exact .inl (.inr (.inr (.inr (inBlock_of htrue))))
    · exact hhairpins before r after hrules (Bool.and_eq_true .. ▸ htrue).2
    · -- the last rule rejects
      obtain ⟨⟨last, hlast, haction⟩, -⟩ := accepted_spec h
      rw [List.getLast?_eq_getElem?, ← of_decide_eq_true htrue, Nat.add_sub_cancel, hat,
        Option.mem_some_iff] at hlast
      rw [← hlast] at haction
      exact .inr (by rw [ruleAction_of_idx haction]; exact List.mem_cons_self)

end Count

section Main

variable {d : DeploymentConfig} {doc : Json}

def ruleDocument (rules : List Json) : Json :=
  object [("inbounds", .arr [object [("tag", .str REALITY_INBOUND)]]),
    ("route", object [("rules", .arr rules)])]

def rejectNetworks : Json :=
  object [("action", .str "reject"), ("network", strs ["tcp", "udp"])]

/-- A document with two rules: everything goes to `direct`, and a reject nothing reaches. -/
def openDocument : Json :=
  ruleDocument [object [("action", .str "route"), ("outbound", .str "direct")],
    object [("action", .str "reject")]]

end Main

end SingboxVpn
