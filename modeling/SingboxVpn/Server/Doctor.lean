import SingboxVpn.Server.Exit
import SingboxVpn.Server.Relay

namespace SingboxVpn

open Json (object strs lastWins)
open FirstMatch (Outcome eval)

/-!
# The doctor's view of a document

`doctor` does not render: it reads the document in force and recognises the blocks the
renderer writes, by shape and by count.  A rendered document is always recognised.
-/

/-! ### The recognisers -/

def ruleArray (doc : Json) : Option (List Json) := ((doc.idx "route").idx "rules").asArray

def isLoopbackSelftest (r : Json) : Bool :=
  (r.get? "auth_user").isSome && decide (r.get? "ip_cidr" = some (strs ["127.0.0.1/32"])) &&
    decide (r.idx "action" = .str "route")

def isProbeRule (r : Json) : Bool :=
  (r.get? "auth_user").isSome &&
    (decide (r.idx "action" = .str "reject") || (r.get? "ip_cidr").isSome ||
      (r.get? "domain").isSome) &&
    (r.get? "domain_suffix").isNone && (r.get? "inbound").isNone

/-- How many rules at the front belong to the probe confinement. -/
def probeConfinementRuleCount (doc : Json) : Nat :=
  match ruleArray doc with
  | none => 0
  | some rules =>
    -- one leading loopback exception is skipped and counted
    let offset := if rules.head?.any isLoopbackSelftest then 1 else 0
    let rules := rules.drop offset
    if 3 ≤ rules.length ∧ (rules.take 3).all isProbeRule = true ∧
        (rules.getD 2 .null).idx "action" = .str "reject" then offset + 3
    else 0

/-- What `doctor` is told of a relay's document. -/
structure RelayPolicyFacts where
  failClosed : Bool
  targets : Nat
  exitPrincipalRules : Nat
  principals : List String
deriving DecidableEq, Repr

/-- The rule that ends an exit-principal block, by shape. -/
def isExitRoute (r : Json) : Bool :=
  r.isObject && r.fields.length == 4 && decide (r.idx "action" = .str "route") &&
    decide (r.idx "outbound" = .str "direct") &&
    decide (r.idx "inbound" = strs ["vless-reality-in"]) && (r.idx "auth_user").asArray.isSome

def exitRoutes (rules : List Json) : List Nat :=
  (rules.zipIdx.filter fun p => isExitRoute p.1).map Prod.snd

def locateExitBlock (deployment : DeploymentConfig) (rules : List Json) :
    Option (Option (Nat × Nat) × List String) :=
  match exitRoutes rules with
  | [] => some (none, [])
  | [last] =>
    let principals := (((rules.getD last .null).idx "auth_user").asArray.map fun a =>
      a.filterMap Json.asStr).getD []
    let expected := exitPrincipalRules deployment principals
    -- a block on a node that did not opt in is refused
    if !deployment.exitPrincipalsEnabled then none
    else if principals.isEmpty || decide (last + 1 < expected.length) then none
    else
      let start := last + 1 - expected.length
      if (rules.drop start).take expected.length = expected then
        some (some (start, expected.length), principals.insertionSort (· ≤ ·))
      else none
  -- two ends of a block: nothing says which rules belong together
  | _ => none

def outsideBlock (block : Option (Nat × Nat)) (i : Nat) : Bool :=
  block.all fun b => decide (i < b.1) || decide (b.1 + b.2 ≤ i)

def isHairpinRule (r : Json) : Bool :=
  (r.get? "auth_user").isSome &&
    (decide (r.get? "action" = some (.str "sniff")) || (r.get? "domain_suffix").isSome)

/-- The check of a relay's document, by shape and by count. -/
def relayPolicyFacts (deployment : DeploymentConfig) (doc : Json) : RelayPolicyFacts :=
  let targets := deployment.relayTargets.length
  let refused : RelayPolicyFacts := ⟨false, targets, 0, []⟩
  match ruleArray doc with
  | none => refused
  | some rules =>
    match locateExitBlock deployment rules with
    | none => refused
    | some (block, principals) =>
      -- the block's own rules are left out, its sniff rules would count as hairpin rules
      let hairpinRules := ((rules.zipIdx.filter fun p => outsideBlock block p.2).filter
        fun p => isHairpinRule p.1).length
      let blockLen := (block.map Prod.snd).getD 0
      ⟨(rules.getLast?.any fun last => decide (last.idx "action" = .str "reject")) &&
          decide (rules.length = targets + 1 + hairpinRules + probeConfinementRuleCount doc +
            blockLen),
        targets, blockLen, principals⟩

/-- The exact check of an exit's document. -/
def exitEgressPolicyMatches (deployment : DeploymentConfig) (doc : Json) : Bool :=
  match ruleArray doc with
  | none => false
  | some all =>
    let offset := probeConfinementRuleCount doc
    if all.length < offset then false
    else
      let tail := all.drop offset
      let tags := inboundTags doc
      let c16 := c16EgressDenyRules tags ++ (ownAddressDenyRule tags
        (some deployment.publicHost) deployment.publicIpv4 deployment.publicIpv6).toList
      if c16 <+: tail then
        let hairpin := deployment.googleEgressHairpin.isSome
        let expected := exitEgressRules deployment hairpin ++
          if hairpin then [hairpinRouteRule] else []
        decide (tail.drop c16.length = expected) &&
          decide ((doc.idx "route").idx "final" = .str "direct")
      else false

/-! ### Recognising blocks in a list -/

section Lists

variable {α : Type} {q : α → Bool} {k : Nat}

theorem filter_zipIdx_eq_nil {l : List α} (h : ∀ a ∈ l, q a = false) :
    ((l.zipIdx k).filter fun p => q p.1) = [] := by
  rw [List.filter_eq_nil_iff]
  intro p hp
  rw [h p.1 (List.fst_mem_of_mem_zipIdx hp)]
  exact Bool.false_ne_true

theorem positions_unique {pre post : List α} {a : α} (hpre : ∀ b ∈ pre, q b = false)
    (ha : q a = true) (hpost : ∀ b ∈ post, q b = false) :
    ((pre ++ a :: post).zipIdx.filter fun p => q p.1).map Prod.snd = [pre.length] := by
  rw [List.zipIdx_append, List.filter_append, filter_zipIdx_eq_nil hpre, List.nil_append,
    List.zipIdx_cons, List.filter_cons, if_pos ha, filter_zipIdx_eq_nil hpost]
  simp

theorem length_filter_zipIdx (l : List α) :
    ((l.zipIdx k).filter fun p => q p.1).length = (l.filter q).length := by
  rw [← List.countP_eq_length_filter, ← List.countP_eq_length_filter]
  conv_rhs => rw [← List.zipIdx_map_fst k l, List.countP_map]
  rfl

theorem count_outsideBlock (pre window post : List α) :
    (((pre ++ (window ++ post)).zipIdx.filter
      fun p => outsideBlock (some (pre.length, window.length)) p.2).filter
        fun p => q p.1).length = (pre.filter q).length + (post.filter q).length := by
  have hpre : (pre.zipIdx.filter
      fun p => outsideBlock (some (pre.length, window.length)) p.2) = pre.zipIdx := by
    rw [List.filter_eq_self]
    intro p hp
    have := List.snd_lt_of_mem_zipIdx hp
    simp only [Nat.add_zero] at this
    simp [outsideBlock, this]
  have hwindow : ((window.zipIdx (0 + pre.length)).filter
      fun p => outsideBlock (some (pre.length, window.length)) p.2) = [] := by
    rw [List.filter_eq_nil_iff]
    intro p hp
    have hlt := List.snd_lt_of_mem_zipIdx hp
    have hle := List.le_snd_of_mem_zipIdx hp
    simp only [outsideBlock, Option.all_some, Bool.or_eq_true, decide_eq_true_eq]
    omega
  have hpost : ((post.zipIdx (0 + pre.length + window.length)).filter
      fun p => outsideBlock (some (pre.length, window.length)) p.2) =
        post.zipIdx (0 + pre.length + window.length) := by
    rw [List.filter_eq_self]
    intro p hp
    have hle := List.le_snd_of_mem_zipIdx hp
    simp only [outsideBlock, Option.all_some, Bool.or_eq_true, decide_eq_true_eq]
    omega
  simp only [List.zipIdx_append, List.filter_append, hpre, hwindow, hpost, List.nil_append,
    List.length_append, length_filter_zipIdx]

end Lists

/-! ### The rendered blocks, by shape -/

section Shapes

variable {d : DeploymentConfig} {r : Json}

theorem length_fields_object (kvs : List (String × Json)) :
    (object kvs).fields.length = (lastWins kvs).length := (Json.fields_object_perm kvs).length_eq

theorem isProbeRule_of_inbound (h : (r.get? "inbound").isSome = true) : isProbeRule r = false := by
  obtain ⟨v, hv⟩ := Option.isSome_iff_exists.mp h
  simp [isProbeRule, hv]

theorem isLoopbackSelftest_of_cidr (h : r.get? "ip_cidr" = none) :
    isLoopbackSelftest r = false := by
  simp [isLoopbackSelftest, h]

theorem isLoopbackSelftest_of_action (h : r.idx "action" ≠ .str "route") :
    isLoopbackSelftest r = false := by
  simp [isLoopbackSelftest, h]

theorem isLoopbackSelftest_of_user (h : r.get? "auth_user" = none) :
    isLoopbackSelftest r = false := by
  simp [isLoopbackSelftest, h]

theorem isExitRoute_of_action (h : r.idx "action" ≠ .str "route") : isExitRoute r = false := by
  simp [isExitRoute, h]

theorem isExitRoute_of_user (h : r.get? "auth_user" = none) : isExitRoute r = false := by
  simp [isExitRoute, Json.idx, h, Json.asArray]

theorem isHairpinRule_of_user (h : r.get? "auth_user" = none) : isHairpinRule r = false := by
  simp [isHairpinRule, h]

theorem shape_hairpin {p : String} (h : r ∈ hairpinRules d p) :
    (r.get? "inbound").isSome = true ∧ r.get? "ip_cidr" = none ∧ isExitRoute r = false ∧
      isHairpinRule r = true := by
  unfold hairpinRules hairpinSpoofRules at h
  simp only [List.mem_append, List.mem_singleton] at h
  rcases h with (rfl | h) | rfl
  · refine ⟨?_, ?_, isExitRoute_of_action ?_, ?_⟩ <;>
      simp [isHairpinRule, Json.get?_object, Json.idx_object, Json.lookup_cons_ite]
  · split at h
    · cases h
    · rw [List.mem_singleton.mp h]
      refine ⟨?_, ?_, isExitRoute_of_action ?_, ?_⟩ <;>
        simp [isHairpinRule, Json.get?_object, Json.idx_object, Json.lookup_cons_ite]
  · -- the same fields as the end of an exit block, and a domain field more
    refine ⟨?_, ?_, ?_, ?_⟩
    · simp [Json.get?_object, Json.lookup_cons_ite]
    · simp [Json.get?_object, Json.lookup_cons_ite]
    · simp [isExitRoute, length_fields_object, lastWins]
    · simp [isHairpinRule, Json.get?_object, Json.lookup_cons_ite]

theorem shape_loopback (ids : List String) :
    isLoopbackSelftest (relayLoopbackRule d ids) = true ∧
      isExitRoute (relayLoopbackRule d ids) = false ∧
      isHairpinRule (relayLoopbackRule d ids) = false := by
  unfold relayLoopbackRule
  refine ⟨?_, ?_, ?_⟩
  · simp [isLoopbackSelftest, Json.get?_object, Json.idx_object, Json.lookup_cons_ite]
  · simp [isExitRoute, length_fields_object, lastWins]
  · simp [isHairpinRule, Json.get?_object, Json.lookup_cons_ite]

theorem shape_exitLoopback (ids : List String) :
    isLoopbackSelftest (exitLoopbackRule d ids) = true := by
  simp [exitLoopbackRule, isLoopbackSelftest, Json.get?_object, Json.idx_object,
    Json.lookup_cons_ite]

theorem shape_probe {ids : List String} (h : r ∈ probeConfinementRules ids) :
    isProbeRule r = true ∧ isExitRoute r = false ∧ isHairpinRule r = false := by
  simp only [probeConfinementRules, List.mem_cons, List.not_mem_nil, or_false] at h
  rcases h with rfl | rfl | rfl <;> refine ⟨?_, ?_, ?_⟩ <;>
    simp [isProbeRule, isExitRoute, isHairpinRule, Json.get?_object, Json.idx_object,
      Json.lookup_cons_ite, length_fields_object, lastWins]

def exitRouteRule (ps : List String) : Json :=
  scopeRule ps (object [("action", .str "route"), ("outbound", .str "direct")])

variable {ps : List String}

theorem exitPrincipalRules_split (h : ps ≠ []) :
    exitPrincipalRules d ps = (exitBlockFront d).map (scopeRule ps) ++ [exitRouteRule ps] := by
  rw [exitPrincipalRules_eq, if_neg h, exitBlock_eq, List.map_append]
  rfl

theorem isExitRoute_exitRoute (ps : List String) : isExitRoute (exitRouteRule ps) = true := by
  have hlen : (exitRouteRule ps).fields.length = 4 := by
    rw [exitRouteRule, scopeRule, Json.set_object, Json.set_object, length_fields_object]
    simp [lastWins]
  have hidx : ∀ k, (exitRouteRule ps).idx k =
      if k = "auth_user" then strs ps
      else if k = "inbound" then strs [REALITY_INBOUND]
      else (object [("action", .str "route"), ("outbound", .str "direct")]).idx k := by
    intro k
    rw [exitRouteRule, scopeRule, Json.idx_set (by simp), Json.idx_set (by simp)]
  simp only [isExitRoute, hlen, hidx]
  simp [exitRouteRule, scopeRule, Json.idx_object, Json.lookup_cons_ite, REALITY_INBOUND]

theorem shape_exitFront (h : r ∈ (exitBlockFront d).map (scopeRule ps)) :
    isExitRoute r = false ∧ isLoopbackSelftest r = false := by
  obtain ⟨r', hr', rfl⟩ := List.mem_map.mp h
  obtain ⟨hscopable, hroute⟩ := guards_exitBlockFront hr'
  have haction : (scopeRule ps r').idx "action" ≠ .str "route" := by
    obtain ⟨kvs, rfl, -, -⟩ := hscopable
    rw [scopeRule, Json.idx_set (by simp), if_neg (by decide), Json.idx_set (by simp),
      if_neg (by decide)]
    exact hroute
  exact ⟨isExitRoute_of_action haction, isLoopbackSelftest_of_action haction⟩

theorem inbound_exitBlock (h : r ∈ exitPrincipalRules d ps) : (r.get? "inbound").isSome = true := by
  rw [exitPrincipalRules_eq] at h
  split at h
  · cases h
  · obtain ⟨r', hr', rfl⟩ := List.mem_map.mp h
    obtain ⟨kvs, rfl, -, -⟩ := scopable_exitBlock hr'
    rw [scopeRule, Json.get?_set (by simp), if_neg (by decide), Json.get?_set (by simp),
      if_pos rfl]
    rfl

theorem shape_exitBlock (h : r ∈ exitPrincipalRules d ps) : isLoopbackSelftest r = false := by
  by_cases hps : ps = []
  · rw [exitPrincipalRules_eq, if_pos hps] at h
    cases h
  · rw [exitPrincipalRules_split hps, List.mem_append, List.mem_singleton] at h
    rcases h with h | rfl
    · exact (shape_exitFront h).2
    · refine isLoopbackSelftest_of_cidr ?_
      rw [exitRouteRule, scopeRule, Json.get?_set (by simp), if_neg (by decide),
        Json.get?_set (by simp), if_neg (by decide)]
      simp [Json.get?_object, Json.lookup_cons_ite]

theorem shape_relayEnd {tags : List Json}
    (h : r ∈ d.relayTargets.map relayTargetRule ++ [rejectAllRule tags]) :
    (r.get? "inbound").isSome = true ∧ isLoopbackSelftest r = false ∧ isExitRoute r = false ∧
      isHairpinRule r = false := by
  have huser := auth_user_relayEnd h
  refine ⟨?_, isLoopbackSelftest_of_user huser, isExitRoute_of_user huser,
    isHairpinRule_of_user huser⟩
  rcases List.mem_append.mp h with h | h
  · obtain ⟨t, -, rfl⟩ := List.mem_map.mp h
    unfold relayTargetRule
    rw [Json.get?_set (by simp), if_neg]
    · simp [Json.get?_object]
    · rcases targetItem_key t.host with hk | hk <;> simp [hk]
  · rw [List.mem_singleton.mp h]
    simp [rejectAllRule, Json.get?_object, Json.lookup_cons_ite]

end Shapes

/-! ### Rendered documents are accepted -/

section Accepted

variable {ext : External} {d : DeploymentConfig} {users : List CompatUser}
  {reality : RealityServerParams} {hysteria : Hysteria2ServerParams} {now : Int} {doc : Json}

def renderedPrincipals (users : List CompatUser) (now : Int) : List String :=
  (authorizedGrants users now).map fun ug => ug.2.principalId

def FlagsExclusive (users : List CompatUser) : Prop :=
  ∀ u ∈ users, ¬ (u.isReservedProbe = true ∧ u.googleEgressHairpin = true) ∧
    ¬ (u.isReservedProbe = true ∧ u.exitPrincipal = true) ∧
    ¬ (u.googleEgressHairpin = true ∧ u.exitPrincipal = true)

variable {u : CompatUser} {p : String} {r : Json} {rest : List Json}

theorem mem_authorizedGrants (hu : u ∈ users) (hp : p ∈ u.activePrincipalIds now) :
    ∃ g, (u, g) ∈ authorizedGrants users now ∧ g.principalId = p := by
  have hactive := CompatUser.isActive_of_mem hp
  rw [CompatUser.activePrincipalIds_of_active hactive] at hp
  obtain ⟨g, hg, rfl⟩ := List.mem_map.mp hp
  exact ⟨g, mem_authorizedGrants_iff.mpr ⟨hu, hactive, hg⟩, rfl⟩

theorem owner_unique (hnodup : (renderedPrincipals users now).Nodup) {v : CompatUser}
    (hu : u ∈ users) (hv : v ∈ users) (hpu : p ∈ u.activePrincipalIds now)
    (hpv : p ∈ v.activePrincipalIds now) : u = v := by
  obtain ⟨g, hg, hgp⟩ := mem_authorizedGrants hu hpu
  obtain ⟨g', hg', hgp'⟩ := mem_authorizedGrants hv hpv
  have := List.inj_on_of_nodup_map hnodup hg hg' (hgp.trans hgp'.symm)
  exact congrArg Prod.fst this

theorem hairpins_not_probes (hnodup : (renderedPrincipals users now).Nodup)
    (hflags : FlagsExclusive users) :
    ∀ p ∈ hairpinPrincipals users now, p ∉ probeIds users now := by
  intro p hp hprobe
  obtain ⟨u, hu, hhair, hpu⟩ := mem_principalsOf.mp hp
  obtain ⟨v, hv, hflag, hpv⟩ := mem_principalsOf.mp hprobe
  obtain rfl := owner_unique hnodup hu hv hpu hpv
  exact (hflags u hu).1 ⟨hflag, hhair⟩

theorem exits_not_probes (hnodup : (renderedPrincipals users now).Nodup)
    (hflags : FlagsExclusive users) :
    ∀ p ∈ exitPrincipalIds d users now, p ∉ probeIds users now := by
  intro p hp hprobe
  unfold exitPrincipalIds at hp
  split at hp
  · cases hp
  · obtain ⟨u, hu, hexit, hpu⟩ := mem_principalsOf.mp hp
    obtain ⟨v, hv, hflag, hpv⟩ := mem_principalsOf.mp hprobe
    obtain rfl := owner_unique hnodup hu hv hpu hpv
    simp only [Bool.and_eq_true] at hexit
    exact (hflags u hu).2.1 ⟨hflag, hexit.1.1⟩

def relayProbePrefix (d : DeploymentConfig) (ids : List String) : List Json :=
  if ids = [] then [] else relayLoopbackRule d ids :: probeConfinementRules ids

/-- Where no probe principal has another flag, the confinement directly follows the loopback
    exception. -/
theorem relayFinalRules_of_disjoint
    (hhair : ∀ p ∈ hairpinPrincipals users now, p ∉ probeIds users now)
    (hexit : ∀ p ∈ exitPrincipalIds d users now, p ∉ probeIds users now) :
    relayFinalRules d users now = relayProbePrefix d (probeIds users now) ++
      ((hairpinPrincipals users now).flatMap (hairpinRules d) ++
        (exitPrincipalRules d (exitPrincipalIds d users now) ++
          (d.relayTargets.map relayTargetRule ++
            [rejectAllRule (INBOUND_TAGS.map Json.str)]))) := by
  have hearly : earlyHairpins users now = [] := by
    unfold earlyHairpins
    cases hps : hairpinPrincipals users now with
    | nil => rfl
    | cons p rest =>
      rw [List.takeWhile_cons_of_neg]
      simpa using hhair p (by simp [hps])
  have hlate : lateHairpins users now = hairpinPrincipals users now := by
    have := List.takeWhile_append_dropWhile (p := fun p => decide (p ∈ probeIds users now))
      (l := hairpinPrincipals users now)
    unfold earlyHairpins at hearly
    rw [hearly, List.nil_append] at this
    exact this
  have hblock : ((if exitBlockEarly d users now then
        exitPrincipalRules d (exitPrincipalIds d users now) else []) = []) ∧
      (if exitBlockEarly d users now then []
        else exitPrincipalRules d (exitPrincipalIds d users now)) =
          exitPrincipalRules d (exitPrincipalIds d users now) := by
    by_cases hb : exitBlockEarly d users now
    -- a block in front of the confinement has probe principals only, and there are none
    · have hnil : exitPrincipalIds d users now = [] :=
        List.eq_nil_iff_forall_not_mem.mpr fun p hp => hexit p hp (hb.2 p hp)
      rw [if_pos hb, if_pos hb, hnil]
      exact ⟨rfl, rfl⟩
    · rw [if_neg hb, if_neg hb]
      exact ⟨rfl, rfl⟩
  unfold relayFinalRules relayTail relayProbePrefix
  rw [hearly, hlate, hblock.1, hblock.2]
  by_cases hids : probeIds users now = []
  · simp [hids]
  · simp [hids]

theorem ruleArray_of_routeRules {rules : List Json} (h : routeRules doc = rules)
    (hne : rules ≠ []) : ruleArray doc = some rules := by
  unfold routeRules at h
  unfold ruleArray
  cases ha : ((doc.idx "route").idx "rules").asArray with
  | none =>
    rw [ha, Option.getD_none] at h
    exact absurd h.symm hne
  | some rs =>
    rw [ha, Option.getD_some] at h
    rw [h]

theorem probeCount_eq_zero (h : ruleArray doc = some (r :: rest))
    (hloop : isLoopbackSelftest r = false) (hprobe : isProbeRule r = false) :
    probeConfinementRuleCount doc = 0 := by
  unfold probeConfinementRuleCount
  rw [h]
  simp only [List.head?_cons, Option.any_some, hloop, Bool.false_eq_true, if_false,
    List.drop_zero]
  rw [if_neg]
  rintro ⟨-, hall, -⟩
  rw [List.take_succ_cons, List.all_cons, hprobe] at hall
  simp at hall

theorem probeCount_eq_four {ids : List String}
    (h : ruleArray doc = some (r :: (probeConfinementRules ids ++ rest)))
    (hloop : isLoopbackSelftest r = true) : probeConfinementRuleCount doc = 4 := by
  have hlen : (probeConfinementRules ids).length = 3 := rfl
  unfold probeConfinementRuleCount
  rw [h]
  simp only [List.head?_cons, Option.any_some, hloop, if_true, List.drop_succ_cons,
    List.drop_zero]
  rw [if_pos]
  refine ⟨by simp [hlen], ?_, ?_⟩
  · rw [List.take_append_of_le_length (by simp [hlen]), List.take_of_length_le (by simp [hlen]),
      List.all_eq_true]
    exact fun r hr => (shape_probe hr).1
  · simp [probeConfinementRules, Json.idx_object, Json.lookup_cons_ite]

/-- A relay's document with nothing else in front of the confinement: the block is found
    where it is. -/
theorem locateExitBlock_relay {before after : List Json} {ps : List String}
    (henabled : ps ≠ [] → d.exitPrincipalsEnabled = true)
    (hbefore : ∀ r ∈ before, isExitRoute r = false)
    (hafter : ∀ r ∈ after, isExitRoute r = false) :
    locateExitBlock d (before ++ (exitPrincipalRules d ps ++ after)) =
      if ps = [] then some (none, [])
      else some (some (before.length, (exitPrincipalRules d ps).length),
        ps.insertionSort (· ≤ ·)) := by
  by_cases hps : ps = []
  · have hroutes : exitRoutes (before ++ (exitPrincipalRules d ps ++ after)) = [] := by
      rw [exitPrincipalRules_eq, if_pos hps, List.nil_append, exitRoutes, filter_zipIdx_eq_nil]
      · rfl
      · exact fun r hr => (List.mem_append.mp hr).elim (hbefore r) (hafter r)
    rw [if_pos hps, locateExitBlock, hroutes]
  rw [if_neg hps]
  -- the end of the block is the only rule that looks like one
  have hsplit : before ++ (exitPrincipalRules d ps ++ after) =
      (before ++ (exitBlockFront d).map (scopeRule ps)) ++ exitRouteRule ps :: after := by
    rw [exitPrincipalRules_split hps]
    simp
  have hlen : (exitPrincipalRules d ps).length = (exitBlockFront d).length + 1 := by
    rw [exitPrincipalRules_split hps]
    simp
  have hroutes : exitRoutes (before ++ (exitPrincipalRules d ps ++ after)) =
      [before.length + (exitBlockFront d).length] := by
    rw [hsplit, exitRoutes, positions_unique _ (isExitRoute_exitRoute ps) hafter]
    · simp
    · intro r hr
      exact (List.mem_append.mp hr).elim (hbefore r) fun hr => (shape_exitFront hr).1
  have hget : (before ++ (exitPrincipalRules d ps ++ after)).getD
      (before.length + (exitBlockFront d).length) .null = exitRouteRule ps := by
    rw [hsplit]
    simp
  have huser : (exitRouteRule ps).idx "auth_user" = strs ps := by
    rw [exitRouteRule, scopeRule, Json.idx_set (by simp), if_pos rfl]
  have hnames : (strs ps).asArray.map (fun a => a.filterMap Json.asStr) = some ps := by
    rw [Json.asArray_strs, Option.map_some, Json.filterMap_asStr_map_str]
  have hstart : before.length + (exitBlockFront d).length + 1 -
      (exitPrincipalRules d ps).length = before.length := by
    rw [hlen]
    omega
  unfold locateExitBlock
  rw [hroutes]
  simp only [hget, huser, hnames, Option.getD_some, henabled hps, hstart]
  have hnotlt : ¬ before.length + (exitBlockFront d).length + 1 <
      (exitPrincipalRules d ps).length := by
    rw [hlen]
    omega
  have hempty : ps.isEmpty = false := by simpa using hps
  rw [if_neg (by simp), if_neg (by simp [hempty, hnotlt]), List.drop_left, List.take_left,
    if_pos rfl]

theorem shape_relayFront
    (h : r ∈ relayProbePrefix d (probeIds users now) ++ (hairpinPrincipals users now).flatMap
      (hairpinRules d)) :
    isExitRoute r = false := by
  rcases List.mem_append.mp h with h | h
  · unfold relayProbePrefix at h
    split at h
    · cases h
    · rcases List.mem_cons.mp h with rfl | h
      · exact (shape_loopback _).2.1
      · exact (shape_probe h).2.1
  · obtain ⟨p, -, hr⟩ := List.mem_flatMap.mp h
    exact (shape_hairpin hr).2.2.1

theorem filter_relayFront :
    (relayProbePrefix d (probeIds users now) ++
      (hairpinPrincipals users now).flatMap (hairpinRules d)).filter isHairpinRule =
        (hairpinPrincipals users now).flatMap (hairpinRules d) := by
  have hprobe : (relayProbePrefix d (probeIds users now)).filter isHairpinRule = [] := by
    rw [List.filter_eq_nil_iff]
    intro r hr
    unfold relayProbePrefix at hr
    split at hr
    · cases hr
    · rcases List.mem_cons.mp hr with rfl | hr
      · simp [(shape_loopback _).2.2]
      · simp [(shape_probe hr).2.2]
  rw [List.filter_append, hprobe, List.nil_append, List.filter_eq_self]
  intro r hr
  obtain ⟨p, -, hr⟩ := List.mem_flatMap.mp hr
  exact (shape_hairpin hr).2.2.2

theorem filter_relayEnd (tags : List Json) :
    (d.relayTargets.map relayTargetRule ++ [rejectAllRule tags]).filter isHairpinRule = [] := by
  rw [List.filter_eq_nil_iff]
  intro r hr
  simp [(shape_relayEnd hr).2.2.2]

theorem probeCount_relay
    (hrules : ruleArray doc = some (relayProbePrefix d (probeIds users now) ++ rest))
    (hne : rest ≠ []) (hrest : ∀ r ∈ rest, isLoopbackSelftest r = false ∧ isProbeRule r = false) :
    probeConfinementRuleCount doc = (relayProbePrefix d (probeIds users now)).length := by
  unfold relayProbePrefix at hrules ⊢
  by_cases hids : probeIds users now = []
  · rw [if_pos hids, List.nil_append] at hrules
    rw [if_pos hids]
    obtain ⟨r, rs, rfl⟩ := List.exists_cons_of_ne_nil hne
    obtain ⟨hloop, hprobe⟩ := hrest r List.mem_cons_self
    exact probeCount_eq_zero hrules hloop hprobe
  · rw [if_neg hids, List.cons_append] at hrules
    rw [if_neg hids, probeCount_eq_four hrules (shape_loopback _).1]
    rfl

theorem enabled_of_exitPrincipals (h : exitPrincipalIds d users now ≠ []) :
    d.exitPrincipalsEnabled = true := by
  by_contra he
  simp [exitPrincipalIds, he] at h

theorem relayPolicyFacts_of_rules
    (hrules : ruleArray doc = some (relayProbePrefix d (probeIds users now) ++
      ((hairpinPrincipals users now).flatMap (hairpinRules d) ++
        (exitPrincipalRules d (exitPrincipalIds d users now) ++
          (d.relayTargets.map relayTargetRule ++
            [rejectAllRule (INBOUND_TAGS.map Json.str)]))))) :
    (relayPolicyFacts d doc).failClosed = true ∧
      (relayPolicyFacts d doc).principals =
        (exitPrincipalIds d users now).insertionSort (· ≤ ·) := by
  -- no rule behind the prefix looks like a probe rule
  have hcount := probeCount_relay hrules (by simp) (by
    intro r hr
    simp only [List.mem_append (s := (hairpinPrincipals users now).flatMap (hairpinRules d)),
      List.mem_append (s := exitPrincipalRules d (exitPrincipalIds d users now))] at hr
    rcases hr with hr | hr | hr
    · obtain ⟨p, -, hr⟩ := List.mem_flatMap.mp hr
      obtain ⟨hin, hcidr, -, -⟩ := shape_hairpin hr
      exact ⟨isLoopbackSelftest_of_cidr hcidr, isProbeRule_of_inbound hin⟩
    · exact ⟨shape_exitBlock hr, isProbeRule_of_inbound (inbound_exitBlock hr)⟩
    · obtain ⟨hin, hloop, -, -⟩ := shape_relayEnd hr
      exact ⟨hloop, isProbeRule_of_inbound hin⟩)
  have hlocate := @locateExitBlock_relay d
    (relayProbePrefix d (probeIds users now) ++
      (hairpinPrincipals users now).flatMap (hairpinRules d))
    (d.relayTargets.map relayTargetRule ++ [rejectAllRule (INBOUND_TAGS.map Json.str)])
    (exitPrincipalIds d users now) enabled_of_exitPrincipals
    (fun r hr => shape_relayFront hr) (fun r hr => (shape_relayEnd hr).2.2.1)
  have hreject : (rejectAllRule (INBOUND_TAGS.map Json.str)).idx "action" = .str "reject" := by
    simp [rejectAllRule, Json.idx_object, Json.lookup_cons_ite]
  rw [← List.append_assoc] at hrules
  unfold relayPolicyFacts
  rw [hrules]
  simp only [hlocate, hcount]
  -- both ways the count comes out: targets, reject, hairpin rules, prefix and block
  by_cases hps : exitPrincipalIds d users now = []
  · rw [if_pos hps]
    simp only [hps, exitPrincipalRules_eq, if_true, List.nil_append]
    have hall : ∀ i, outsideBlock none i = true := fun _ => rfl
    simp only [hall, List.filter_true, length_filter_zipIdx]
    rw [List.filter_append, filter_relayFront, filter_relayEnd]
    simp [hreject]
    omega
  · rw [if_neg hps]
    simp only [count_outsideBlock, filter_relayFront, filter_relayEnd]
    simp [hreject]
    omega

theorem probeCount_exit {active : Bool}
    (hrules : ruleArray doc = some (exitRules d users now active)) :
    probeConfinementRuleCount doc =
      (if probeIds users now = [] then []
        else exitLoopbackRule d (probeIds users now) ::
          probeConfinementRules (probeIds users now)).length := by
  unfold exitRules at hrules
  by_cases hids : probeIds users now = []
  · rw [if_pos hids]
    rw [if_pos hids, List.nil_append, c16EgressDenyRules, List.cons_append, List.cons_append,
      List.cons_append] at hrules
    refine probeCount_eq_zero hrules (isLoopbackSelftest_of_user ?_) (isProbeRule_of_inbound ?_)
    · simp [Json.get?_object, Json.lookup_cons_ite]
    · simp [Json.get?_object]
  · rw [if_neg hids]
    rw [if_neg hids, List.cons_append] at hrules
    rw [probeCount_eq_four hrules (shape_exitLoopback _)]
    rfl

theorem exitEgressPolicyMatches_of_rules
    (hrules : ruleArray doc = some (exitRules d users now d.googleEgressHairpin.isSome))
    (htags : inboundTags doc = INBOUND_TAGS)
    (hfinal : (doc.idx "route").idx "final" = .str "direct") :
    exitEgressPolicyMatches d doc = true := by
  have hcount := probeCount_exit hrules
  unfold exitEgressPolicyMatches
  rw [hrules]
  simp only [hcount, htags, hfinal]
  unfold exitRules
  rw [if_neg (by simp), List.drop_left, if_pos (List.prefix_append _ _), List.drop_left]
  simp

/-- The doctor accepts what the renderer writes: of a relay it reports the exit principals
    in force, and an exit's policy matches. -/
theorem doctor_accepts_rendered
    (h : renderServerConfigForDeployment ext d users reality hysteria now = .ok doc)
    (hnodup : (renderedPrincipals users now).Nodup) (hflags : FlagsExclusive users)
    (huuid : reality.googleEgressHairpinUuid.isSome = d.googleEgressHairpin.isSome) :
    (d.role = .relay → (relayPolicyFacts d doc).failClosed = true ∧
      (relayPolicyFacts d doc).principals =
        (exitPrincipalIds d users now).insertionSort (· ≤ ·)) ∧
    (d.role = .exit → exitEgressPolicyMatches d doc = true) := by
  constructor
  · intro hrole
    have hrules := (relay_document hrole h).1
    rw [relayFinalRules_of_disjoint (hairpins_not_probes hnodup hflags)
      (exits_not_probes hnodup hflags)] at hrules
    exact relayPolicyFacts_of_rules (ruleArray_of_routeRules hrules (by simp))
  · intro hrole
    obtain ⟨hrules, hfinal, -, -⟩ := exit_document hrole h
    -- the check goes by the section alone, rendering also needs the credential
    have hactive : hairpinActive d reality = d.googleEgressHairpin.isSome := by
      rw [hairpinActive, huuid, Bool.and_self]
    rw [hactive] at hrules
    refine exitEgressPolicyMatches_of_rules (ruleArray_of_routeRules hrules ?_)
      (exit_inboundTags hrole h) hfinal
    simp [exitRules, c16EgressDenyRules]

def sampleAccounts : List CompatUser :=
  [{ sampleUser with isReservedProbe := true },
    { sampleUser with id := "user_2", googleEgressHairpin := true },
    { sampleUser with id := "user_3", exitPrincipal := true }]

/-- A relay with one account of each kind is accepted. -/
theorem doctor_accepts_rendered_relay :
    ∃ doc, renderServerConfigForDeployment sampleExternal sampleRelay sampleAccounts
        sampleReality sampleHysteria 0 = .ok doc ∧
      (relayPolicyFacts sampleRelay doc).failClosed = true ∧
      (relayPolicyFacts sampleRelay doc).principals = ["user_3"] := by
  obtain ⟨doc, hdoc⟩ := sampleRelay_renders sampleAccounts 0 rfl
  have hflags : FlagsExclusive sampleAccounts := by
    unfold FlagsExclusive
    decide
  have hfacts := (doctor_accepts_rendered hdoc (by decide) hflags rfl).1 rfl
  refine ⟨doc, hdoc, hfacts.1, ?_⟩
  rw [hfacts.2]
  decide

end Accepted

end SingboxVpn
