import SingboxVpn.Server.Blocks

namespace SingboxVpn

open Json (object strs)
open FirstMatch (spliceAfter insertAll_takeWhile spliceAfter_append spliceAfter_of_head)

/-!
# The shape of rendered documents

The renderer edits one document step by step, and each edit inserts rules at a position it
computes.  Here the edits are carried out once: the rule list of a rendered document is a
plain concatenation of blocks, and its inbounds, outbounds and final outbound are known.

* `exitRules`, `exit_document` — an exit's document.
* `relayFinalRules`, `relay_document` — a relay's document.
-/

/-! ### Edits of the route section -/

structure RouteIs (base doc : Json) (rules : List Json) (final : Json) : Prop where
  isObject : doc.isObject = true
  route : (doc.idx "route").isObject = true ∨ doc.idx "route" = .null
  rules_eq : routeRules doc = rules
  final_eq : (doc.idx "route").idx "final" = final
  sections : ∀ k, k ≠ "route" → doc.idx k = base.idx k

namespace RouteIs

variable {base doc : Json} {rules : List Json} {final : Json}

theorem setMember (h : RouteIs base doc rules final) (k : String) (v : Json) :
    let doc' := doc.set "route" ((doc.idx "route").set k v)
    doc'.isObject = true ∧ (doc'.idx "route").isObject = true ∧
      (∀ k', (doc'.idx "route").idx k' = if k' = k then v else (doc.idx "route").idx k') ∧
      ∀ k', k' ≠ "route" → doc'.idx k' = base.idx k' := by
  have hobj : ((doc.idx "route").set k v).isObject = true := by
    rw [Json.isObject_set]
    rcases h.route with hr | hr <;> simp [hr]
  refine ⟨by simp [h.isObject], ?_, ?_, ?_⟩
  · rw [Json.idx_set h.isObject, if_pos rfl, hobj]
  · intro k'
    rw [Json.idx_set h.isObject, if_pos rfl]
    rcases h.route with hr | hr
    · exact Json.idx_set hr k k' v
    · rw [hr]
      by_cases hk : k' = k
      · simp [Json.set, Json.idx, Json.get?, hk]
      · simp [Json.set, Json.idx, Json.get?, Json.lookup_cons_ite, hk, Json.fields]
  · intro k' hk'
    rw [Json.idx_set h.isObject, if_neg hk']
    exact h.sections k' hk'

theorem setRouteRules (h : RouteIs base doc rules final) (rules' : List Json) :
    RouteIs base (setRouteRules doc rules') rules' final := by
  obtain ⟨hobj, hroute, hmem, hsec⟩ := h.setMember "rules" (.arr rules')
  refine ⟨hobj, .inl hroute, ?_, ?_, hsec⟩
  · rw [routeRules, SingboxVpn.setRouteRules, hmem, if_pos rfl]
    rfl
  · rw [SingboxVpn.setRouteRules, hmem, if_neg (by simp), h.final_eq]

theorem setRouteFinal (h : RouteIs base doc rules final) :
    RouteIs base (setRouteFinal doc) rules (.str "direct") := by
  obtain ⟨hobj, hroute, hmem, hsec⟩ := h.setMember "final" (.str "direct")
  refine ⟨hobj, .inl hroute, ?_, ?_, hsec⟩
  · rw [routeRules, SingboxVpn.setRouteFinal, hmem, if_neg (by simp)]
    exact h.rules_eq
  · rw [SingboxVpn.setRouteFinal, hmem, if_pos rfl]

theorem ensureRoute (h : RouteIs base doc rules final) :
    RouteIs base (ensureRoute doc) rules final := by
  unfold SingboxVpn.ensureRoute
  rcases h.route with hr | hr
  · rwa [if_pos hr]
  · have hneg : ¬ (doc.idx "route").isObject = true := by simp [hr, Json.isObject]
    rw [if_neg hneg]
    have hidx : (doc.set "route" (object [])).idx "route" = object [] := by
      rw [Json.idx_set h.isObject, if_pos rfl]
    refine ⟨by simp [h.isObject], .inl (by rw [hidx]; rfl), ?_, ?_, ?_⟩
    · rw [← h.rules_eq, routeRules, routeRules, hidx, hr]
      rfl
    · rw [← h.final_eq, hidx, hr]
      rfl
    · intro k hk
      rw [Json.idx_set h.isObject, if_neg hk]
      exact h.sections k hk

theorem insertAfterIdentityScoped (h : RouteIs base doc rules final) (new : List Json) :
    RouteIs base (insertAfterIdentityScopedRules doc new)
      (spliceAfter (fun rule => (rule.get? "auth_user").isSome) new rules) (.str "direct") := by
  have he := h.ensureRoute
  unfold insertAfterIdentityScopedRules
  simp only [he.rules_eq, insertAll_takeWhile]
  exact (he.setRouteRules _).setRouteFinal

theorem applyProbe (h : RouteIs base doc rules final) (users : List CompatUser) (now : Int) :
    RouteIs base (applyProbeUserConfinement doc users now)
      (if probeIds users now = [] then rules
        else spliceAfter (alreadyProbeScoped (probeIds users now))
          (probeConfinementRules (probeIds users now)) rules) final := by
  have he := h.ensureRoute
  unfold applyProbeUserConfinement
  by_cases hids : probeIds users now = []
  · simpa [hids] using h
  · have hne : (probeIds users now).isEmpty = false := by simpa using hids
    simp only [hne, Bool.false_eq_true, if_false, if_neg hids, he.rules_eq,
      insertAll_takeWhile]
    exact he.setRouteRules _

theorem applyExitLoopback (h : RouteIs base doc rules final) (d : DeploymentConfig)
    (users : List CompatUser) (now : Int) :
    RouteIs base (applyExitLoopbackSelftestException doc d users now)
      ((if probeIds users now = [] then [] else [exitLoopbackRule d (probeIds users now)]) ++
        rules) final := by
  have he := h.ensureRoute
  unfold applyExitLoopbackSelftestException
  by_cases hids : probeIds users now = []
  · simpa [hids] using h
  · have hne : (probeIds users now).isEmpty = false := by simpa using hids
    simp only [hne, Bool.false_eq_true, if_false, if_neg hids, he.rules_eq,
      List.insertIdx_zero, List.singleton_append]
    exact he.setRouteRules _

end RouteIs

/-! ### The transport-level document -/

def INBOUND_TAGS : List String := [REALITY_INBOUND, "hysteria2-in"]

theorem tag_vlessInbound (reality : RealityServerParams) (port : Nat) (us : List Json) :
    (vlessInbound reality port us).idx "tag" = .str REALITY_INBOUND := by
  simp [vlessInbound, Json.idx_object, Json.lookup_cons_ite]

theorem tag_hysteriaInbound (hysteria : Hysteria2ServerParams) (port : Nat) (us : List Json) :
    (hysteriaInbound hysteria port us).idx "tag" = .str "hysteria2-in" := by
  unfold hysteriaInbound
  cases hysteria.masqueradeDirPath <;> cases hysteria.obfsPassword <;>
    cases hysteria.upMbps <;> cases hysteria.downMbps <;>
    simp [Json.set_object, Json.idx_object, Json.lookup_cons_ite]

section Base

variable (users : List CompatUser) (reality : RealityServerParams)
  (hysteria : Hysteria2ServerParams) (ports : ServerPorts) (now : Int)

def baseInbounds : List Json :=
  [vlessInbound reality ports.vlessRealityPort ((authorizedGrants users now).map vlessUser),
    hysteriaInbound hysteria ports.hysteria2Port ((authorizedGrants users now).map hysteriaUser)]

theorem base_inbounds :
    (renderSingboxServerConfig users reality hysteria ports now).idx "inbounds" =
      .arr (baseInbounds users reality hysteria ports now) := by
  simp [renderSingboxServerConfig, Json.idx_object, Json.lookup_cons_ite, baseInbounds]

theorem base_outbounds :
    (renderSingboxServerConfig users reality hysteria ports now).idx "outbounds" =
      .arr [object [("type", .str "direct"), ("tag", .str "direct")]] := by
  simp [renderSingboxServerConfig, Json.idx_object]

theorem base_tags : (baseInbounds users reality hysteria ports now).map (·.idx "tag") =
    INBOUND_TAGS.map Json.str := by
  simp [baseInbounds, tag_vlessInbound, tag_hysteriaInbound, INBOUND_TAGS]

theorem base_routeIs :
    RouteIs (renderSingboxServerConfig users reality hysteria ports now)
      (renderSingboxServerConfig users reality hysteria ports now) [] .null := by
  have hroute : (renderSingboxServerConfig users reality hysteria ports now).idx "route" =
      .null := by
    simp [renderSingboxServerConfig, Json.idx_object, Json.lookup_cons_ite]
  refine ⟨rfl, .inr hroute, ?_, ?_, fun k _ => rfl⟩
  · rw [routeRules, hroute]
    rfl
  · rw [hroute]
    rfl

end Base

theorem tags_of_inbounds {doc : Json} {inbounds : List Json}
    (h : doc.idx "inbounds" = .arr inbounds)
    (htags : inbounds.map (·.idx "tag") = INBOUND_TAGS.map Json.str) :
    inboundTags doc = INBOUND_TAGS ∧ allInboundTags doc = some INBOUND_TAGS := by
  have hmap : (inbounds.filterMap fun inbound => (inbound.idx "tag").asStr) = INBOUND_TAGS := by
    have : (inbounds.filterMap fun inbound => (inbound.idx "tag").asStr) =
        (inbounds.map (·.idx "tag")).filterMap Json.asStr := by
      rw [List.filterMap_map]
      rfl
    rw [this, htags, Json.filterMap_asStr_map_str]
  constructor
  · rw [inboundTags, h, Json.asArray_arr, Option.getD_some, hmap]
  · simp only [allInboundTags, h, Json.asArray_arr, hmap]
    rfl

/-! ### Rules and probe principals -/

theorem alreadyProbeScoped_strs {ids ps : List String} {rule : Json}
    (h : rule.get? "auth_user" = some (strs ps)) :
    alreadyProbeScoped ids rule = ps.all fun p => decide (p ∈ ids) := by
  simp [alreadyProbeScoped, Json.idx, h, List.all_map, Function.comp_def]

theorem alreadyProbeScoped_none {ids : List String} {rule : Json}
    (h : rule.get? "auth_user" = none) : alreadyProbeScoped ids rule = false := by
  simp [alreadyProbeScoped, Json.idx, h, Json.asArray]

theorem auth_user_c16 {ins : List String} {r : Json}
    (h : r ∈ c16EgressDenyRules ins) : r.get? "auth_user" = none := by
  simp only [c16EgressDenyRules, List.mem_cons, List.not_mem_nil, or_false] at h
  rcases h with rfl | rfl | rfl | rfl <;> simp [Json.get?_object, Json.lookup_cons_ite]

/-! ### Exits -/

def exitRules (d : DeploymentConfig) (users : List CompatUser) (now : Int) (active : Bool) :
    List Json :=
  (if probeIds users now = [] then []
    else exitLoopbackRule d (probeIds users now) :: probeConfinementRules (probeIds users now)) ++
    ((c16EgressDenyRules INBOUND_TAGS ++
      (ownAddressDenyRule INBOUND_TAGS (some d.publicHost) d.publicIpv4 d.publicIpv6).toList) ++
      (exitEgressRules d active ++ if active then [hairpinRouteRule] else []))

def exitOutbounds (d : DeploymentConfig) (reality : RealityServerParams) : List Json :=
  object [("type", .str "direct"), ("tag", .str "direct")] ::
    (match d.googleEgressHairpin, reality.googleEgressHairpinUuid with
      | some hairpin, some uuid => [hairpinOutbound hairpin uuid]
      | _, _ => [])

section Exit

variable {ext : External} {d : DeploymentConfig} {users : List CompatUser}
  {reality : RealityServerParams} {hysteria : Hysteria2ServerParams} {now : Int} {doc : Json}

theorem hairpin_routeIs (d : DeploymentConfig) (reality : RealityServerParams) {base : Json}
    (hbase : RouteIs base base [] .null)
    (hout : base.idx "outbounds" = .arr [object [("type", .str "direct"), ("tag", .str "direct")]]) :
    ∃ base' final, RouteIs base' (applyConfiguredHairpin d reality base)
        (if hairpinActive d reality then [hairpinRouteRule] else []) final ∧
      base'.idx "outbounds" = .arr (exitOutbounds d reality) ∧
      base'.idx "inbounds" = base.idx "inbounds" := by
  unfold hairpinActive exitOutbounds applyConfiguredHairpin
  cases hh : d.googleEgressHairpin with
  | none => exact ⟨base, .null, by simpa using hbase, hout, rfl⟩
  | some hairpin =>
    cases hu : reality.googleEgressHairpinUuid with
    | none => exact ⟨base, .null, by simpa using hbase, hout, rfl⟩
    | some uuid =>
      let base' := base.set "outbounds" (.arr ([object [("type", .str "direct"),
        ("tag", .str "direct")]] ++ [hairpinOutbound hairpin uuid]))
      have hidx : ∀ k, k ≠ "outbounds" → base'.idx k = base.idx k := by
        intro k hk
        rw [Json.idx_set hbase.isObject, if_neg hk]
      have hroute' : RouteIs base' base' [] .null := by
        refine ⟨by simp [base', hbase.isObject], ?_, ?_, ?_, fun k _ => rfl⟩
        · rw [hidx "route" (by simp)]
          exact hbase.route
        · rw [routeRules, hidx "route" (by simp)]
          exact hbase.rules_eq
        · rw [hidx "route" (by simp)]
          exact hbase.final_eq
      have happly : applyGoogleEgressHairpin base hairpin uuid =
          setRouteFinal (setRouteRules base' (routeRules base' ++ [hairpinRouteRule])) := by
        unfold applyGoogleEgressHairpin
        rw [hout]
        rfl
      refine ⟨base', .str "direct", ?_, ?_, hidx "inbounds" (by simp)⟩
      · simp only [happly, hroute'.rules_eq, Option.isSome_some, Bool.and_self, if_true,
          List.nil_append]
        exact (hroute'.setRouteRules _).setRouteFinal
      · rw [Json.idx_set hbase.isObject, if_pos rfl]
        rfl

theorem exit_splices (rest : List Json) (hrest : ∀ r ∈ rest, r.get? "auth_user" = none)
    (own : Option Json) :
    (if probeIds users now = [] then
        spliceAfter (fun rule => (rule.get? "auth_user").isSome)
          (c16EgressDenyRules INBOUND_TAGS ++ own.toList)
          ((if probeIds users now = [] then [] else [exitLoopbackRule d (probeIds users now)]) ++
            rest)
      else spliceAfter (alreadyProbeScoped (probeIds users now))
        (probeConfinementRules (probeIds users now))
        (spliceAfter (fun rule => (rule.get? "auth_user").isSome)
          (c16EgressDenyRules INBOUND_TAGS ++ own.toList)
          ((if probeIds users now = [] then [] else [exitLoopbackRule d (probeIds users now)]) ++
            rest))) =
      (if probeIds users now = [] then []
        else exitLoopbackRule d (probeIds users now) ::
          probeConfinementRules (probeIds users now)) ++
        ((c16EgressDenyRules INBOUND_TAGS ++ own.toList) ++ rest) := by
  have hloop : (exitLoopbackRule d (probeIds users now)).get? "auth_user" =
      some (strs (probeIds users now)) := by
    simp [exitLoopbackRule, Json.get?_object, Json.lookup_cons_ite]
  have hfirst : spliceAfter (fun rule => (rule.get? "auth_user").isSome)
      (c16EgressDenyRules INBOUND_TAGS ++ own.toList) rest =
      (c16EgressDenyRules INBOUND_TAGS ++ own.toList) ++ rest :=
    spliceAfter_of_head fun r hr => by simp [hrest r (List.mem_of_mem_head? hr)]
  by_cases hids : probeIds users now = []
  · simp only [hids, if_true, List.nil_append, hfirst]
  · simp only [if_neg hids]
    rw [spliceAfter_append (by simp [hloop]), hfirst, spliceAfter_append]
    · rw [spliceAfter_of_head]
      · simp
      · intro r hr
        refine alreadyProbeScoped_none (@auth_user_c16 INBOUND_TAGS r ?_)
        simp only [c16EgressDenyRules, List.cons_append, List.head?_cons, Option.mem_some] at hr
        simp [c16EgressDenyRules, hr]
    · intro r hr
      rw [List.mem_singleton.mp hr, alreadyProbeScoped_strs hloop]
      simp

theorem render_checks
    (h : renderServerConfigForDeployment ext d users reality hysteria now = .ok doc) :
    d.validate ext = .ok () ∧ (projectedSet users).validate = .ok () := by
  simp only [renderServerConfigForDeployment, Check.bind_ok, Check.mapError_ok] at h
  exact ⟨h.1, h.2.1⟩

theorem exit_document (hrole : d.role = .exit)
    (h : renderServerConfigForDeployment ext d users reality hysteria now = .ok doc) :
    routeRules doc = exitRules d users now (hairpinActive d reality) ∧
      (doc.idx "route").idx "final" = .str "direct" ∧
      doc.idx "outbounds" = .arr (exitOutbounds d reality) ∧
      doc.idx "inbounds" =
        .arr (baseInbounds users reality hysteria (.forDeployment d) now) := by
  simp only [renderServerConfigForDeployment, Check.bind_ok, hrole, if_true] at h
  obtain ⟨-, -, hdoc⟩ := h
  rw [Except.ok.injEq] at hdoc
  obtain ⟨base', final, hpre, hout, hin⟩ := hairpin_routeIs d reality
    (base_routeIs users reality hysteria (.forDeployment d) now)
    (base_outbounds users reality hysteria (.forDeployment d) now)
  rw [base_inbounds] at hin
  have hegress := (hpre.setRouteRules (exitEgressRules d (hairpinActive d reality) ++
    if hairpinActive d reality then [hairpinRouteRule] else [])).applyExitLoopback d users now
  -- the edits never touch the inbounds, so the c16 rules cover all of them
  have htags := (tags_of_inbounds ((hegress.sections "inbounds" (by simp)).trans hin)
    (base_tags users reality hysteria (.forDeployment d) now)).2
  have hfinal := (hegress.insertAfterIdentityScoped
    (c16EgressDenyRules INBOUND_TAGS ++ (ownAddressDenyRule INBOUND_TAGS (some d.publicHost)
      d.publicIpv4 d.publicIpv6).toList)).applyProbe users now
  unfold renderExit at hdoc
  simp only [hpre.rules_eq, applyC16EgressPolicy, htags] at hdoc
  rw [hdoc] at hfinal
  have hnouser : ∀ r ∈ exitEgressRules d (hairpinActive d reality) ++
      (if hairpinActive d reality then [hairpinRouteRule] else []),
      r.get? "auth_user" = none := by
    intro r hr
    rcases List.mem_append.mp hr with hr | hr
    · exact (guards_egress hr).1.auth_user
    · split at hr
      · rw [List.mem_singleton.mp hr]
        simp [hairpinRouteRule, Json.get?_object, Json.lookup_cons_ite]
      · cases hr
  refine ⟨?_, hfinal.final_eq, ?_, ?_⟩
  · rw [hfinal.rules_eq, exit_splices _ hnouser]
    rfl
  · rw [hfinal.sections "outbounds" (by simp), hout]
  · rw [hfinal.sections "inbounds" (by simp), hin]

end Exit

/-! ### Relays -/

section Relay

variable (d : DeploymentConfig) (users : List CompatUser) (now : Int)

/-- The hairpin principals whose rules the probe confinement is inserted behind. -/
def earlyHairpins : List String :=
  (hairpinPrincipals users now).takeWhile fun p => decide (p ∈ probeIds users now)

def lateHairpins : List String :=
  (hairpinPrincipals users now).dropWhile fun p => decide (p ∈ probeIds users now)

/-- The confinement is inserted behind the exit-principal block as well. -/
def exitBlockEarly : Prop :=
  lateHairpins users now = [] ∧ ∀ p ∈ exitPrincipalIds d users now, p ∈ probeIds users now

instance : Decidable (exitBlockEarly d users now) := inferInstanceAs (Decidable (_ ∧ _))

/-- The rules of a relay's document behind the loopback exception. -/
def relayTail : List Json :=
  (earlyHairpins users now).flatMap (hairpinRules d) ++
    ((if exitBlockEarly d users now then exitPrincipalRules d (exitPrincipalIds d users now)
        else []) ++
      ((if probeIds users now = [] then [] else probeConfinementRules (probeIds users now)) ++
        ((lateHairpins users now).flatMap (hairpinRules d) ++
          ((if exitBlockEarly d users now then []
              else exitPrincipalRules d (exitPrincipalIds d users now)) ++
            (d.relayTargets.map relayTargetRule ++
              [rejectAllRule (INBOUND_TAGS.map Json.str)])))))

def relayFinalRules : List Json :=
  (if probeIds users now = [] then [] else [relayLoopbackRule d (probeIds users now)]) ++
    relayTail d users now

end Relay

section RelayDocument

variable {ext : External} {d : DeploymentConfig} {users : List CompatUser}
  {reality : RealityServerParams} {hysteria : Hysteria2ServerParams} {now : Int} {doc : Json}

theorem auth_user_hairpin {p : String} {r : Json} (h : r ∈ hairpinRules d p) :
    r.get? "auth_user" = some (strs [p]) := by
  unfold hairpinRules hairpinSpoofRules at h
  simp only [List.mem_append, List.mem_singleton] at h
  rcases h with (rfl | h) | rfl
  · simp [Json.get?_object, Json.lookup_cons_ite]
  · split at h
    · cases h
    · rw [List.mem_singleton.mp h]
      simp [Json.get?_object, Json.lookup_cons_ite]
  · simp [Json.get?_object, Json.lookup_cons_ite]

theorem auth_user_exitBlock {ps : List String} {r : Json} (h : r ∈ exitPrincipalRules d ps) :
    r.get? "auth_user" = some (strs ps) := by
  rw [exitPrincipalRules_eq] at h
  split at h
  · cases h
  · obtain ⟨r', hr', rfl⟩ := List.mem_map.mp h
    obtain ⟨kvs, rfl, -, -⟩ := scopable_exitBlock hr'
    rw [scopeRule, Json.get?_set (by simp), if_pos rfl]

theorem auth_user_relayEnd {r : Json} {tags : List Json}
    (h : r ∈ d.relayTargets.map relayTargetRule ++ [rejectAllRule tags]) :
    r.get? "auth_user" = none := by
  rcases List.mem_append.mp h with h | h
  · obtain ⟨t, -, rfl⟩ := List.mem_map.mp h
    unfold relayTargetRule
    rw [Json.get?_set (by simp), if_neg]
    · simp [Json.get?_object, Json.lookup_cons_ite]
    · rcases targetItem_key t.host with hk | hk <;> simp [hk]
  · rw [List.mem_singleton.mp h]
    simp [rejectAllRule, Json.get?_object, Json.lookup_cons_ite]

theorem exitPrincipalRules_ne_nil {ps : List String} (h : ps ≠ []) :
    exitPrincipalRules d ps ≠ [] := by
  rw [exitPrincipalRules_eq, if_neg h]
  simp [exitBlock, c16EgressDenyRules]

theorem splice_hairpins (ids hs : List String) (new rest : List Json) :
    spliceAfter (alreadyProbeScoped ids) new (hs.flatMap (hairpinRules d) ++ rest) =
      (hs.takeWhile fun p => decide (p ∈ ids)).flatMap (hairpinRules d) ++
        (if (hs.dropWhile fun p => decide (p ∈ ids)) = [] then
          spliceAfter (alreadyProbeScoped ids) new rest
        else new ++ ((hs.dropWhile fun p => decide (p ∈ ids)).flatMap (hairpinRules d) ++
          rest)) := by
  induction hs with
  | nil => simp
  | cons p hs ih =>
    have hscoped : ∀ r ∈ hairpinRules d p,
        alreadyProbeScoped ids r = decide (p ∈ ids) := fun r hr => by
      rw [alreadyProbeScoped_strs (auth_user_hairpin hr)]
      simp
    by_cases hp : p ∈ ids
    · rw [List.takeWhile_cons_of_pos (by simpa using hp),
        List.dropWhile_cons_of_pos (by simpa using hp), List.flatMap_cons, List.append_assoc,
        spliceAfter_append fun r hr => by rw [hscoped r hr]; simpa using hp, ih,
        List.flatMap_cons, List.append_assoc]
    · rw [List.takeWhile_cons_of_neg (by simpa using hp),
        List.dropWhile_cons_of_neg (by simpa using hp), if_neg (by simp), List.flatMap_nil,
        List.nil_append, spliceAfter_of_head]
      intro r hr
      have hmem : r ∈ hairpinRules d p := by
        simp only [List.flatMap_cons, hairpinRules, List.cons_append, List.append_assoc,
          List.nil_append, List.head?_cons, Option.mem_some] at hr
        simp [hairpinRules, hr]
      rw [hscoped r hmem]
      simpa using hp

theorem splice_exitBlock (ids ps : List String) (new rest : List Json)
    (hrest : ∀ r ∈ rest, r.get? "auth_user" = none) :
    spliceAfter (alreadyProbeScoped ids) new (exitPrincipalRules d ps ++ rest) =
      if ∀ p ∈ ps, p ∈ ids then exitPrincipalRules d ps ++ (new ++ rest)
      else new ++ (exitPrincipalRules d ps ++ rest) := by
  have hend : spliceAfter (alreadyProbeScoped ids) new rest = new ++ rest :=
    spliceAfter_of_head fun r hr =>
      alreadyProbeScoped_none (hrest r (List.mem_of_mem_head? hr))
  have hscoped : ∀ r ∈ exitPrincipalRules d ps,
      alreadyProbeScoped ids r = ps.all fun p => decide (p ∈ ids) := fun r hr =>
    alreadyProbeScoped_strs (auth_user_exitBlock hr)
  by_cases hall : ∀ p ∈ ps, p ∈ ids
  · rw [if_pos hall, spliceAfter_append fun r hr => by rw [hscoped r hr]; simpa using hall, hend]
  · rw [if_neg hall, spliceAfter_of_head]
    intro r hr
    have hps : ps ≠ [] := by
      rintro rfl
      simp at hall
    obtain ⟨r', rs, he⟩ := List.exists_cons_of_ne_nil (@exitPrincipalRules_ne_nil d ps hps)
    rw [he, List.cons_append, List.head?_cons, Option.mem_some] at hr
    rw [hscoped r (by rw [he, ← hr]; simp)]
    simpa using hall

theorem relay_splice :
    (if probeIds users now = [] then relayRules d users now (INBOUND_TAGS.map Json.str)
      else spliceAfter (alreadyProbeScoped (probeIds users now))
        (probeConfinementRules (probeIds users now))
        (relayRules d users now (INBOUND_TAGS.map Json.str))) =
      relayFinalRules d users now := by
  -- a node that did not opt in has no exit principals, so its block is empty anyway
  have hexit : (if d.exitPrincipalsEnabled then
      exitPrincipalRules d (exitPrincipalIds d users now) else []) =
      exitPrincipalRules d (exitPrincipalIds d users now) := by
    by_cases he : d.exitPrincipalsEnabled = true
    · rw [if_pos he]
    · have hids : exitPrincipalIds d users now = [] := by simp [exitPrincipalIds, he]
      rw [if_neg he, hids]
      rfl
  have hend : ∀ r ∈ d.relayTargets.map relayTargetRule ++
      [rejectAllRule (INBOUND_TAGS.map Json.str)], r.get? "auth_user" = none :=
    fun r hr => auth_user_relayEnd hr
  by_cases hids : probeIds users now = []
  · have hearly : earlyHairpins users now = [] := by
      unfold earlyHairpins
      rw [hids]
      cases hairpinPrincipals users now <;> simp
    have hlate : lateHairpins users now = hairpinPrincipals users now := by
      unfold lateHairpins
      rw [hids]
      cases hairpinPrincipals users now <;> simp
    rw [if_pos hids]
    simp only [relayRules, hids, List.isEmpty_nil, if_true, hexit, relayFinalRules, relayTail,
      hearly, hlate, List.flatMap_nil, List.nil_append, List.append_assoc]
    by_cases hb : exitBlockEarly d users now
    · -- then there is no exit principal either
      have hes : exitPrincipalIds d users now = [] := by
        refine List.eq_nil_iff_forall_not_mem.mpr fun p hp => ?_
        have := hb.2 p hp
        rw [hids] at this
        cases this
      simp [hes, exitPrincipalRules]
    · simp [hb]
  · have hne : (probeIds users now).isEmpty = false := by simpa using hids
    have hloop : alreadyProbeScoped (probeIds users now)
        (relayLoopbackRule d (probeIds users now)) = true := by
      rw [@alreadyProbeScoped_strs _ (probeIds users now) _
        (by simp [relayLoopbackRule, Json.get?_object, Json.lookup_cons_ite])]
      simp
    rw [if_neg hids]
    simp only [relayRules, hne, Bool.false_eq_true, if_false, hexit, List.append_assoc]
    rw [spliceAfter_append (by simpa using hloop), splice_hairpins,
      splice_exitBlock _ _ _ _ hend]
    simp only [relayFinalRules, relayTail, if_neg hids]
    congr 2
    by_cases hlate : lateHairpins users now = []
    · have hlate' := hlate
      unfold lateHairpins at hlate'
      by_cases hall : ∀ p ∈ exitPrincipalIds d users now, p ∈ probeIds users now
      · have hb : exitBlockEarly d users now := ⟨hlate, hall⟩
        rw [if_pos hlate', if_pos hall, if_pos hb, if_pos hb, hlate]
        rfl
      · have hb : ¬ exitBlockEarly d users now := fun h => hall h.2
        rw [if_pos hlate', if_neg hall, if_neg hb, if_neg hb, hlate]
        rfl
    · have hb : ¬ exitBlockEarly d users now := fun h => hlate h.1
      have hlate' := hlate
      unfold lateHairpins at hlate'
      rw [if_neg hlate', if_neg hb, if_neg hb, List.nil_append]
      rfl

theorem relay_document (hrole : d.role = .relay)
    (h : renderServerConfigForDeployment ext d users reality hysteria now = .ok doc) :
    routeRules doc = relayFinalRules d users now ∧
      (doc.idx "route").idx "final" = .null ∧
      doc.idx "outbounds" = .arr [object [("type", .str "direct"), ("tag", .str "direct")]] ∧
      doc.idx "inbounds" =
        .arr (baseInbounds users reality hysteria (.forDeployment d) now) := by
  have hne : ¬ d.role = .exit := by simp [hrole]
  simp only [renderServerConfigForDeployment, Check.bind_ok, if_neg hne] at h
  obtain ⟨-, -, hdoc⟩ := h
  have hbase := base_routeIs users reality hysteria (.forDeployment d) now
  have hin := base_inbounds users reality hysteria (.forDeployment d) now
  simp only [renderRelay, hin, Json.asArray_arr, Option.map_some, Option.getD_some,
    base_tags users reality hysteria (.forDeployment d) now] at hdoc
  have htags : (INBOUND_TAGS.map Json.str).isEmpty = false := rfl
  simp only [htags, Bool.false_eq_true, if_false, Except.ok.injEq] at hdoc
  have hroute : RouteIs (renderSingboxServerConfig users reality hysteria (.forDeployment d) now)
      ((renderSingboxServerConfig users reality hysteria (.forDeployment d) now).set "route"
        (object [("rules", .arr (relayRules d users now (INBOUND_TAGS.map Json.str)))]))
      (relayRules d users now (INBOUND_TAGS.map Json.str)) .null := by
    refine ⟨by simp [hbase.isObject], .inl ?_, ?_, ?_, ?_⟩
    · rw [Json.idx_set hbase.isObject, if_pos rfl]
      rfl
    · rw [routeRules, Json.idx_set hbase.isObject, if_pos rfl]
      simp [Json.idx_object]
    · rw [Json.idx_set hbase.isObject, if_pos rfl]
      simp [Json.idx_object, Json.lookup_cons_ite]
    · intro k hk
      rw [Json.idx_set hbase.isObject, if_neg hk]
  have hfinal := hroute.applyProbe users now
  rw [hdoc, relay_splice] at hfinal
  refine ⟨hfinal.rules_eq, hfinal.final_eq, ?_, ?_⟩
  · rw [hfinal.sections "outbounds" (by simp), base_outbounds]
  · rw [hfinal.sections "inbounds" (by simp), hin]

theorem render_ok_iff :
    (∃ doc, renderServerConfigForDeployment ext d users reality hysteria now = .ok doc) ↔
      d.validate ext = .ok () ∧ (projectedSet users).validate = .ok () := by
  constructor
  · rintro ⟨doc, h⟩
    exact render_checks h
  · rintro ⟨hd, hset⟩
    simp only [renderServerConfigForDeployment, Check.bind_ok, Check.mapError_ok, hd, hset,
      true_and]
    split_ifs
    · exact ⟨_, rfl⟩
    · -- both inbounds are always there, so a relay has something to restrict
      have hin := base_inbounds users reality hysteria (.forDeployment d) now
      simp only [renderRelay, hin, Json.asArray_arr, Option.map_some, Option.getD_some,
        base_tags users reality hysteria (.forDeployment d) now]
      exact ⟨_, rfl⟩

end RelayDocument

theorem sampleRelay_renders (users : List CompatUser) (now : Int)
    (h : (projectedSet users).validate = .ok ()) :
    ∃ doc, renderServerConfigForDeployment sampleExternal sampleRelay users sampleReality
      sampleHysteria now = .ok doc :=
  render_ok_iff.mpr ⟨sampleRelay_valid, h⟩

theorem sampleExit_renders (users : List CompatUser) (reality : RealityServerParams) (now : Int)
    (h : (projectedSet users).validate = .ok ()) :
    ∃ doc, renderServerConfigForDeployment sampleExternal sampleExit users reality
      sampleHysteria now = .ok doc :=
  render_ok_iff.mpr ⟨sampleExit_valid, h⟩

end SingboxVpn
