import SingboxVpn.Client.Audit

/-!
# When a document is served

The other direction of `provisioned_of_ok`: endpoints that pass the checks one by one, with a first
hop for each relayed one, always make a document.

* `render_of_hops` — the loop of the renderer goes through when every endpoint finds its hop.
* `crossValidate_built` — what the renderer builds agrees with the catalog.
* `Servable`, `servable_of_ok`, `document_ok` — the checks that depend on one endpoint at a time.
-/

namespace SingboxVpn

/-! ### The loop goes through -/

section Loop

variable {all : List Endpoint} {selectable : List String} {accessPaths : List AccessPath}
  (compat : CompatibilityMode)

variable {acc acc' : Accumulated} {ep : Endpoint} {eps : List Endpoint}

theorem renderEndpoint_of_hop {hop : Option Endpoint}
    (hhop : hopOf all selectable accessPaths ep = .ok hop) (hfresh : ep.tag ∉ acc.tags) :
    ∃ acc', renderEndpoint all selectable accessPaths compat acc ep = .ok acc' ∧
      acc'.tags.Sublist (acc.tags ++ [ep.tag]) := by
  rw [renderEndpoint_eq]
  split
  · refine ⟨acc.push selectable compat ⟨ep, hop⟩, ?_, ?_⟩
    · simp [hfresh, hhop, Check.refuseIf, bind, Except.bind]
    · rw [(push_fields selectable compat acc _).2.1]
      split <;> simp [Route.tag]
  · exact ⟨acc, rfl, List.sublist_append_left _ _⟩

theorem loop_of_hops (acc : Accumulated)
    (hhops : ∀ ep ∈ eps, ∃ hop, hopOf all selectable accessPaths ep = .ok hop)
    (hnodup : (acc.tags ++ eps.map Endpoint.tag).Nodup) :
    ∃ acc', eps.foldlM (renderEndpoint all selectable accessPaths compat) acc = .ok acc' := by
  induction eps generalizing acc with
  | nil => exact ⟨acc, rfl⟩
  | cons ep eps ih =>
    rw [List.forall_mem_cons] at hhops
    obtain ⟨⟨hop, hhop⟩, hrest⟩ := hhops
    rw [List.map_cons, List.append_cons] at hnodup
    have hfresh : ep.tag ∉ acc.tags := by
      intro hmem
      have hpair := (List.nodup_append.mp (List.nodup_append.mp hnodup).1).2.2
      exact hpair _ hmem _ (List.mem_singleton_self _) rfl
    obtain ⟨acc₁, hstep, hsub⟩ := renderEndpoint_of_hop compat hhop hfresh
    obtain ⟨acc', hloop⟩ := ih acc₁ hrest ((hsub.append_right _).nodup hnodup)
    refine ⟨acc', ?_⟩
    rw [List.foldlM_cons, hstep]
    exact hloop

def firstTag (selectable : List String) (vless : Bool) (eps : List Endpoint) : Option String :=
  (eps.find? fun ep => selectable.contains ep.id && ep.isVless == vless).map (·.tag)

theorem firstTag_cons (selectable : List String) (vless : Bool) (ep : Endpoint)
    (eps : List Endpoint) :
    firstTag selectable vless (ep :: eps) =
      (firstTag selectable vless [ep]).or (firstTag selectable vless eps) := by
  simp only [firstTag, List.find?_cons, List.find?_nil]
  cases selectable.contains ep.id && ep.isVless == vless <;> rfl

theorem offer_first (acc : Accumulated) (ep : Endpoint) :
    (acc.offer ep).realityTag = acc.realityTag.or (if ep.isVless then some ep.tag else none) ∧
      (acc.offer ep).hysteria2Tag =
        acc.hysteria2Tag.or (if ep.isVless then none else some ep.tag) := by
  unfold Accumulated.offer Endpoint.isVless TransportParams.transport
  cases ep.params <;> simp

theorem renderEndpoint_first
    (h : renderEndpoint all selectable accessPaths compat acc ep = .ok acc') :
    acc'.realityTag = acc.realityTag.or (firstTag selectable true [ep]) ∧
      acc'.hysteria2Tag = acc.hysteria2Tag.or (firstTag selectable false [ep]) := by
  -- nothing else touches the two tags
  have hoffered : (if selectable.contains ep.id = true then acc.offer ep else acc).realityTag =
        acc.realityTag.or (firstTag selectable true [ep]) ∧
      (if selectable.contains ep.id = true then acc.offer ep else acc).hysteria2Tag =
        acc.hysteria2Tag.or (firstTag selectable false [ep]) := by
    cases hsel : selectable.contains ep.id with
    | true =>
      rw [if_pos rfl, (offer_first acc ep).1, (offer_first acc ep).2]
      cases hv : ep.isVless <;> simp only [firstTag, List.find?_cons, hsel, hv] <;> exact ⟨rfl, rfl⟩
    | false =>
      rw [if_neg (by simp)]
      simp only [firstTag, List.find?_cons, hsel, Bool.false_and, List.find?_nil, Option.map_none,
        Option.or_none, and_self]
  rw [renderEndpoint_eq] at h
  split at h
  · simp only [Check.bind_eq_ok, Except.ok.injEq] at h
    obtain ⟨_, -, hop, -, rfl⟩ := h
    exact hoffered
  · next hout =>
    rw [isDialled, Bool.or_eq_true, not_or] at hout
    cases h
    rwa [if_neg hout.1] at hoffered

theorem loop_first
    (h : eps.foldlM (renderEndpoint all selectable accessPaths compat) acc = .ok acc') :
    acc'.realityTag = acc.realityTag.or (firstTag selectable true eps) ∧
      acc'.hysteria2Tag = acc.hysteria2Tag.or (firstTag selectable false eps) := by
  induction eps generalizing acc with
  | nil =>
    cases h
    simp [firstTag]
  | cons ep eps ih =>
    rw [List.foldlM_cons, Check.bind_eq_ok] at h
    obtain ⟨acc₁, hstep, hrest⟩ := h
    obtain ⟨hreality, hhysteria⟩ := renderEndpoint_first compat hstep
    rw [firstTag_cons _ true, firstTag_cons _ false, ← Option.or_assoc, ← Option.or_assoc,
      ← hreality, ← hhysteria]
    exact ih hrest

end Loop

structure Rendered (given : List Endpoint) (accessPaths : List AccessPath)
    (compat : CompatibilityMode) (routes : List Route) (acc : Accumulated) : Prop where
  endpoints : routes.map Route.endpoint = given
  hops : ∀ r ∈ routes, hopOf given ((selectableOf accessPaths given).map (·.id)) accessPaths
    r.endpoint = .ok r.hop
  built : Built ((selectableOf accessPaths given).map (·.id)) compat routes acc
  reality : acc.realityTag = firstTag ((selectableOf accessPaths given).map (·.id)) true given
  hysteria2 : acc.hysteria2Tag = firstTag ((selectableOf accessPaths given).map (·.id)) false given

section Render

variable {given : List Endpoint} {accessPaths : List AccessPath} (profile : SelectionProfile)
  (compat : CompatibilityMode)

variable {ep : Endpoint}

theorem endpointById_isSome (hep : ep ∈ given) : (endpointById given ep.id).isSome = true := by
  rw [endpointById, List.find?_isSome]
  exact ⟨ep, List.mem_reverse.mpr hep, by simp⟩

theorem selectable_known (accessPaths : List AccessPath) (given : List Endpoint) :
    (((selectableOf accessPaths given).map (·.id)).insertionSort (· ≤ ·)).find?
      (fun id => (endpointById given id).isNone) = none := by
  rw [List.find?_eq_none]
  intro id hid
  rw [List.mem_insertionSort] at hid
  obtain ⟨ep, hep, rfl⟩ := List.mem_map.mp hid
  simpa [Option.isSome_iff_ne_none] using endpointById_isSome (List.mem_of_mem_filter hep)

theorem selectable_contains (hep : ep ∈ given) :
    ((selectableOf accessPaths given).map (·.id)).contains ep.id =
      !(infrastructureEndpointIds accessPaths).contains ep.id := by
  rw [Bool.eq_iff_iff, List.contains_iff_mem]
  exact ⟨fun hid => (List.mem_filter.mp (mem_selectableOf hep hid)).2,
    fun hinfra => List.mem_map_of_mem (List.mem_filter.mpr ⟨hep, hinfra⟩)⟩

theorem render_of_hops (htags : (given.map Endpoint.tag).Nodup)
    (hhops : ∀ ep ∈ given, ∃ hop,
      hopOf given ((selectableOf accessPaths given).map (·.id)) accessPaths ep = .ok hop)
    (hne : selectableOf accessPaths given ≠ []) :
    ∃ routes acc, Rendered given accessPaths compat routes acc ∧
      renderSingboxConfigFromContractWithAccessPaths given
          ((selectableOf accessPaths given).map (·.id)) accessPaths profile compat =
        (pinFor compat (acc.routeSet profile compat)).map fun set => set.config compat := by
  obtain ⟨acc, hloop⟩ := loop_of_hops compat {} hhops (by simpa using htags)
  have hstart : Built ((selectableOf accessPaths given).map (·.id)) compat [] {} := ⟨rfl, rfl, rfl⟩
  obtain ⟨routes, hbuilt, hmap, hroutes⟩ := routes_of_loop hstart hloop
  rw [List.nil_append] at hbuilt
  rw [List.filter_eq_self.mpr fun ep hep => isDialled_given hep] at hmap
  obtain ⟨hreality, hhysteria⟩ := loop_first compat hloop
  refine ⟨routes, acc, ⟨hmap, hroutes, hbuilt, hreality, hhysteria⟩, ?_⟩
  have htagged : acc.tags.isEmpty = false := by
    obtain ⟨ep, hep⟩ := List.exists_mem_of_ne_nil _ hne
    obtain ⟨r, hr, rfl⟩ := List.mem_map.mp (hmap ▸ List.mem_of_mem_filter hep)
    rw [List.isEmpty_eq_false_iff, hbuilt.tags]
    refine List.ne_nil_of_mem (List.mem_map_of_mem (List.mem_filter.mpr ⟨hr, ?_⟩))
    exact List.contains_iff_mem.mpr (List.mem_map_of_mem hep)
  have hloaded : (Check.refuseIf acc.tags.isEmpty CompatError.noSelectableRoute) = .ok () :=
    Check.refuseIf_ok.mpr htagged
  simp only [renderSingboxConfigFromContractWithAccessPaths, selectable_known, Check.onSome,
    hloop, bind, Except.bind, hloaded]
  cases pinFor compat (acc.routeSet profile compat) <;> rfl

end Render

/-! ### The catalog and what is rendered from it -/

section CrossChecked

variable {given : List Endpoint} {accessPaths : List AccessPath} {profile : SelectionProfile}
  {compat : CompatibilityMode} {routes : List Route} {acc : Accumulated}
  {doc : ProvisioningDocument}

theorem tags_of_built (hbuilt : Built ((selectableOf accessPaths given).map (·.id)) compat routes acc)
    (hmap : routes.map Route.endpoint = given) :
    acc.tags = (selectableOf accessPaths given).map (·.tag) := by
  have hsel : given.filter (fun ep => ((selectableOf accessPaths given).map (·.id)).contains ep.id) =
      selectableOf accessPaths given :=
    List.filter_congr fun ep hep => selectable_contains hep
  have hroutes : ∀ ids : List String,
      (routes.filter fun r => ids.contains r.endpoint.id).map Route.tag =
        (given.filter fun ep => ids.contains ep.id).map (·.tag) := by
    intro ids
    rw [← hmap, List.filter_map, List.map_map]
    rfl
  rw [hbuilt.tags, hroutes, hsel]

theorem validateSelector_built
    (hbuilt : Built ((selectableOf accessPaths given).map (·.id)) compat routes acc)
    (hmap : routes.map Route.endpoint = given)
    (hres : ∀ ep ∈ given, ep.tag ∉ ["auto", "select", "direct"])
    (hcatalog : doc.endpoints = selectableOf accessPaths given) :
    doc.validateSelector (acc.routeSet profile compat).allOutbounds = .ok () := by
  have hproxies : acc.outbounds.find? (fun ob => tagOf ob == some SELECTOR_GROUP_TAG) = none := by
    rw [List.find?_eq_none, hbuilt.outbounds, List.forall_mem_map]
    intro r hr heq
    have hunreserved := hres r.endpoint (hmap ▸ List.mem_map_of_mem hr)
    rw [tagOf_outbound, beq_iff_eq, Option.some.injEq, Route.tag] at heq
    rw [heq] at hunreserved
    exact hunreserved (by decide)
  have hfind : (acc.routeSet profile compat).allOutbounds.find?
      (fun ob => tagOf ob == some SELECTOR_GROUP_TAG) =
        some (acc.routeSet profile compat).selectorGroup := by
    rw [RouteSet.allOutbounds, List.find?_append]
    show (acc.outbounds.find? _).or _ = _
    rw [hproxies]
    simp [SELECTOR_GROUP_TAG]
  have htags : (acc.routeSet profile compat).tags = doc.endpoints.map (·.tag) := by
    rw [hcatalog]
    exact tags_of_built hbuilt hmap
  simp only [ProvisioningDocument.validateSelector, hfind, RouteSet.selectorGroup_outbounds,
    Option.bind_some, Json.asArray_strs, Json.filterMap_asStr_map_str, htags, Check.refuseIf_ok]
  exact bne_self_eq_false _

theorem isRelayed_iff_hop (hpaths : doc.accessPaths = accessPaths)
    (hcatalog : doc.endpoints = selectableOf accessPaths given)
    (hmap : routes.map Route.endpoint = given)
    (hhops : ∀ r ∈ routes, hopOf given ((selectableOf accessPaths given).map (·.id)) accessPaths
      r.endpoint = .ok r.hop) {r : Route} (hr : r ∈ routes) :
    r.hop.isSome = true ↔ r.endpoint ∈ doc.endpoints ∧ doc.isRelayed r.endpoint = true := by
  have hok := hhops r hr
  constructor
  · intro hsome
    obtain ⟨via, hvia⟩ := Option.isSome_iff_exists.mp hsome
    rw [hvia] at hok
    obtain ⟨hsel, path, hpath, hother, hkind, hid, -⟩ := hopOf_some hok
    have hviaOf : ViaOf doc.accessPaths r.endpoint via := ⟨path, hpaths ▸ hpath, hother, hkind, hid⟩
    rw [hcatalog]
    exact ⟨mem_selectableOf (hmap ▸ List.mem_map_of_mem hr) hsel, hviaOf.isRelayed⟩
  · rintro ⟨hlisted, hrelayed⟩
    cases hop : r.hop with
    | some via => rfl
    | none =>
      rw [hop] at hok
      unfold ProvisioningDocument.isRelayed at hrelayed
      split at hrelayed
      · next pathId hpath =>
        rcases hopOf_none hok with hsel | hnil | hno
        · exact absurd (List.mem_map_of_mem (hcatalog ▸ hlisted)) hsel
        · simp [hpaths, hnil] at hrelayed
        · exact absurd hpath (hno pathId)
      · cases hrelayed

theorem validateOutbound_built
    (hbuilt : Built ((selectableOf accessPaths given).map (·.id)) compat routes acc)
    (htags : (given.map Endpoint.tag).Nodup)
    (hres : ∀ ep ∈ given, ep.tag ∉ ["auto", "select", "direct"])
    (hmap : routes.map Route.endpoint = given)
    (hcatalog : doc.endpoints = selectableOf accessPaths given)
    (hrelayed : ∀ r ∈ routes,
      (r.hop.isSome = true ↔ r.endpoint ∈ doc.endpoints ∧ doc.isRelayed r.endpoint = true))
    (hsome : doc.relayedTags ≠ []) :
    ∀ ob ∈ (acc.routeSet profile compat).allOutbounds,
      ProvisioningDocument.validateOutbound doc.relayedTags ob = .ok () := by
  have hroute : ∀ ep ∈ given, ∃ r ∈ routes, r.endpoint = ep := by
    intro ep hep
    exact List.mem_map.mp (hmap ▸ hep)
  have hlisted : ∀ ep ∈ doc.endpoints, ep ∈ given := fun ep hep =>
    List.mem_of_mem_filter (hcatalog ▸ hep)
  have hgroup : ∀ tag ∈ ["auto", "select", "direct"], tag ∉ doc.relayedTags := by
    intro tag htag hmem
    obtain ⟨ep, hep, rfl⟩ := List.mem_map.mp hmem
    exact hres ep (hlisted ep (List.mem_of_mem_filter hep)) htag
  -- a relayed route of the catalog has been chained, so the automatic group has no other members
  have hauto : ∀ tag ∈ (acc.routeSet profile compat).autoMembers, tag ∈ doc.relayedTags := by
    intro tag htag
    have hne : acc.relayedTags.isEmpty = false := by
      obtain ⟨_, hmem⟩ := List.exists_mem_of_ne_nil _ hsome
      obtain ⟨ep, hep, -⟩ := List.mem_map.mp hmem
      obtain ⟨hep, hrel⟩ := List.mem_filter.mp hep
      obtain ⟨r, hr, rfl⟩ := hroute ep (hlisted ep hep)
      rw [List.isEmpty_eq_false_iff, hbuilt.relayedTags]
      exact List.ne_nil_of_mem (List.mem_map_of_mem
        (List.mem_filter.mpr ⟨hr, (hrelayed r hr).mpr ⟨hep, hrel⟩⟩))
    have hmembers : (acc.routeSet profile compat).autoMembers = acc.relayedTags := by
      simp [Accumulated.routeSet, hne]
    rw [hmembers, hbuilt.relayedTags] at htag
    obtain ⟨r, hr, rfl⟩ := List.mem_map.mp htag
    obtain ⟨hr, hhop⟩ := List.mem_filter.mp hr
    obtain ⟨hep, hrel⟩ := (hrelayed r hr).mp hhop
    exact mem_relayedTags hep hrel
  have hout : (acc.routeSet profile compat).outbounds = routes.map (Route.outbound compat) :=
    hbuilt.outbounds
  intro ob hob
  simp only [ProvisioningDocument.validateOutbound, Check.bind_ok, Check.refuseIf_ok,
    Bool.and_eq_false_iff]
  rcases mem_allOutbounds.mp hob with hob | rfl | rfl | rfl
  · obtain ⟨r, hr, rfl⟩ := List.mem_map.mp (hout ▸ hob)
    have htype : ((r.outbound compat).get? "type").bind Json.asStr ≠ some "urltest" := by
      rw [← typeOf, (carries_outbound compat r).typeOf_eq]
      split <;> simp
    rw [if_neg htype, tagOf_outbound, detourOf_outbound]
    refine ⟨?_, rfl⟩
    by_cases hmem : r.tag ∈ doc.relayedTags
    · right
      obtain ⟨ep, hep, htag⟩ := List.mem_map.mp hmem
      obtain ⟨hep, hrel⟩ := List.mem_filter.mp hep
      have hgiven : r.endpoint ∈ given := hmap ▸ List.mem_map_of_mem hr
      obtain rfl : ep = r.endpoint := List.inj_on_of_nodup_map htags (hlisted ep hep) hgiven htag
      have hhop := (hrelayed r hr).mpr ⟨hep, hrel⟩
      simpa [Option.isSome_iff_ne_none] using hhop
    · left
      simpa using hmem
  · rw [RouteSet.tagOf_automaticGroup, ← typeOf, RouteSet.typeOf_automaticGroup, if_pos rfl,
      RouteSet.automaticGroup_outbounds, Option.bind_some, Json.asArray_strs, Option.getD_some,
      Check.each_ok]
    refine ⟨.inl (by simpa using hgroup "auto" (by simp)), ?_⟩
    intro member hmember
    obtain ⟨_, hjson, rfl⟩ := List.mem_map.mp hmember
    obtain ⟨tag, htag, rfl⟩ := List.mem_map.mp hjson
    simpa using hauto tag htag
  · rw [RouteSet.tagOf_selectorGroup, ← typeOf, RouteSet.typeOf_selectorGroup, if_neg (by simp)]
    exact ⟨.inl (by simpa using hgroup "select" (by simp)), rfl⟩
  · rw [RouteSet.tagOf_directOutbound, ← typeOf, RouteSet.typeOf_directOutbound, if_neg (by simp)]
    exact ⟨.inl (by simpa using hgroup "direct" (by simp)), rfl⟩

@[simp] theorem get?_config_route (set : RouteSet) (compat : CompatibilityMode) :
    (set.config compat).get? "route" = some (clientRoute compat) := by
  simp [RouteSet.config, Json.get?_object]

theorem final_clientRoute (compat : CompatibilityMode) :
    (clientRoute compat).get? "final" = some (.str SELECTOR_GROUP_TAG) := by
  cases compat <;> decide

theorem crossValidate_built
    (hbuilt : Built ((selectableOf accessPaths given).map (·.id)) compat routes acc)
    (htags : (given.map Endpoint.tag).Nodup)
    (hres : ∀ ep ∈ given, ep.tag ∉ ["auto", "select", "direct"])
    (hmap : routes.map Route.endpoint = given)
    (hhops : ∀ r ∈ routes, hopOf given ((selectableOf accessPaths given).map (·.id)) accessPaths
      r.endpoint = .ok r.hop)
    (hconfig : doc.singboxConfig = some ((acc.routeSet profile compat).config compat))
    (hcatalog : doc.endpoints = selectableOf accessPaths given)
    (hpaths : doc.accessPaths = accessPaths) : doc.crossValidateEmbeddedConfig = .ok () := by
  simp only [ProvisioningDocument.crossValidateEmbeddedConfig, hconfig, get?_config_outbounds,
    Option.bind_some, Json.asArray_arr, Check.bind_ok, Check.each_ok, Check.refuseIf_ok,
    get?_config_route, final_clientRoute, Json.asStr_str, Option.getD_some,
    validateSelector_built hbuilt hmap hres hcatalog, bne_self_eq_false, true_and]
  have hout : (acc.routeSet profile compat).outbounds = routes.map (Route.outbound compat) :=
    hbuilt.outbounds
  refine ⟨?_, ?_⟩
  · intro ep hep
    obtain ⟨r, hr, rfl⟩ := List.mem_map.mp (hmap ▸ List.mem_of_mem_filter (hcatalog ▸ hep))
    have hob : r.outbound compat ∈ (acc.routeSet profile compat).allOutbounds :=
      mem_allOutbounds.mpr (.inl (hout ▸ List.mem_map_of_mem hr))
    have hmem : r.endpoint.tag ∈ (acc.routeSet profile compat).allOutbounds.filterMap tagOf :=
      List.mem_filterMap.mpr ⟨_, hob, tagOf_outbound compat r⟩
    simpa using hmem
  · by_cases hsome : doc.relayedTags = []
    · simp [hsome]
    · rw [if_neg (by simpa using hsome), Check.each_ok]
      exact validateOutbound_built hbuilt htags hres hmap hcatalog
        (fun r hr => isRelayed_iff_hop hpaths hcatalog hmap hhops hr) hsome

end CrossChecked

/-! ### The document -/

@[mk_iff]
structure EndpointChecked (doc : ProvisioningDocument) (ep : Endpoint) : Prop where
  valid : ep.validate = .ok ()
  path : doc.accessPaths ≠ [] → ∀ pathId, ep.path = some (.other pathId) →
    ∃ path ∈ doc.accessPaths, path.id = pathId
  capability : Capability.forTransport ep.transport ∈ doc.capabilities

theorem validateEndpoint_ok {doc : ProvisioningDocument} {seen : List Endpoint} {ep : Endpoint} :
    doc.validateEndpoint seen ep = .ok () ↔
      EndpointChecked doc ep ∧ ∀ e ∈ seen, e.id ≠ ep.id := by
  have hseen : (seen.any fun e => e.id == ep.id) = false ↔ ∀ e ∈ seen, e.id ≠ ep.id := by simp
  have hcap : (!doc.capabilities.contains (Capability.forTransport ep.transport)) = false ↔
      Capability.forTransport ep.transport ∈ doc.capabilities := by simp
  rw [endpointChecked_iff]
  unfold ProvisioningDocument.validateEndpoint
  by_cases hnil : doc.accessPaths = []
  · simp only [hnil, List.isEmpty_nil, Bool.not_true, Bool.false_eq_true, if_false, Check.bind_ok,
      Check.refuseIf_ok, hseen, hcap, ne_eq, not_true, false_imp_iff, true_and]
    constructor
    · rintro ⟨hvalid, hfresh, hcap⟩
      exact ⟨⟨hvalid, hcap⟩, hfresh⟩
    · rintro ⟨⟨hvalid, hcap⟩, hfresh⟩
      exact ⟨hvalid, hfresh, hcap⟩
  · rw [if_pos (by simpa using hnil)]
    -- only a path that is not direct has to be listed
    split
    · next pathId hpath =>
      have hlisted : (!doc.accessPaths.any fun path => path.id == pathId) = false ↔
          ∃ path ∈ doc.accessPaths, path.id = pathId := by simp
      simp only [Check.bind_ok, Check.refuseIf_ok, hseen, hcap, hlisted, hpath, ne_eq, hnil,
        not_false_eq_true, true_imp_iff, Option.some.injEq, PathType.other.injEq, forall_eq']
      constructor
      · rintro ⟨hvalid, hfresh, hlisted, hcap⟩
        exact ⟨⟨hvalid, hlisted, hcap⟩, hfresh⟩
      · rintro ⟨⟨hvalid, hlisted, hcap⟩, hfresh⟩
        exact ⟨hvalid, hfresh, hlisted, hcap⟩
    · next hdirect =>
      simp only [Check.bind_ok, Check.refuseIf_ok, hseen, hcap, true_and]
      constructor
      · rintro ⟨hvalid, hfresh, hcap⟩
        exact ⟨⟨hvalid, fun _ pathId hpath => absurd hpath (hdirect pathId), hcap⟩, hfresh⟩
      · rintro ⟨⟨hvalid, -, hcap⟩, hfresh⟩
        exact ⟨hvalid, hfresh, hcap⟩

def PathsChecked (accessPaths : List AccessPath) : Prop :=
  Check.eachSeen
    (fun seen path => do
      path.validate
      Check.refuseIf (seen.any fun p => p.id == path.id) (.duplicateAccessPathId path.id))
    [] accessPaths = .ok ()

structure Servable (accessPaths : List AccessPath) (given : List Endpoint) : Prop where
  paths : PathsChecked accessPaths
  cleanPaths : ∀ path ∈ accessPaths, IsClean path.toValue
  valid : ∀ ep ∈ selectableOf accessPaths given, ep.validate = .ok ()
  clean : ∀ ep ∈ selectableOf accessPaths given, IsClean ep.toValue
  dialable : ∀ ep ∈ given, Dialable ep

section Document

variable {user : CompatUser} {served : List CompatEndpoint} {mode : DiagnosticMode}
  {accessPaths : List AccessPath} {profile : SelectionProfile} {compat : CompatibilityMode}
  {doc : ProvisioningDocument} {given : List Endpoint} {routes : List Route} {acc : Accumulated}

theorem assembled_of_ok (hdoc : provisioningDocumentWithModeAndAccessPathsAndOptions user served
    mode accessPaths profile compat = .ok doc) :
    ∃ config, doc = assembled user served accessPaths doc.endpoints config := by
  simp only [provisioningDocumentWithModeAndAccessPathsAndOptions, Check.bind_eq_ok] at hdoc
  obtain ⟨_, -, _, -, _, -, config, -, _, -, hdoc⟩ := hdoc
  cases hdoc
  exact ⟨config, rfl⟩

theorem validateCapabilityNames_assembled (catalog : List Endpoint) (config : Json) :
    (assembled user served accessPaths catalog config).validateCapabilityNames = .ok () := by
  simp only [ProvisioningDocument.validateCapabilityNames, Check.bind_ok, Check.each_ok]
  refine ⟨fun cap hcap => ?_, fun cap hcap => ?_⟩
  · obtain ⟨ep, -, rfl⟩ := mem_capabilitiesOf.mp hcap
    have hname := capability_name ep
    simp only [List.mem_cons, List.not_mem_nil, or_false] at hname
    rcases hname with h | h <;> rw [h] <;> decide
  · have hname := mem_experimental hcap
    simp only [List.mem_cons, List.not_mem_nil, or_false] at hname
    rcases hname with h | h <;> rw [h] <;> decide

theorem validate_assembled {catalog : List Endpoint} {config : Json} :
    (assembled user served accessPaths catalog config).validate = .ok () ↔
      PathsChecked accessPaths ∧ (catalog.map (·.id)).Nodup ∧
      (∀ ep ∈ catalog, EndpointChecked (assembled user served accessPaths catalog config) ep) ∧
      (assembled user served accessPaths catalog config).auditSerialized = .ok () ∧
      (assembled user served accessPaths catalog config).auditEmbeddedConfig = .ok () ∧
      (assembled user served accessPaths catalog config).crossValidateEmbeddedConfig = .ok () := by
  generalize hdoc : assembled user served accessPaths catalog config = doc
  have hfixed : doc.schemaVersion = SCHEMA_VERSION ∧ doc.server = .current SERVER_VERSION ∧
      doc.accessPaths = accessPaths ∧ doc.endpoints = catalog := by
    rw [← hdoc]
    exact ⟨rfl, rfl, rfl, rfl⟩
  obtain ⟨hschema, hserver, hpaths, hcatalog⟩ := hfixed
  have hnames : doc.validateCapabilityNames = .ok () :=
    hdoc ▸ validateCapabilityNames_assembled catalog config
  have hcaps : ∀ cap ∈ doc.capabilities,
      (!doc.endpoints.any fun ep => Capability.forTransport ep.transport == cap) = false := by
    intro cap hcap
    rw [← hdoc] at hcap
    obtain ⟨ep, hep, hcap⟩ := mem_capabilitiesOf.mp hcap
    simp only [Bool.not_eq_false', List.any_eq_true, beq_iff_eq, hcatalog]
    exact ⟨ep, hep, hcap⟩
  have hserver' : nonEmpty "server.product" doc.server.product = .ok () ∧
      nonEmpty "server.version" doc.server.version = .ok () ∧
      nonEmpty "server.minimum_client_version" doc.server.minimumClientVersion = .ok () := by
    rw [hserver]
    decide
  simp only [ProvisioningDocument.validate, Check.bind_ok, Check.refuseIf_ok, Check.each_ok,
    hserver', hnames, Check.eachSeen_ok (EndpointChecked doc) (fun a b => a.id ≠ b.id)
      (fun _ _ => validateEndpoint_ok), hpaths, hcatalog, hschema, true_and]
  rw [hcatalog] at hcaps
  have hids : catalog.Pairwise (fun a b => a.id ≠ b.id) ↔ (catalog.map (·.id)).Nodup :=
    List.pairwise_map.symm
  rw [hids]
  constructor
  · rintro ⟨-, hpaths, ⟨hchecked, hnodup, -⟩, -, haudits⟩
    exact ⟨hpaths, hnodup, hchecked, haudits⟩
  · rintro ⟨hpaths, hnodup, hchecked, haudits⟩
    exact ⟨by decide, hpaths, ⟨hchecked, hnodup, by simp⟩, hcaps, haudits⟩

theorem rendered_of_ok (hdoc : provisioningDocumentWithModeAndAccessPathsAndOptions user served mode
    accessPaths profile compat = .ok doc) :
    ∃ given routes acc set, (ClientRenderer.provisioning mode).endpoints user served = .ok given ∧
      Provisioned given accessPaths profile compat doc routes acc set ∧
      Rendered given accessPaths compat routes acc := by
  simp only [provisioningDocumentWithModeAndAccessPathsAndOptions,
    renderSingboxConfigFromContractWithAccessPaths, Check.bind_eq_ok] at hdoc
  obtain ⟨given, hgiven, _, -, rendered, ⟨_, -, acc, hloop, _, -, set, hset, hrendered⟩, config,
    hconfig, _, hvalid, hdoc⟩ := hdoc
  cases hrendered
  obtain rfl := restore_config hconfig
  cases hdoc
  have hstart : Built ((selectableOf accessPaths given).map (·.id)) compat [] {} := ⟨rfl, rfl, rfl⟩
  obtain ⟨routes, hbuilt, hmap, hhops⟩ := routes_of_loop hstart hloop
  rw [List.filter_eq_self.mpr fun ep hep => isDialled_given hep] at hmap
  obtain ⟨hreality, hhysteria⟩ := loop_first compat hloop
  exact ⟨given, routes, acc, set, hgiven,
    ⟨hmap, hhops, hbuilt, hset, rfl, rfl, rfl, Check.mapError_ok.mp hvalid⟩,
    ⟨hmap, hhops, hbuilt, hreality, hhysteria⟩⟩

theorem servable_of_ok (hcompat : compat ≠ .hiddifyPinned)
    (hdoc : provisioningDocumentWithModeAndAccessPathsAndOptions user served mode accessPaths
      profile compat = .ok doc) {set : RouteSet}
    (hprov : Provisioned given accessPaths profile compat doc routes acc set) :
    Servable accessPaths given := by
  have hcatalog : doc.endpoints = selectableOf accessPaths given := by
    rw [hprov.catalog, catalogOf, if_neg hcompat]
  have hset : set = acc.routeSet profile compat := by
    have hgroups := hprov.groups
    rw [pinFor, if_neg hcompat] at hgroups
    exact (Except.ok.inj hgroups).symm
  have hout : set.outbounds = routes.map (Route.outbound compat) := hset ▸ hprov.built.outbounds
  have hconfig := hprov.config
  rw [servedOutbounds, if_neg hcompat] at hconfig
  obtain ⟨config, heq⟩ := assembled_of_ok hdoc
  have hvalid := hprov.valid
  rw [heq, validate_assembled, auditSerialized_assembled] at hvalid
  obtain ⟨hpaths, -, hchecked, ⟨hclean, hcleanPaths⟩, haudit, -⟩ := hvalid
  rw [auditEmbeddedConfig_ok (heq ▸ hconfig)] at haudit
  refine ⟨hpaths, hcleanPaths, fun ep hep => (hchecked ep (hcatalog ▸ hep)).valid,
    fun ep hep => hclean ep (hcatalog ▸ hep), fun ep hep => ?_⟩
  obtain ⟨r, hr, rfl⟩ := List.mem_map.mp (hprov.endpoints ▸ hep)
  have hpasses : Passes (r.outbound compat) :=
    haudit _ (mem_allOutbounds.mpr (.inl (hout ▸ List.mem_map_of_mem hr)))
  have hcarries := carries_outbound compat r
  exact dialable_of_passes hpasses (Dials.agreesWith hcarries.fields) hcarries.tagOf_eq

theorem Rendered.mem_given (h : Rendered given accessPaths compat routes acc) {r : Route}
    (hr : r ∈ routes) : r.endpoint ∈ given :=
  h.endpoints ▸ List.mem_map_of_mem hr

theorem Rendered.tags_mem (h : Rendered given accessPaths compat routes acc) :
    (∀ t ∈ acc.tags, t ∈ given.map (·.tag)) ∧ ∀ t ∈ acc.relayedTags, t ∈ given.map (·.tag) := by
  constructor
  · intro t ht
    rw [tags_of_built h.built h.endpoints] at ht
    exact (List.filter_sublist.map _).subset ht
  · intro t ht
    obtain ⟨r, hr, rfl⟩ := List.mem_map.mp (h.built.relayedTags ▸ ht)
    exact List.mem_map_of_mem (h.mem_given (List.mem_of_mem_filter hr))

theorem Rendered.defaultTag_mem (h : Rendered given accessPaths compat routes acc) :
    acc.defaultTag profile compat ∈ "auto" :: given.map (·.tag) := by
  obtain ⟨htags, hrelayed⟩ := h.tags_mem
  have hfirst : ∀ vless, ∀ t ∈ firstTag ((selectableOf accessPaths given).map (·.id)) vless given,
      t ∈ given.map (·.tag) := by
    intro vless t ht
    obtain ⟨ep, hep, rfl⟩ := Option.map_eq_some_iff.mp ht
    exact List.mem_map_of_mem (List.mem_of_find?_eq_some hep)
  -- whichever of the candidates is taken, it is a tag, or there is none
  have hgetD : ∀ o : Option String, (∀ t ∈ o, t ∈ given.map (·.tag)) →
      o.getD "auto" ∈ "auto" :: given.map (·.tag) := by
    intro o ho
    cases o with
    | none => simp
    | some t => exact List.mem_cons_of_mem _ (ho t rfl)
  have hhead : ∀ t ∈ acc.tags.head?, t ∈ given.map (·.tag) := fun t ht =>
    htags t (List.mem_of_mem_head? ht)
  have hreality : ∀ t ∈ acc.realityTag, t ∈ given.map (·.tag) := h.reality ▸ hfirst true
  have hhysteria : ∀ t ∈ acc.hysteria2Tag, t ∈ given.map (·.tag) := h.hysteria2 ▸ hfirst false
  have hor : ∀ a b : Option String, (∀ t ∈ a, t ∈ given.map (·.tag)) →
      (∀ t ∈ b, t ∈ given.map (·.tag)) → ∀ t ∈ a.or b, t ∈ given.map (·.tag) := by
    intro a b ha hb t ht
    cases a with
    | none => exact hb t ht
    | some _ => exact ha t ht
  unfold Accumulated.defaultTag
  split
  · exact List.mem_cons_self
  · split
    · next heq => exact List.mem_cons_of_mem _ (hrelayed _ (by rw [heq]; exact List.mem_cons_self))
    · cases profile with
      | performance => exact hgetD _ (hor _ _ (hor _ _ hhysteria hreality) hhead)
      | reliability => exact hgetD _ (hor _ _ hreality hhead)
      | auto => exact hgetD _ (hor _ _ hreality hhead)

theorem Rendered.passes (h : Rendered given accessPaths compat routes acc)
    (hdial : ∀ ep ∈ given, Dialable ep) :
    ∀ ob ∈ (acc.routeSet profile compat).allOutbounds, Passes ob := by
  have htag : ∀ t ∈ given.map (·.tag), Passes (.str t) := by
    rw [List.forall_mem_map]
    exact fun ep hep => (hdial ep hep).tag
  obtain ⟨htags, hrelayed⟩ := h.tags_mem
  refine passes_allOutbounds ?_ (fun t ht => htag t (htags t ht)) ?_ ?_
  · have hout : (acc.routeSet profile compat).outbounds = routes.map (Route.outbound compat) :=
      h.built.outbounds
    rw [hout, List.forall_mem_map]
    intro r hr
    refine passes_outbound (hdial _ (h.mem_given hr)) fun via hvia => ?_
    have hhop := h.hops r hr
    rw [hvia] at hhop
    obtain ⟨-, path, -, -, -, -, hmem⟩ := hopOf_some hhop
    exact (hdial via hmem).tag
  · intro t ht
    simp only [Accumulated.routeSet] at ht
    split at ht
    · exact htag t (htags t ht)
    · exact htag t (hrelayed t ht)
  · have hdefault : acc.defaultTag profile compat ∈ "auto" :: given.map (·.tag) :=
      h.defaultTag_mem
    rcases List.mem_cons.mp hdefault with hauto | hmem
    · show Passes (.str (acc.defaultTag profile compat))
      rw [hauto]
      exact passes_fixed _ (by decide)
    · exact htag _ hmem

theorem document_of_parts {rendered config : Json}
    (hgiven : (ClientRenderer.provisioning mode).endpoints user served = .ok given)
    (hne : selectableOf accessPaths given ≠ [])
    (hrender : renderSingboxConfigFromContractWithAccessPaths given
      ((selectableOf accessPaths given).map (·.id)) accessPaths profile compat = .ok rendered)
    (hrestore : restoreApplicationUdpOnRelayedVless rendered compat = .ok config)
    (hvalid : (assembled user served accessPaths
      (catalogOf compat config (selectableOf accessPaths given)) config).validate = .ok ()) :
    provisioningDocumentWithModeAndAccessPathsAndOptions user served mode accessPaths profile
      compat = .ok (assembled user served accessPaths
        (catalogOf compat config (selectableOf accessPaths given)) config) := by
  simp only [provisioningDocumentWithModeAndAccessPathsAndOptions, Check.bind_eq_ok]
  refine ⟨given, hgiven, (), ?_, rendered, hrender, config, hrestore, (), ?_, rfl⟩
  · rw [Check.refuseIf_ok, Bool.and_eq_false_iff, List.isEmpty_eq_false_iff]
    exact .inl hne
  · rw [Check.mapError_ok]
    exact hvalid

theorem document_ok (hcompat : compat ≠ .hiddifyPinned)
    (hgiven : (ClientRenderer.provisioning mode).endpoints user served = .ok given)
    (hids : (given.map Endpoint.id).Nodup) (htags : (given.map Endpoint.tag).Nodup)
    (hres : ∀ ep ∈ given, ep.tag ∉ ["auto", "select", "direct"])
    (hhops : ∀ ep ∈ given, ∃ hop,
      hopOf given ((selectableOf accessPaths given).map (·.id)) accessPaths ep = .ok hop)
    (hne : selectableOf accessPaths given ≠ []) (hs : Servable accessPaths given) :
    ∃ doc, provisioningDocumentWithModeAndAccessPathsAndOptions user served mode accessPaths
      profile compat = .ok doc ∧ doc.endpoints = selectableOf accessPaths given := by
  obtain ⟨routes, acc, hrendered, hrender⟩ := render_of_hops profile compat htags hhops hne
  rw [pinFor, if_neg hcompat] at hrender
  have hvalid : (assembled user served accessPaths (selectableOf accessPaths given)
      ((acc.routeSet profile compat).config compat)).validate = .ok () := by
    refine validate_assembled.mpr ⟨hs.paths, (List.filter_sublist.map _).nodup hids, ?_,
      auditSerialized_assembled.mpr ⟨hs.clean, hs.cleanPaths⟩, ?_,
      crossValidate_built hrendered.built htags hres hrendered.endpoints hrendered.hops rfl rfl rfl⟩
    · intro ep hep
      refine ⟨hs.valid ep hep, fun hnil pathId hpath => ?_, mem_capabilitiesOf.mpr ⟨ep, hep, rfl⟩⟩
      obtain ⟨hop, hhop⟩ := hhops ep (List.mem_of_mem_filter hep)
      cases hop with
      | none =>
        rcases hopOf_none hhop with hsel | hempty | hdirect
        · exact absurd (List.mem_map_of_mem hep) hsel
        · exact absurd hempty hnil
        · exact absurd hpath (hdirect pathId)
      | some via =>
        obtain ⟨-, path, hmem, hother, -⟩ := hopOf_some hhop
        rw [hpath, Option.some.injEq, PathType.other.injEq] at hother
        exact ⟨path, hmem, hother.symm⟩
    · exact (auditEmbeddedConfig_ok rfl).mpr (hrendered.passes hs.dialable)
  have hcatalog : catalogOf compat ((acc.routeSet profile compat).config compat)
      (selectableOf accessPaths given) = selectableOf accessPaths given := by
    rw [catalogOf, if_neg hcompat]
  refine ⟨_, document_of_parts hgiven hne hrender ?_ ?_, hcatalog⟩
  · rw [restoreApplicationUdpOnRelayedVless, if_pos hcompat]
  · rw [hcatalog]
    exact hvalid

end Document

end SingboxVpn
