import SingboxVpn.Client.Provision

/-!
# The privacy class of a client's configuration

A client with a relayed route must never connect to an exit from its own address unless its user
chooses a direct route.  This module follows the routes of a document into its configuration,
through the pinning and the renaming of tags, to the checks that compare the two.

* `Layout`, `layout_of_provisioned` — which routes a configuration holds, and under which tags.
* `PrivacyClass`, `privacy_class` — the automatic group and the default stay relayed, and every
  relayed endpoint is dialled through its own first hop.
-/

namespace SingboxVpn

/-! ### The routes of a configuration -/

structure Layout (compat : CompatibilityMode) (routes kept : List Route)
    (shown : String → String) (proxies : List Json) : Prop where
  carries : List.Forall₂ (Carries compat shown) kept proxies
  sublist : kept.Sublist routes
  hops : HopsDirect kept
  /-- Only a route that is dialled directly is renamed. -/
  relayed : ∀ r ∈ kept, r.hop.isSome = true → shown r.tag = r.tag
  /-- The tag that is renamed is that of a first hop, and it is hidden. -/
  renamed : ∀ q ∈ kept, shown q.tag = q.tag ∨
    shown q.tag = hiddenTag q.tag ∧ ∃ r ∈ kept, r.hop = some q.endpoint
  groups : ∀ r ∈ kept, shown r.tag ∉ ["auto", "select", "direct"]
  /-- Two routes with one tag differ in that only one of them is relayed. -/
  apart : ∀ r ∈ kept, ∀ q ∈ kept, shown r.tag = shown q.tag → r.hop.isSome = q.hop.isSome → r = q

/-- The configuration offers one route, with what it is dialled through. -/
structure PinnedTo (kept : List Route) (shown : String → String) (set : RouteSet) (r : Route) :
    Prop where
  mem : r ∈ kept
  tags : set.tags = [r.tag]
  autoMembers : set.autoMembers = [r.tag]
  defaultTag : set.defaultTag = r.tag
  others : ∀ q ∈ kept, q = r ∨ (r.hop = some q.endpoint ∧ shown q.tag = hiddenTag q.tag)

section Layout

variable {given : List Endpoint} {accessPaths : List AccessPath} {profile : SelectionProfile}
  {compat : CompatibilityMode} {doc : ProvisioningDocument} {routes : List Route}
  {acc : Accumulated} {set : RouteSet}

theorem mem_selectableOf {ep : Endpoint} (hep : ep ∈ given)
    (hid : ep.id ∈ (selectableOf accessPaths given).map (·.id)) :
    ep ∈ selectableOf accessPaths given := by
  obtain ⟨ep', hep', heq⟩ := List.mem_map.mp hid
  refine List.mem_filter.mpr ⟨hep, ?_⟩
  rw [← heq]
  exact (List.mem_filter.mp hep').2

theorem hopsDirect_of_hops (hmap : routes.map Route.endpoint = given)
    (hhops : ∀ r ∈ routes, hopOf given ((selectableOf accessPaths given).map (·.id)) accessPaths
      r.endpoint = .ok r.hop) : HopsDirect routes := by
  intro r hr via hvia
  have hhop := hhops r hr
  rw [hvia] at hhop
  obtain ⟨-, path, hpath, -, hkind, hviaId, hmem⟩ := hopOf_some hhop
  rw [← hmap] at hmem
  obtain ⟨q, hq, rfl⟩ := List.mem_map.mp hmem
  refine ⟨q, hq, rfl, ?_⟩
  have hinfra : q.endpoint.id ∈ infrastructureEndpointIds accessPaths :=
    List.mem_filterMap.mpr ⟨path, List.mem_filter.mpr ⟨hpath, by simp [hkind]⟩, hviaId⟩
  cases hop : q.hop with
  | none => rfl
  | some via' =>
    have hq' := hhops q hq
    rw [hop] at hq'
    obtain ⟨ep, hep, hid⟩ := List.mem_map.mp (hopOf_some hq').1
    have hnot := (List.mem_filter.mp hep).2
    rw [hid] at hnot
    simp [hinfra] at hnot

theorem hiddenTag_unreserved (tag : String) : hiddenTag tag ∉ ["auto", "select", "direct"] := by
  -- a hidden tag ends in the marker, and none of these does
  have hlast : (hiddenTag tag).toList.getLast? = some '§' := by
    simp [hiddenTag, HIDDIFY_HIDDEN_TAG_SUFFIX, String.toList_append, List.getLast?_append]
  intro hmem
  simp only [List.mem_cons, List.not_mem_nil, or_false] at hmem
  rcases hmem with h | h | h <;> rw [h] at hlast <;> exact absurd hlast (by decide)

theorem layout_full (hdirect : HopsDirect routes) (hnodup : (routes.map Route.tag).Nodup)
    (hres : ∀ r ∈ routes, r.tag ∉ ["auto", "select", "direct"]) :
    Layout compat routes routes id (routes.map (Route.outbound compat)) where
  carries := by
    rw [List.forall₂_map_right_iff, List.forall₂_same]
    exact fun r _ => carries_outbound compat r
  sublist := List.Sublist.refl _
  hops := hdirect
  relayed _ _ _ := rfl
  renamed _ _ := .inl rfl
  groups := hres
  apart _ hr _ hq heq _ := List.inj_on_of_nodup_map hnodup hr hq heq

variable {r : Route}

theorem mem_pinned {q : Route} (hnodup : (routes.map Route.tag).Nodup)
    (hdirect : HopsDirect routes) (hr : r ∈ routes) (hq : q ∈ routes)
    (hchain : r.chain.contains q.tag = true) :
    (q = r ∧ r.shown q.tag = q.tag) ∨
      (q.hop = none ∧ r.hop = some q.endpoint ∧ r.shown q.tag = hiddenTag q.tag) := by
  cases hop : r.hop with
  | none =>
    left
    have htag : q.tag = r.tag := by simpa [Route.chain, hop] using hchain
    exact ⟨List.inj_on_of_nodup_map hnodup hq hr htag, by simp [Route.shown, hop]⟩
  | some via =>
    have htag : q.tag = r.tag ∨ q.tag = via.tag := by simpa [Route.chain, hop] using hchain
    rcases htag with htag | htag
    · left
      refine ⟨List.inj_on_of_nodup_map hnodup hq hr htag, ?_⟩
      have hne : r.tag ≠ via.tag := (hop_tag_ne hnodup hdirect hr hop).symm
      simp [Route.shown, hop, htag, hne]
    · right
      obtain ⟨v, hv, rfl, hnone⟩ := hdirect r hr via hop
      obtain rfl : q = v := List.inj_on_of_nodup_map hnodup hq hv htag
      exact ⟨hnone, rfl, by simp [Route.shown, hop, Route.tag]⟩

theorem layout_pinned {proxies : List Json} (hdirect : HopsDirect routes)
    (hnodup : (routes.map Route.tag).Nodup)
    (hres : ∀ r ∈ routes, r.tag ∉ ["auto", "select", "direct"]) (hr : r ∈ routes)
    (hcarries : List.Forall₂ (Carries compat r.shown) (routes.filter fun q => r.chain.contains
      q.tag) proxies) :
    Layout compat routes (routes.filter fun q => r.chain.contains q.tag) r.shown proxies := by
  have hcases : ∀ q ∈ routes.filter fun q => r.chain.contains q.tag,
      (q = r ∧ r.shown q.tag = q.tag) ∨
        (q.hop = none ∧ r.hop = some q.endpoint ∧ r.shown q.tag = hiddenTag q.tag) := by
    intro q hq
    obtain ⟨hmem, hchain⟩ := List.mem_filter.mp hq
    exact mem_pinned hnodup hdirect hr hmem hchain
  have hmem : r ∈ routes.filter fun q => r.chain.contains q.tag :=
    List.mem_filter.mpr ⟨hr, by simp [Route.chain]⟩
  refine ⟨hcarries, List.filter_sublist, ?_, ?_, ?_, ?_, ?_⟩
  · intro q hq via hvia
    rcases hcases q hq with ⟨rfl, -⟩ | ⟨hnone, -⟩
    · obtain ⟨v, hv, rfl, hnone⟩ := hdirect q hr via hvia
      refine ⟨v, List.mem_filter.mpr ⟨hv, ?_⟩, rfl, hnone⟩
      simp [Route.chain, Option.mem_def.mp hvia, Route.tag]
    · rw [hnone] at hvia
      cases hvia
  · intro q hq hsome
    rcases hcases q hq with ⟨-, hshown⟩ | ⟨hnone, -⟩
    · exact hshown
    · simp [hnone] at hsome
  · intro q hq
    rcases hcases q hq with ⟨-, hshown⟩ | ⟨-, hhop, hshown⟩
    · exact .inl hshown
    · exact .inr ⟨hshown, r, hmem, hhop⟩
  · intro q hq
    rcases hcases q hq with ⟨-, hshown⟩ | ⟨-, -, hshown⟩
    · rw [hshown]
      exact hres q (List.mem_of_mem_filter hq)
    · rw [hshown]
      exact hiddenTag_unreserved q.tag
  · intro q hq q' hq' _ hsame
    rcases hcases q hq with ⟨rfl, -⟩ | ⟨hnone, hhop, -⟩ <;>
      rcases hcases q' hq' with ⟨rfl, -⟩ | ⟨hnone', hhop', -⟩
    · rfl
    · simp [hnone', hhop'] at hsame
    · simp [hnone, hhop] at hsame
    · -- both are the one hop
      have hep : q.endpoint = q'.endpoint := Option.some.inj (hhop.symm.trans hhop')
      exact List.inj_on_of_nodup_map hnodup (List.mem_of_mem_filter hq)
        (List.mem_of_mem_filter hq') (congrArg Endpoint.tag hep)

theorem defaultTag_relayed
    (hbuilt : Built ((selectableOf accessPaths given).map (·.id)) compat routes acc)
    (hr : r ∈ routes) (hhop : r.hop.isSome = true) :
    (compat ≠ .hiddifyPinned ∧ acc.defaultTag profile compat = "auto") ∨
      ∃ q ∈ routes, q.hop.isSome = true ∧ q.tag = acc.defaultTag profile compat := by
  unfold Accumulated.defaultTag
  split
  · next hauto => exact .inl ⟨hauto.2, rfl⟩
  · right
    have hmem : r.tag ∈ acc.relayedTags := by
      rw [hbuilt.relayedTags]
      exact List.mem_map_of_mem (List.mem_filter.mpr ⟨hr, hhop⟩)
    cases hrelayed : acc.relayedTags with
    | nil =>
      rw [hrelayed] at hmem
      cases hmem
    | cons first rest =>
      have hfirst : first ∈ acc.relayedTags := by
        rw [hrelayed]
        exact List.mem_cons_self
      rw [hbuilt.relayedTags] at hfirst
      obtain ⟨q, hq, rfl⟩ := List.mem_map.mp hfirst
      obtain ⟨hmem, hsome⟩ := List.mem_filter.mp hq
      exact ⟨q, hmem, hsome, rfl⟩

theorem layout_of_provisioned
    (h : Provisioned given accessPaths profile compat doc routes acc set)
    (htags : (given.map Endpoint.tag).Nodup)
    (hres : ∀ ep ∈ given, ep.tag ∉ ["auto", "select", "direct"]) :
    ∃ kept shown, Layout compat routes kept shown (servedOutbounds compat set) ∧
      (∀ tag ∈ set.tags, ∃ q ∈ kept, q.endpoint ∈ selectableOf accessPaths given ∧ q.tag = tag ∧
        shown tag = tag) ∧
      (∀ r ∈ routes, r.hop.isSome = true →
        set.defaultTag = "auto" ∨ ∃ q ∈ kept, q.hop.isSome = true ∧ q.tag = set.defaultTag) ∧
      (compat = .hiddifyPinned → ∃ r, PinnedTo kept shown set r) := by
  have hdirect := hopsDirect_of_hops h.endpoints h.hops
  have hnodup : (routes.map Route.tag).Nodup := by
    rw [← h.endpoints, List.map_map] at htags
    exact htags
  have hres' : ∀ r ∈ routes, r.tag ∉ ["auto", "select", "direct"] := fun r hr =>
    hres r.endpoint (h.endpoints ▸ List.mem_map_of_mem hr)
  -- what may be chosen is among the routes
  have hoffered : ∀ tag ∈ acc.tags, ∃ q ∈ routes, q.endpoint ∈ selectableOf accessPaths given ∧
      q.tag = tag := by
    intro tag htag
    rw [h.built.tags] at htag
    obtain ⟨q, hq, rfl⟩ := List.mem_map.mp htag
    obtain ⟨hmem, hsel⟩ := List.mem_filter.mp hq
    refine ⟨q, hmem, mem_selectableOf (h.endpoints ▸ List.mem_map_of_mem hmem) ?_, rfl⟩
    exact List.contains_iff_mem.mp hsel
  have hgroups := h.groups
  unfold pinFor at hgroups
  by_cases hc : compat = .hiddifyPinned
  · rw [if_pos hc] at hgroups
    -- the route that is kept is one of those that may be chosen
    have hkeep : acc.defaultTag profile compat ∈ acc.tags := by
      have hpin := hgroups
      simp only [pinToSingleRoute, Check.bind_ok, Check.refuseIf_ok] at hpin
      simpa [Accumulated.routeSet] using hpin.1
    obtain ⟨r, hr, hsel, hrtag⟩ := hoffered _ hkeep
    obtain ⟨hpinned, hauto, hdefault, hcarries⟩ := pin_ok h.built.outbounds hnodup hdirect hr
      hrtag.symm hgroups
    have hmem : r ∈ routes.filter fun q => r.chain.contains q.tag :=
      List.mem_filter.mpr ⟨hr, by simp [Route.chain]⟩
    have hserved : List.Forall₂ (Carries compat r.shown)
        (routes.filter fun q => r.chain.contains q.tag) (servedOutbounds compat set) := by
      rw [servedOutbounds, if_pos hc, List.forall₂_map_right_iff]
      exact hcarries.imp fun q ob hq => hq.restore
    refine ⟨_, _, layout_pinned hdirect hnodup hres' hr hserved, ?_, ?_, ?_⟩
    · intro tag htag
      rw [hpinned, List.mem_singleton] at htag
      refine ⟨r, hmem, hsel, htag.symm, ?_⟩
      rcases mem_pinned hnodup hdirect hr hr (List.mem_filter.mp hmem).2 with
        ⟨-, hshown⟩ | ⟨hnone, hhop, -⟩
      · rw [htag, hshown]
      · rw [hnone] at hhop
        cases hhop
    · intro r' hr' hsome
      rcases defaultTag_relayed h.built hr' hsome with ⟨hne, -⟩ | ⟨q, hq, hqsome, hqtag⟩
      · exact absurd hc hne
      · obtain rfl : q = r := List.inj_on_of_nodup_map hnodup hq hr (hqtag.trans hrtag.symm)
        exact .inr ⟨q, hmem, hqsome, hdefault.symm⟩
    · refine fun _ => ⟨r, hmem, hpinned, hauto, hdefault, ?_⟩
      intro q hq
      obtain ⟨hqmem, hchain⟩ := List.mem_filter.mp hq
      exact (mem_pinned hnodup hdirect hr hqmem hchain).imp And.left And.right
  · rw [if_neg hc] at hgroups
    obtain rfl := Except.ok.inj hgroups
    have hserved : servedOutbounds compat (acc.routeSet profile compat) =
        routes.map (Route.outbound compat) := by
      rw [servedOutbounds, if_neg hc]
      exact h.built.outbounds
    rw [hserved]
    refine ⟨routes, id, layout_full hdirect hnodup hres', ?_, ?_, fun hpinned => absurd hpinned hc⟩
    · intro tag htag
      obtain ⟨q, hq, hsel, heq⟩ := hoffered tag htag
      exact ⟨q, hq, hsel, heq, rfl⟩
    · intro r hr hsome
      exact (defaultTag_relayed h.built hr hsome).imp And.right id

end Layout

/-! ### One outbound for each tag -/

theorem forall₂_mem {α β : Type} {R : α → β → Prop} {l : List α} {l' : List β}
    (h : List.Forall₂ R l l') :
    (∀ a ∈ l, ∃ b ∈ l', R a b) ∧ ∀ b ∈ l', ∃ a ∈ l, R a b := by
  induction h with
  | nil => simp
  | cons hab _ ih =>
    constructor
    · rintro a (_ | ⟨_, ha⟩)
      · exact ⟨_, List.mem_cons_self, hab⟩
      · obtain ⟨b, hb, hR⟩ := ih.1 a ha
        exact ⟨b, List.mem_cons_of_mem _ hb, hR⟩
    · rintro b (_ | ⟨_, hb⟩)
      · exact ⟨_, List.mem_cons_self, hab⟩
      · obtain ⟨a, ha, hR⟩ := ih.2 b hb
        exact ⟨a, List.mem_cons_of_mem _ ha, hR⟩

theorem tags_of_carries {compat : CompatibilityMode} {shown : String → String} {kept : List Route}
    {proxies : List Json} (h : List.Forall₂ (Carries compat shown) kept proxies) :
    proxies.map tagOf = kept.map fun r => some (shown r.tag) := by
  induction h with
  | nil => rfl
  | cons hcarries _ ih => rw [List.map_cons, List.map_cons, hcarries.tagOf_eq, ih]

def typeOf (ob : Json) : Option String := (ob.get? "type").bind Json.asStr

theorem Carries.typeOf_eq {compat : CompatibilityMode} {shown : String → String} {r : Route}
    {ob : Json} (h : Carries compat shown r ob) :
    typeOf ob = some (if r.endpoint.isVless then "vless" else "hysteria2") := by
  rw [typeOf, h.fields "type" (by decide), (get?_endpointOutbound compat r.endpoint).2.2]
  rfl

namespace RouteSet

variable (set : RouteSet)

@[simp] theorem tagOf_automaticGroup : tagOf set.automaticGroup = some "auto" := by
  simp [tagOf, automaticGroup, Json.get?_object, Json.lookup_cons_ite]

@[simp] theorem tagOf_selectorGroup : tagOf set.selectorGroup = some "select" := by
  simp [tagOf, selectorGroup, Json.get?_object, Json.lookup_cons_ite]

@[simp] theorem tagOf_directOutbound : tagOf directOutbound = some "direct" := by
  simp [tagOf, directOutbound, Json.get?_object]

@[simp] theorem typeOf_automaticGroup : typeOf set.automaticGroup = some "urltest" := by
  simp [typeOf, automaticGroup, Json.get?_object, Json.lookup_cons_ite]

@[simp] theorem typeOf_selectorGroup : typeOf set.selectorGroup = some "selector" := by
  simp [typeOf, selectorGroup, Json.get?_object, Json.lookup_cons_ite]

@[simp] theorem typeOf_directOutbound : typeOf directOutbound = some "direct" := by
  simp [typeOf, directOutbound, Json.get?_object, Json.lookup_cons_ite]

@[simp] theorem automaticGroup_outbounds :
    set.automaticGroup.get? "outbounds" = some (Json.strs set.autoMembers) := by
  simp [automaticGroup, Json.get?_object, Json.lookup_cons_ite]

@[simp] theorem selectorGroup_outbounds :
    set.selectorGroup.get? "outbounds" = some (Json.strs (set.tags ++ ["auto"])) := by
  simp [selectorGroup, Json.get?_object, Json.lookup_cons_ite]

@[simp] theorem selectorGroup_default :
    set.selectorGroup.get? "default" = some (.str set.defaultTag) := by
  simp [selectorGroup, Json.get?_object]

end RouteSet

section Unique

variable {compat : CompatibilityMode} {routes kept : List Route} {shown : String → String}
  {set : RouteSet}

theorem mem_allOutbounds {ob : Json} : ob ∈ set.allOutbounds ↔ ob ∈ set.outbounds ∨
    ob = set.automaticGroup ∨ ob = set.selectorGroup ∨ ob = RouteSet.directOutbound := by
  simp [RouteSet.allOutbounds]

theorem outbound_unique (h : Layout compat routes kept shown set.outbounds)
    (hnodup : routes.Nodup)
    (hinj : ∀ r ∈ kept, ∀ q ∈ kept, shown r.tag = shown q.tag → r = q) {r : Route} (hr : r ∈ kept) :
    ∃ ob, set.allOutbounds.filter (fun ob => tagOf ob == some (shown r.tag)) = [ob] ∧
      Carries compat shown r ob := by
  obtain ⟨ob, hob, hcarries⟩ := (forall₂_mem h.carries).1 r hr
  refine ⟨ob, ?_, hcarries⟩
  have hkeys : (set.outbounds.map tagOf).Nodup := by
    rw [tags_of_carries h.carries]
    refine List.Nodup.map_on ?_ (h.sublist.nodup hnodup)
    intro a ha b hb heq
    exact hinj a ha b hb (Option.some.inj heq)
  have hproxies := Owned.filter_key hkeys hob
  rw [hcarries.tagOf_eq] at hproxies
  -- the groups have tags of their own
  have hgroups := h.groups r hr
  simp only [List.mem_cons, List.not_mem_nil, or_false, not_or] at hgroups
  obtain ⟨hauto, hselect, hdirect⟩ := hgroups
  rw [RouteSet.allOutbounds, List.filter_append, hproxies]
  simp [Ne.symm hauto, Ne.symm hselect, Ne.symm hdirect]

theorem groups_unique (h : Layout compat routes kept shown set.outbounds) :
    set.allOutbounds.filter (fun ob => typeOf ob == some "urltest") = [set.automaticGroup] ∧
      set.allOutbounds.filter (fun ob => typeOf ob == some "selector") = [set.selectorGroup] := by
  have hproxies : ∀ type, type ≠ "vless" → type ≠ "hysteria2" →
      set.outbounds.filter (fun ob => typeOf ob == some type) = [] := by
    intro type hvless hhysteria
    rw [List.filter_eq_nil_iff]
    intro ob hob
    obtain ⟨r, -, hcarries⟩ := (forall₂_mem h.carries).2 ob hob
    rw [hcarries.typeOf_eq]
    split
    · simpa using Ne.symm hvless
    · simpa using Ne.symm hhysteria
  rw [RouteSet.allOutbounds, List.filter_append, List.filter_append,
    hproxies "urltest" (by decide) (by decide), hproxies "selector" (by decide) (by decide)]
  simp

end Unique

/-! ### The catalog and the routes -/

def ViaOf (accessPaths : List AccessPath) (ep via : Endpoint) : Prop :=
  ∃ path ∈ accessPaths, ep.path = some (.other path.id) ∧ path.kind = .relay ∧
    path.viaEndpointId = some via.id

structure Arranged (compat : CompatibilityMode) (doc : ProvisioningDocument)
    (routes kept : List Route) (shown : String → String) (set : RouteSet) : Prop where
  layout : Layout compat routes kept shown set.outbounds
  distinct : ∀ r ∈ kept, ∀ q ∈ kept, shown r.tag = shown q.tag → r = q
  tags : set.tags.Perm (doc.endpoints.map (·.tag))
  listed : ∀ ep ∈ doc.endpoints, ∃ r ∈ kept, r.endpoint = ep ∧ shown r.tag = r.tag ∧
    (doc.isRelayed ep = true → r.hop.isSome = true)
  relayed : ∀ r ∈ kept, r.hop.isSome = true →
    r.endpoint ∈ doc.endpoints ∧ doc.isRelayed r.endpoint = true
  vias : ∀ r ∈ kept, ∀ via ∈ r.hop, ViaOf doc.accessPaths r.endpoint via
  infrastructure : ∀ ep ∈ doc.endpoints, ep.id ∉ infrastructureEndpointIds doc.accessPaths

section Arranged

variable {given : List Endpoint} {accessPaths : List AccessPath} {profile : SelectionProfile}
  {compat : CompatibilityMode} {doc : ProvisioningDocument} {routes kept : List Route}
  {shown : String → String} {acc : Accumulated} {set served : RouteSet}

variable {ep via : Endpoint} {r : Route}

theorem ViaOf.infrastructure (h : ViaOf accessPaths ep via) :
    via.id ∈ infrastructureEndpointIds accessPaths := by
  obtain ⟨path, hpath, -, hkind, hvia⟩ := h
  exact List.mem_filterMap.mpr ⟨path, List.mem_filter.mpr ⟨hpath, by simp [hkind]⟩, hvia⟩

theorem ViaOf.isRelayed (h : ViaOf doc.accessPaths ep via) : doc.isRelayed ep = true := by
  obtain ⟨path, hpath, hother, hkind, -⟩ := h
  simp only [ProvisioningDocument.isRelayed, hother, List.any_eq_true]
  exact ⟨path, hpath, by simp [hkind]⟩

theorem viaOf_hop (h : Provisioned given accessPaths profile compat doc routes acc set)
    (hr : r ∈ routes) (hvia : r.hop = some via) :
    r.endpoint ∈ selectableOf accessPaths given ∧ ViaOf doc.accessPaths r.endpoint via := by
  have hok := h.hops r hr
  rw [hvia] at hok
  obtain ⟨hsel, path, hpath, hother, hkind, hid, -⟩ := hopOf_some hok
  refine ⟨mem_selectableOf (h.endpoints ▸ List.mem_map_of_mem hr) hsel, path, ?_, hother, hkind,
    hid⟩
  rwa [h.accessPaths_eq]

theorem isRelayed_of_hop (h : Provisioned given accessPaths profile compat doc routes acc set)
    (hr : r ∈ routes) (hhop : r.hop.isSome = true) :
    r.endpoint ∈ selectableOf accessPaths given ∧ doc.isRelayed r.endpoint = true := by
  obtain ⟨via, hvia⟩ := Option.isSome_iff_exists.mp hhop
  obtain ⟨hsel, hpath⟩ := viaOf_hop h hr hvia
  exact ⟨hsel, hpath.isRelayed⟩

theorem listed_of_rendered (h : Provisioned given accessPaths profile compat doc routes acc set)
    (hsel : ep ∈ selectableOf accessPaths given) {ob : Json}
    (hob : ob ∈ servedOutbounds compat set) (htag : tagOf ob = some ep.tag) :
    ep ∈ doc.endpoints := by
  rw [h.catalog, catalogOf]
  split
  · refine List.mem_filter.mpr ⟨hsel, ?_⟩
    simp only [Json.idx, get?_config_outbounds, Option.getD_some, Json.asArray_arr,
      Option.any_some, List.any_eq_true]
    exact ⟨ob, mem_allOutbounds.mpr (.inl hob), by simpa using htag⟩
  · exact hsel

theorem catalog_selectable (h : Provisioned given accessPaths profile compat doc routes acc set)
    (hep : ep ∈ doc.endpoints) : ep ∈ selectableOf accessPaths given := by
  rw [h.catalog, catalogOf] at hep
  split at hep
  · exact List.mem_of_mem_filter hep
  · exact hep

theorem crossChecked_of_provisioned
    (h : Provisioned given accessPaths profile compat doc routes acc set) :
    CrossChecked doc (RouteSet.config { set with outbounds := servedOutbounds compat set } compat)
      (RouteSet.allOutbounds { set with outbounds := servedOutbounds compat set }) :=
  crossChecked_of_validate h.valid h.config (by simp)

theorem tags_perm {config : Json} (hcheck : CrossChecked doc config set.allOutbounds)
    (hlay : Layout compat routes kept shown set.outbounds) :
    set.tags.Perm (doc.endpoints.map (·.tag)) := by
  obtain ⟨selector, hmem, htag, options, hoptions, hperm⟩ := hcheck.options
  -- no route has the tag of the selector
  have hselector : selector = set.selectorGroup := by
    rcases mem_allOutbounds.mp hmem with hob | rfl | rfl | rfl
    · obtain ⟨r, hr, hcarries⟩ := (forall₂_mem hlay.carries).2 selector hob
      rw [hcarries.tagOf_eq] at htag
      have hgroup := hlay.groups r hr
      rw [Option.some.inj htag] at hgroup
      exact absurd hgroup (by decide)
    · simp [SELECTOR_GROUP_TAG] at htag
    · rfl
    · simp [SELECTOR_GROUP_TAG] at htag
  subst hselector
  have hfound : options.filterMap Json.asStr = set.tags ++ ["auto"] := by
    simp only [RouteSet.selectorGroup_outbounds, Option.bind_some, Json.asArray_strs,
      Option.some.injEq] at hoptions
    rw [← hoptions, Json.filterMap_asStr_map_str]
  rw [hfound] at hperm
  exact (List.perm_append_right_iff _).mp hperm

theorem relayed_listed (h : Provisioned given accessPaths profile compat doc routes acc set)
    (hlay : Layout compat routes kept shown (servedOutbounds compat set)) (hr : r ∈ kept)
    (hhop : r.hop.isSome = true) :
    r.endpoint ∈ doc.endpoints ∧ doc.isRelayed r.endpoint = true := by
  obtain ⟨hsel, hrelayed⟩ := isRelayed_of_hop h (hlay.sublist.subset hr) hhop
  obtain ⟨ob, hob, hcarries⟩ := (forall₂_mem hlay.carries).1 r hr
  refine ⟨listed_of_rendered h hsel hob ?_, hrelayed⟩
  rw [hcarries.tagOf_eq, hlay.relayed r hr hhop]
  rfl

theorem arranged_of_provisioned
    (h : Provisioned given accessPaths profile compat doc routes acc set)
    (htags : (given.map Endpoint.tag).Nodup)
    (hres : ∀ ep ∈ given, ep.tag ∉ ["auto", "select", "direct"]) :
    ∃ kept shown, Arranged compat doc routes kept shown
        { set with outbounds := servedOutbounds compat set } ∧
      (∀ r ∈ routes, r.hop.isSome = true →
        set.defaultTag = "auto" ∨ ∃ q ∈ kept, q.hop.isSome = true ∧ q.tag = set.defaultTag) ∧
      (compat = .hiddifyPinned → ∃ r, PinnedTo kept shown set r) := by
  obtain ⟨kept, shown, hlay, hoffered, hdefault, hpinned⟩ := layout_of_provisioned h htags hres
  have hcheck := crossChecked_of_provisioned h
  -- an outbound with the tag of a relayed route has a detour, so it is the route's own
  have hchained : ∀ r ∈ kept, ∀ q ∈ kept, r.hop.isSome = true → shown r.tag = shown q.tag →
      q.hop.isSome = true := by
    intro r hr q hq hhop heq
    obtain ⟨hlisted, hrelayed⟩ := relayed_listed h hlay hr hhop
    obtain ⟨ob, hob, hcarries⟩ := (forall₂_mem hlay.carries).1 q hq
    have htag : tagOf ob = some r.endpoint.tag := by
      rw [hcarries.tagOf_eq, ← heq, hlay.relayed r hr hhop]
      rfl
    have hdetour := hcheck.chained r.endpoint hlisted hrelayed ob
      (mem_allOutbounds.mpr (.inl hob)) htag
    rw [hcarries.detourOf_eq] at hdetour
    simpa using hdetour
  have hperm := tags_perm hcheck hlay
  refine ⟨kept, shown, ⟨hlay, ?_, hperm, ?_, fun r hr hhop => relayed_listed h hlay hr hhop,
    fun r hr via hvia => (viaOf_hop h (hlay.sublist.subset hr) hvia).2, ?_⟩, hdefault,
    hpinned⟩
  · intro r hr q hq heq
    refine hlay.apart r hr q hq heq ?_
    rw [Bool.eq_iff_iff]
    exact ⟨fun hhop => hchained r hr q hq hhop heq, fun hhop => hchained q hq r hr hhop heq.symm⟩
  · intro ep hep
    obtain ⟨r, hr, hsel, htag, hshown⟩ :=
      hoffered ep.tag (hperm.symm.subset (List.mem_map_of_mem hep))
    obtain rfl : r.endpoint = ep := List.inj_on_of_nodup_map htags (List.mem_of_mem_filter hsel)
      (List.mem_of_mem_filter (catalog_selectable h hep)) htag
    refine ⟨r, hr, rfl, hshown, fun hrelayed => ?_⟩
    obtain ⟨ob, hob, hcarries⟩ := (forall₂_mem hlay.carries).1 r hr
    have hdetour := hcheck.chained r.endpoint hep hrelayed ob (mem_allOutbounds.mpr (.inl hob))
      (hcarries.tagOf_eq.trans (congrArg some hshown))
    rw [hcarries.detourOf_eq] at hdetour
    simpa using hdetour
  · intro ep hep
    have hnot := (List.mem_filter.mp (catalog_selectable h hep)).2
    rw [h.accessPaths_eq]
    simpa using hnot

def Dials (compat : CompatibilityMode) (ob : Json) (ep : Endpoint) : Prop :=
  ∀ k, k ∉ ["tag", "detour", "network"] → ob.get? k = (endpointOutbound compat ep).get? k

structure ChainedThrough (compat : CompatibilityMode) (outbounds : List Json) (ep via : Endpoint)
    (hop : String) : Prop where
  exit : ∃ ob, outbounds.filter (fun ob => tagOf ob == some ep.tag) = [ob] ∧ Dials compat ob ep ∧
    ob.get? "detour" = some (.str hop)
  entry : ∃ ob, outbounds.filter (fun ob => tagOf ob == some hop) = [ob] ∧ Dials compat ob via ∧
    ob.get? "detour" = none

theorem Arranged.hop_not_offered (h : Arranged compat doc routes kept shown set) {v : Route}
    (hv : v ∈ kept) (hinfra : v.endpoint.id ∈ infrastructureEndpointIds doc.accessPaths) :
    shown v.tag ∉ set.tags := by
  intro hmem
  obtain ⟨ep, hep, htag⟩ := List.mem_map.mp (h.tags.subset hmem)
  obtain ⟨q, hq, rfl, hshown, -⟩ := h.listed ep hep
  obtain rfl : q = v := h.distinct q hq v hv (hshown.trans htag)
  exact h.infrastructure q.endpoint hep hinfra

theorem Arranged.chained (h : Arranged compat doc routes kept shown set) (hnodup : routes.Nodup)
    (hr : r ∈ kept) (hvia : r.hop = some via) :
    ChainedThrough compat set.allOutbounds r.endpoint via (shown via.tag) ∧
      shown via.tag ∉ set.tags ++ ["auto"] := by
  have hshown : shown r.tag = r.tag := h.layout.relayed r hr (by simp [hvia])
  obtain ⟨v, hv, rfl, hnone⟩ := h.layout.hops r hr via hvia
  obtain ⟨ob, hone, hcarries⟩ := outbound_unique h.layout hnodup h.distinct hr
  obtain ⟨ob', hone', hcarries'⟩ := outbound_unique h.layout hnodup h.distinct hv
  refine ⟨⟨⟨ob, ?_, hcarries.fields, ?_⟩, ⟨ob', hone', hcarries'.fields, ?_⟩⟩, ?_⟩
  · rw [hshown] at hone
    exact hone
  · rw [hcarries.detour, hvia]
    rfl
  · rw [hcarries'.detour, hnone]
    rfl
  · rw [List.mem_append, List.mem_singleton]
    rintro (hmem | hauto)
    · exact h.hop_not_offered hv (h.vias r hr v.endpoint hvia).infrastructure hmem
    · have hgroup := h.layout.groups v hv
      rw [show shown v.tag = "auto" from hauto] at hgroup
      exact absurd hgroup (by decide)

end Arranged

/-! ### The privacy class -/

def outboundsOf (config : Json) : List Json := ((config.get? "outbounds").bind Json.asArray).getD []

def membersOf (group : Json) : List String := (group.idx "outbounds").texts

/-- Nothing but the user's own choice takes the client past its first hop. -/
structure PrivacyClass (compat : CompatibilityMode) (doc : ProvisioningDocument)
    (served : List CompatEndpoint) (given : List Endpoint) (config automatic selector : Json) :
    Prop where
  automatic_eq : (outboundsOf config).filter (fun ob => typeOf ob == some "urltest") = [automatic]
  selector_eq : (outboundsOf config).filter (fun ob => typeOf ob == some "selector") = [selector]
  members : ∀ tag ∈ membersOf automatic, tag ∈ doc.relayedTags
  chained : ∀ ep ∈ doc.endpoints, doc.isRelayed ep = true → ∃ via ∈ given,
    ViaOf doc.accessPaths ep via ∧ ∃ hop, ChainedThrough compat (outboundsOf config) ep via hop ∧
      hop ∉ membersOf automatic ∧ hop ∉ membersOf selector
  default : ∃ tag, selector.get? "default" = some (.str tag) ∧
    (some tag = tagOf automatic ∨ tag ∈ doc.relayedTags)
  final : ((config.get? "route").bind (·.get? "final")).bind Json.asStr = tagOf selector
  infrastructure : ∀ ep ∈ served, ep.id ∈ infrastructureEndpointIds doc.accessPaths →
    ep.id ∉ doc.endpoints.map (·.id) ∧ ep.label ∉ membersOf automatic ∧
      ep.label ∉ membersOf selector

section PrivacyClass

variable {user : CompatUser} {served : List CompatEndpoint} {mode : DiagnosticMode}
  {accessPaths : List AccessPath} {profile : SelectionProfile} {compat : CompatibilityMode}
  {doc : ProvisioningDocument} {given : List Endpoint}

theorem provisioningEndpoint_some {ep : CompatEndpoint} {built : Endpoint}
    (h : provisioningEndpoint mode user ep = .ok (some built)) :
    built.id = ep.id ∧ built.tag = ep.label ∧ built.path = ep.path.map PathType.fromWire := by
  unfold provisioningEndpoint at h
  split at h
  · cases h
  · exact contractEndpointOpt_some h

theorem given_told_apart (hoffered : Offered accessPaths served)
    (hgiven : (ClientRenderer.provisioning mode).endpoints user served = .ok given) :
    (given.map Endpoint.tag).Nodup ∧ ∀ ep ∈ given, ep.tag ∉ ["auto", "select", "direct"] := by
  refine ⟨?_, ?_⟩
  · have hsub : (given.map Endpoint.tag).Sublist (served.map CompatEndpoint.label) :=
      Check.collect_sublist hgiven fun ep built hbuilt => (provisioningEndpoint_some hbuilt).2.1
    exact hsub.nodup hoffered.labels
  · intro built hbuilt
    obtain ⟨ep, hep, hok⟩ := (Check.mem_collect hgiven).mp hbuilt
    rw [(provisioningEndpoint_some hok).2.1]
    exact hoffered.unreserved ep hep

structure Drawn (user : CompatUser) (served : List CompatEndpoint) (mode : DiagnosticMode)
    (accessPaths : List AccessPath) (profile : SelectionProfile) (compat : CompatibilityMode)
    (doc : ProvisioningDocument) (given : List Endpoint) (routes : List Route) (acc : Accumulated)
    (set : RouteSet) (kept : List Route) (shown : String → String) : Prop where
  given_eq : (ClientRenderer.provisioning mode).endpoints user served = .ok given
  tags : (given.map Endpoint.tag).Nodup
  provisioned : Provisioned given accessPaths profile compat doc routes acc set
  arranged : Arranged compat doc routes kept shown
    { set with outbounds := servedOutbounds compat set }
  unreserved : ∀ ep ∈ given, ep.tag ∉ ["auto", "select", "direct"]
  default : ∀ r ∈ routes, r.hop.isSome = true →
    set.defaultTag = "auto" ∨ ∃ q ∈ kept, q.hop.isSome = true ∧ q.tag = set.defaultTag
  pinned : compat = .hiddifyPinned → ∃ r, PinnedTo kept shown set r

theorem drawn_of_ok (hoffered : Offered accessPaths served)
    (hdoc : provisioningDocumentWithModeAndAccessPathsAndOptions user served mode accessPaths
      profile compat = .ok doc) : ∃ given routes acc set kept shown,
      Drawn user served mode accessPaths profile compat doc given routes acc set kept shown := by
  obtain ⟨given, hgiven, routes, acc, set, hprov⟩ := provisioned_of_ok hdoc
  obtain ⟨htags, hres⟩ := given_told_apart hoffered hgiven
  obtain ⟨kept, shown, harranged, hdefault, hpinned⟩ := arranged_of_provisioned hprov htags hres
  exact ⟨given, routes, acc, set, kept, shown, hgiven, htags, hprov, harranged, hres, hdefault,
    hpinned⟩

section Drawn

variable {routes kept : List Route} {acc : Accumulated} {set : RouteSet}
  {shown : String → String}

theorem Drawn.routes_nodup
    (h : Drawn user served mode accessPaths profile compat doc given routes acc set kept shown) :
    routes.Nodup := by
  have htags := h.tags
  rw [← h.provisioned.endpoints, List.map_map] at htags
  exact htags.of_map

theorem Drawn.listed_of_label
    (h : Drawn user served mode accessPaths profile compat doc given routes acc set kept shown)
    (hoffered : Offered accessPaths served) {ep : CompatEndpoint} (hep : ep ∈ served)
    (hlabel : ep.label ∈ doc.endpoints.map (·.tag)) : ep.id ∈ doc.endpoints.map (·.id) := by
  obtain ⟨built, hbuilt, htag⟩ := List.mem_map.mp hlabel
  obtain ⟨ep', hep', hok⟩ := (Check.mem_collect h.given_eq).mp
    (List.mem_of_mem_filter (catalog_selectable h.provisioned hbuilt))
  obtain ⟨hid, htag', -⟩ := provisioningEndpoint_some hok
  obtain rfl : ep' = ep := List.inj_on_of_nodup_map hoffered.labels hep' hep (htag'.symm.trans htag)
  exact List.mem_map.mpr ⟨built, hbuilt, hid⟩

end Drawn

/-- With a relayed route in the document only such routes are chosen automatically, each behind its
    first hop. -/
theorem privacy_class {ext : External} {d : DeploymentConfig} {publicKey shortId : String}
    {obfs : Option String} (hd : d.validate ext = .ok ())
    (hserved : d.servedEndpoints ext publicKey shortId obfs = .ok served)
    (hpaths : d.contractAccessPaths = .ok accessPaths)
    (hdoc : provisioningDocumentWithModeAndAccessPathsAndOptions user served mode accessPaths
      profile compat = .ok doc)
    (hrelayed : ∃ ep ∈ doc.endpoints, doc.isRelayed ep = true) :
    ∃ given config automatic selector,
      (ClientRenderer.provisioning mode).endpoints user served = .ok given ∧
      doc.singboxConfig = some config ∧
      PrivacyClass compat doc served given config automatic selector := by
  have hoffered := offered_of_validate hd hserved hpaths
  obtain ⟨given, routes, acc, set, kept, shown, hdrawn⟩ := drawn_of_ok hoffered hdoc
  obtain ⟨relayed, hmem, hisRelayed⟩ := hrelayed
  have harr := hdrawn.arranged
  have hcheck := crossChecked_of_provisioned hdrawn.provisioned
  obtain ⟨hautomatic, hselector⟩ := groups_unique harr.layout
  -- everything that a group offers is a tag of the catalog
  have hmembers : ∀ tag ∈ set.autoMembers, tag ∈ doc.relayedTags := by
    intro tag htag
    have hstr := hcheck.automatic relayed hmem hisRelayed _
      (mem_allOutbounds.mpr (.inr (.inl rfl))) (RouteSet.typeOf_automaticGroup _) (.str tag)
      (by simpa using htag)
    simpa using hstr
  have hmembers' : ∀ tag ∈ set.autoMembers, tag ∈ set.tags := by
    intro tag htag
    obtain ⟨ep, hep, rfl⟩ := List.mem_map.mp (hmembers tag htag)
    exact harr.tags.symm.subset (List.mem_map_of_mem (List.mem_of_mem_filter hep))
  have hrelayedTag : ∀ q ∈ kept, q.hop.isSome = true → q.tag ∈ doc.relayedTags := by
    intro q hq hhop
    obtain ⟨hlisted, hrel⟩ := harr.relayed q hq hhop
    exact mem_relayedTags hlisted hrel
  refine ⟨given, _, RouteSet.automaticGroup { set with outbounds := servedOutbounds compat set },
    RouteSet.selectorGroup { set with outbounds := servedOutbounds compat set }, hdrawn.given_eq,
    hdrawn.provisioned.config,
    { automatic_eq := ?_, selector_eq := ?_, members := ?_, chained := ?_, default := ?_,
      final := ?_, infrastructure := ?_ }⟩
  · simpa [outboundsOf] using hautomatic
  · simpa [outboundsOf] using hselector
  · simpa [membersOf, Json.idx] using hmembers
  · intro ep hep hrel
    obtain ⟨r, hr, rfl, -, hhop⟩ := harr.listed ep hep
    obtain ⟨via, hvia⟩ := Option.isSome_iff_exists.mp (hhop hrel)
    obtain ⟨hchained, hnot⟩ := harr.chained hdrawn.routes_nodup hr hvia
    obtain ⟨v, hv, rfl, -⟩ := harr.layout.hops r hr via hvia
    refine ⟨v.endpoint, hdrawn.provisioned.endpoints ▸
      List.mem_map_of_mem (harr.layout.sublist.subset hv), harr.vias r hr _ hvia,
      shown v.endpoint.tag, by simpa [outboundsOf] using hchained, ?_, ?_⟩
    · intro hauto
      simp only [membersOf, Json.idx, RouteSet.automaticGroup_outbounds, Option.getD_some,
        Json.texts_strs] at hauto
      exact hnot (List.mem_append_left _ (hmembers' _ hauto))
    · simpa [membersOf, Json.idx] using hnot
  · refine ⟨set.defaultTag, by simp, ?_⟩
    obtain ⟨r, hr, rfl, -, hhop⟩ := harr.listed relayed hmem
    rcases hdrawn.default r (harr.layout.sublist.subset hr) (hhop hisRelayed) with
      hauto | ⟨q, hq, hqhop, hqtag⟩
    · exact .inl (by simpa using hauto)
    · exact .inr (hqtag ▸ hrelayedTag q hq hqhop)
  · simpa [SELECTOR_GROUP_TAG] using hcheck.final
  · intro ep hep hinfra
    have hid : ep.id ∉ doc.endpoints.map (·.id) := by
      intro hmemId
      obtain ⟨built, hbuilt, heq⟩ := List.mem_map.mp hmemId
      exact harr.infrastructure built hbuilt (heq ▸ hinfra)
    have hlabel : ep.label ∉ set.tags := fun hin =>
      hid (hdrawn.listed_of_label hoffered hep (harr.tags.subset hin))
    refine ⟨hid, ?_, ?_⟩
    · simpa [membersOf, Json.idx] using fun hin => hlabel (hmembers' _ hin)
    · have hauto : ep.label ≠ "auto" := fun e => hoffered.unreserved ep hep (by simp [e])
      simpa [membersOf, Json.idx] using ⟨hlabel, hauto⟩

/-- The groups of the sample relay. -/
theorem privacy_class_sampleRelay : ∃ served accessPaths doc,
    sampleRelay.servedEndpoints sampleExternal samplePublicKey "ab" none = .ok served ∧
      sampleRelay.contractAccessPaths = .ok accessPaths ∧
      provisioningDocumentWithModeAndAccessPathsAndOptions samplePeerUser served .none accessPaths
        .reliability .normal = .ok doc ∧
      ∃ given config automatic selector,
        (ClientRenderer.provisioning .none).endpoints samplePeerUser served = .ok given ∧
        doc.singboxConfig = some config ∧
        PrivacyClass .normal doc served given config automatic selector := by
  obtain ⟨served, accessPaths, doc, hserved, hpaths, hok, hrelayed⟩ :=
    provision_any sampleRelay_provision
  exact ⟨served, accessPaths, doc, hserved, hpaths, hok,
    privacy_class sampleRelay_valid hserved hpaths hok (List.any_eq_true.mp hrelayed)⟩

end PrivacyClass

end SingboxVpn
