import SingboxVpn.Client.PrivacyClass

/-!
# The catalog and the configuration

A document says the same thing twice: as a catalog of endpoints and as a configuration that dials
them.  A client may use either.

* `catalog_agrees` — one outbound for each endpoint of the catalog, and no other but first hops.
* `Pinned`, `pinned_single_route` — a profile for Hiddify shows one route and hides its first hop.
-/

namespace SingboxVpn

/-- The outbound connects to the endpoint, with the parameters of the catalog. -/
structure AgreesWith (ob : Json) (ep : Endpoint) : Prop where
  server : ob.get? "server" = some (.str ep.host)
  port : ob.get? "server_port" = some (.num ep.port)
  serverName : (ob.idx "tls").get? "server_name" = some (.str ep.serverName)
  vless : ∀ uuid flow reality, ep.params = .vlessReality uuid flow reality →
    typeOf ob = some "vless" ∧ ob.get? "uuid" = some (.str uuid) ∧
      ob.get? "flow" = flow.map Json.str ∧
      ((ob.idx "tls").idx "reality").get? "public_key" = some (.str reality.publicKey) ∧
      ((ob.idx "tls").idx "reality").get? "short_id" = some (.str reality.shortId) ∧
      ((ob.idx "tls").idx "utls").get? "fingerprint" = some (.str reality.fingerprint)
  hysteria2 : ∀ password obfs, ep.params = .hysteria2 password obfs →
    typeOf ob = some "hysteria2" ∧ ob.get? "password" = some (.str password) ∧
      (ob.get? "obfs").isSome = obfs.isSome ∧
      ∀ o ∈ obfs, (ob.idx "obfs").get? "type" = some (.str o.obfsType) ∧
        (ob.idx "obfs").get? "password" = some (.str o.password)

section AgreesWith

variable {compat : CompatibilityMode} {ob : Json} {ep : Endpoint}

theorem agreesWith_endpointOutbound (compat : CompatibilityMode) (ep : Endpoint) :
    AgreesWith (endpointOutbound compat ep) ep := by
  unfold endpointOutbound
  cases hparams : ep.params with
  | vlessReality uuid flow reality =>
    cases flow <;> by_cases hc : compat = .tcpOnly <;> constructor <;>
      simp [hc, hparams, typeOf, Json.idx, Json.set_object, Json.get?_object, Json.lookup_cons_ite]
  | hysteria2 password obfs =>
    cases obfs <;> constructor <;>
      simp [hparams, typeOf, Json.idx, Json.set_object, Json.get?_object, Json.lookup_cons_ite]

theorem Dials.agreesWith (h : Dials compat ob ep) : AgreesWith ob ep := by
  have hob := agreesWith_endpointOutbound compat ep
  have hidx : ∀ k, k ∉ ["tag", "detour", "network"] →
      ob.idx k = (endpointOutbound compat ep).idx k := by
    intro k hk
    rw [Json.idx, Json.idx, h k hk]
  have htype : typeOf ob = typeOf (endpointOutbound compat ep) := by
    rw [typeOf, typeOf, h "type" (by decide)]
  constructor
  · rw [h "server" (by decide)]
    exact hob.server
  · rw [h "server_port" (by decide)]
    exact hob.port
  · rw [hidx "tls" (by decide)]
    exact hob.serverName
  · rw [htype, h "uuid" (by decide), h "flow" (by decide), hidx "tls" (by decide)]
    exact hob.vless
  · rw [htype, h "password" (by decide), h "obfs" (by decide), hidx "obfs" (by decide)]
    exact hob.hysteria2

end AgreesWith

def isProxy (ob : Json) : Bool := typeOf ob == some "vless" || typeOf ob == some "hysteria2"

section Agreement

variable {user : CompatUser} {served : List CompatEndpoint} {mode : DiagnosticMode}
  {accessPaths : List AccessPath} {profile : SelectionProfile} {compat : CompatibilityMode}
  {doc : ProvisioningDocument} {given : List Endpoint} {routes kept : List Route}
  {acc : Accumulated} {set : RouteSet} {shown : String → String}

theorem route_of_proxy (h : Layout compat routes kept shown set.outbounds) {ob : Json}
    (hob : ob ∈ set.allOutbounds) (hproxy : isProxy ob = true) :
    ∃ r ∈ kept, Carries compat shown r ob := by
  rcases mem_allOutbounds.mp hob with hob | rfl | rfl | rfl
  · exact (forall₂_mem h.carries).2 ob hob
  · simp [isProxy] at hproxy
  · simp [isProxy] at hproxy
  · simp [isProxy] at hproxy

theorem Drawn.infrastructure_of_not_listed
    (h : Drawn user served mode accessPaths profile compat doc given routes acc set kept shown)
    {r : Route} (hr : r ∈ kept) :
    (r.endpoint ∈ doc.endpoints ∧ shown r.tag = r.tag) ∨
      r.endpoint.id ∈ infrastructureEndpointIds doc.accessPaths := by
  have hlay := h.arranged.layout
  rcases hlay.renamed r hr with hshown | ⟨-, q, hq, hhop⟩
  · by_cases hinfra : r.endpoint.id ∈ infrastructureEndpointIds doc.accessPaths
    · exact .inr hinfra
    · left
      refine ⟨?_, hshown⟩
      have hgiven : r.endpoint ∈ given :=
        h.provisioned.endpoints ▸ List.mem_map_of_mem (hlay.sublist.subset hr)
      rw [h.provisioned.accessPaths_eq] at hinfra
      obtain ⟨ob, hob, hcarries⟩ := (forall₂_mem hlay.carries).1 r hr
      exact listed_of_rendered h.provisioned
        (List.mem_filter.mpr ⟨hgiven, by simpa using hinfra⟩) hob
        (hcarries.tagOf_eq.trans (congrArg some hshown))
  · exact .inr (h.arranged.vias q hq r.endpoint hhop).infrastructure

/-- Catalog and configuration agree: each endpoint has one outbound that dials it as listed, and
    any other proxy outbound is a first hop. -/
theorem catalog_agrees {ext : External} {d : DeploymentConfig} {publicKey shortId : String}
    {obfs : Option String} (hd : d.validate ext = .ok ())
    (hserved : d.servedEndpoints ext publicKey shortId obfs = .ok served)
    (hpaths : d.contractAccessPaths = .ok accessPaths)
    (hdoc : provisioningDocumentWithModeAndAccessPathsAndOptions user served mode accessPaths
      profile compat = .ok doc) :
    ∃ config, doc.singboxConfig = some config ∧ (doc.endpoints.map (·.tag)).Nodup ∧
      (∀ ep ∈ doc.endpoints, ∃ ob,
        (outboundsOf config).filter (fun ob => tagOf ob == some ep.tag) = [ob] ∧
          AgreesWith ob ep) ∧
      ∀ ob ∈ outboundsOf config, isProxy ob = true →
        (∃ ep ∈ doc.endpoints, tagOf ob = some ep.tag) ∨
        ∃ given, (ClientRenderer.provisioning mode).endpoints user served = .ok given ∧
          ∃ via ∈ given, AgreesWith ob via ∧
            ∃ path ∈ doc.accessPaths, path.kind = .relay ∧ path.viaEndpointId = some via.id := by
  have hoffered := offered_of_validate hd hserved hpaths
  obtain ⟨given, routes, acc, set, kept, shown, hdrawn⟩ := drawn_of_ok hoffered hdoc
  have harr := hdrawn.arranged
  refine ⟨_, hdrawn.provisioned.config, ?_, ?_, ?_⟩
  · -- the catalog is part of what the user was given
    have hsub : doc.endpoints.Sublist given := by
      rw [hdrawn.provisioned.catalog, catalogOf]
      split
      · exact List.filter_sublist.trans List.filter_sublist
      · exact List.filter_sublist
    exact (hsub.map Endpoint.tag).nodup hdrawn.tags
  · intro ep hep
    obtain ⟨r, hr, rfl, hshown, -⟩ := harr.listed ep hep
    obtain ⟨ob, hone, hcarries⟩ :=
      outbound_unique harr.layout hdrawn.routes_nodup harr.distinct hr
    rw [hshown] at hone
    exact ⟨ob, by simpa [outboundsOf, Route.tag] using hone, Dials.agreesWith hcarries.fields⟩
  · intro ob hob hproxy
    have hmem : ob ∈ RouteSet.allOutbounds { set with outbounds := servedOutbounds compat set } := by
      simpa [outboundsOf] using hob
    obtain ⟨r, hr, hcarries⟩ := route_of_proxy harr.layout hmem hproxy
    rcases hdrawn.infrastructure_of_not_listed hr with ⟨hlisted, hshown⟩ | hinfra
    · exact .inl ⟨r.endpoint, hlisted, hcarries.tagOf_eq.trans (congrArg some hshown)⟩
    · right
      obtain ⟨path, hpath, hvia⟩ := List.mem_filterMap.mp hinfra
      obtain ⟨hmemPath, hkind⟩ := List.mem_filter.mp hpath
      exact ⟨given, hdrawn.given_eq, r.endpoint,
        hdrawn.provisioned.endpoints ▸ List.mem_map_of_mem (harr.layout.sublist.subset hr),
        Dials.agreesWith hcarries.fields, path, hmemPath, by simpa using hkind, hvia⟩

/-- The agreement on the sample relay. -/
theorem catalog_agrees_sampleRelay : ∃ served accessPaths doc,
    sampleRelay.servedEndpoints sampleExternal samplePublicKey "ab" none = .ok served ∧
      sampleRelay.contractAccessPaths = .ok accessPaths ∧
      provisioningDocumentWithModeAndAccessPathsAndOptions samplePeerUser served .none accessPaths
        .reliability .normal = .ok doc ∧
      ∃ config, doc.singboxConfig = some config ∧ (doc.endpoints.map (·.tag)).Nodup ∧
        ∀ ep ∈ doc.endpoints, ∃ ob,
          (outboundsOf config).filter (fun ob => tagOf ob == some ep.tag) = [ob] ∧
            AgreesWith ob ep := by
  obtain ⟨served, accessPaths, doc, hserved, hpaths, hok, -⟩ := provision_any sampleRelay_provision
  obtain ⟨config, hconfig, hnodup, hagrees, -⟩ :=
    catalog_agrees sampleRelay_valid hserved hpaths hok
  exact ⟨served, accessPaths, doc, hserved, hpaths, hok, config, hconfig, hnodup, hagrees⟩

/-! ### A single route -/

/-- Each outbound leaves through the next one, and the last one leaves by itself. -/
def IsDetourChain : List Json → Prop
  | [] => False
  | [ob] => detourOf ob = none
  | ob :: next :: rest =>
    (∃ tag, detourOf ob = some tag ∧ tagOf next = some tag) ∧ IsDetourChain (next :: rest)

/-- The profile shows one endpoint.  What it is dialled through is there and carries the marker. -/
structure Pinned (marker : String) (doc : ProvisioningDocument) (config : Json) (ep : Endpoint) :
    Prop where
  catalog : doc.endpoints = [ep]
  visible : Text.contains marker ep.tag = false
  chain : ∃ ob hidden, ((outboundsOf config).filter isProxy).Perm (ob :: hidden) ∧
    tagOf ob = some ep.tag ∧ IsDetourChain (ob :: hidden) ∧
    ∀ hop ∈ hidden, ∃ tag, tagOf hop = some tag ∧ Text.contains marker tag = true
  selector : ∃ group, (outboundsOf config).filter (fun ob => typeOf ob == some "selector") =
    [group] ∧ membersOf group = [ep.tag, "auto"]
  automatic : ∃ group, (outboundsOf config).filter (fun ob => typeOf ob == some "urltest") =
    [group] ∧ membersOf group = [ep.tag]

theorem filter_isProxy (h : Layout compat routes kept shown set.outbounds) :
    set.allOutbounds.filter isProxy = set.outbounds := by
  have hproxies : set.outbounds.filter isProxy = set.outbounds := by
    rw [List.filter_eq_self]
    intro ob hob
    obtain ⟨r, -, hcarries⟩ := (forall₂_mem h.carries).2 ob hob
    rw [isProxy, hcarries.typeOf_eq]
    split <;> rfl
  rw [RouteSet.allOutbounds, List.filter_append, hproxies]
  simp [isProxy]

theorem contains_hiddenTag {marker : String}
    (hmarker : Text.contains marker HIDDIFY_HIDDEN_TAG_SUFFIX = true) (tag : String) :
    Text.contains marker (hiddenTag tag) = true := by
  rw [Text.contains_iff] at hmarker ⊢
  rw [hiddenTag, String.toList_append]
  exact hmarker.trans (List.suffix_append _ _).isInfix

theorem PinnedTo.perm {r : Route} (h : PinnedTo kept shown set r) (hnodup : kept.Nodup)
    (hhops : HopsDirect kept)
    (hdistinct : ∀ q ∈ kept, ∀ q' ∈ kept, shown q.tag = shown q'.tag → q = q') :
    (r.hop = none ∧ kept.Perm [r]) ∨
      ∃ v, r.hop = some v.endpoint ∧ v.hop = none ∧ shown v.tag = hiddenTag v.tag ∧
        kept.Perm [r, v] := by
  cases hop : r.hop with
  | none =>
    left
    refine ⟨rfl, (List.perm_ext_iff_of_nodup hnodup (List.nodup_singleton r)).mpr fun q => ?_⟩
    rw [List.mem_singleton]
    refine ⟨fun hq => ?_, fun hq => hq ▸ h.mem⟩
    rcases h.others q hq with rfl | ⟨hhop, -⟩
    · rfl
    · rw [hop] at hhop
      cases hhop
  | some via =>
    right
    obtain ⟨v, hv, rfl, hnone⟩ := hhops r h.mem via hop
    have hne : r ≠ v := by
      rintro rfl
      rw [hnone] at hop
      cases hop
    have hshown : shown v.tag = hiddenTag v.tag := by
      rcases h.others v hv with heq | ⟨-, hshown⟩
      · exact absurd heq.symm hne
      · exact hshown
    refine ⟨v, rfl, hnone, hshown,
      (List.perm_ext_iff_of_nodup hnodup (by simpa using hne)).mpr fun q => ?_⟩
    rw [List.mem_cons, List.mem_singleton]
    constructor
    · intro hq
      rcases h.others q hq with rfl | ⟨hhop, -⟩
      · exact .inl rfl
      · -- it dials the same endpoint as the first hop
        have hep : q.endpoint = v.endpoint := Option.some.inj (hhop.symm.trans hop)
        exact .inr (hdistinct q hq v hv (by rw [Route.tag, Route.tag, hep]))
    · rintro (rfl | rfl)
      · exact h.mem
      · exact hv

theorem PinnedTo.detourChain {r : Route} {proxies : List Json} (h : PinnedTo kept shown set r)
    (hlay : Layout compat routes kept shown proxies) (hnodup : kept.Nodup)
    (hdistinct : ∀ q ∈ kept, ∀ q' ∈ kept, shown q.tag = shown q'.tag → q = q')
    (hshown : shown r.tag = r.tag) :
    ∃ ob hidden, proxies.Perm (ob :: hidden) ∧ tagOf ob = some r.tag ∧
      IsDetourChain (ob :: hidden) ∧
      ∀ hop ∈ hidden, ∃ tag, tagOf hop = some (hiddenTag tag) := by
  rcases h.perm hnodup hlay.hops hdistinct with ⟨hnone, hperm⟩ | ⟨v, hhop, hnone, hhidden, hperm⟩
  · obtain ⟨obs, hcarries, hobs⟩ := List.perm_comp_forall₂ hperm.symm hlay.carries
    obtain ⟨ob, _, hob, hnil, rfl⟩ := List.forall₂_cons_left_iff.mp hcarries
    obtain rfl := List.forall₂_nil_left_iff.mp hnil
    refine ⟨ob, [], hobs.symm, hob.tagOf_eq.trans (congrArg some hshown), ?_, by simp⟩
    rw [IsDetourChain, hob.detourOf_eq, hnone]
    rfl
  · obtain ⟨obs, hcarries, hobs⟩ := List.perm_comp_forall₂ hperm.symm hlay.carries
    obtain ⟨ob, _, hob, hrest, rfl⟩ := List.forall₂_cons_left_iff.mp hcarries
    obtain ⟨hop, _, hhopOb, hnil, rfl⟩ := List.forall₂_cons_left_iff.mp hrest
    obtain rfl := List.forall₂_nil_left_iff.mp hnil
    refine ⟨ob, [hop], hobs.symm, hob.tagOf_eq.trans (congrArg some hshown), ⟨?_, ?_⟩, ?_⟩
    · exact ⟨shown v.tag, by rw [hob.detourOf_eq, hhop]; rfl, hhopOb.tagOf_eq⟩
    · rw [IsDetourChain, hhopOb.detourOf_eq, hnone]
      rfl
    · intro hop' hmem
      rw [List.mem_singleton] at hmem
      exact ⟨v.tag, by rw [hmem, hhopOb.tagOf_eq, hhidden]⟩

/-- An endpoint that may be chosen and is reached through a relay has a first hop in every
    configuration. -/
theorem Drawn.hop_of_isRelayed
    (h : Drawn user served mode accessPaths profile compat doc given routes acc set kept shown)
    {ep : Endpoint} (hsel : ep ∈ selectableOf accessPaths given)
    (hrelayed : doc.isRelayed ep = true) : ∃ r ∈ routes, r.endpoint = ep ∧ r.hop.isSome = true := by
  have hgiven : ep ∈ given := List.mem_of_mem_filter hsel
  rw [← h.provisioned.endpoints] at hgiven
  obtain ⟨r, hr, rfl⟩ := List.mem_map.mp hgiven
  refine ⟨r, hr, rfl, ?_⟩
  have hhop := h.provisioned.hops r hr
  cases hop : r.hop with
  | some via => rfl
  | none =>
    rw [hop] at hhop
    unfold ProvisioningDocument.isRelayed at hrelayed
    rw [h.provisioned.accessPaths_eq] at hrelayed
    rcases hopOf_none hhop with hnot | hempty | hdirect
    · exact absurd (List.mem_map_of_mem hsel) hnot
    · rw [hempty] at hrelayed
      split at hrelayed <;> simp at hrelayed
    · split at hrelayed
      · next pathId hpath => exact absurd hpath (hdirect pathId)
      · cases hrelayed

theorem Drawn.pinned_catalog
    (h : Drawn user served mode accessPaths profile compat doc given routes acc set kept shown)
    {r : Route} (hpin : PinnedTo kept shown set r) :
    doc.endpoints = [r.endpoint] ∧ shown r.tag = r.tag := by
  have hperm := h.arranged.tags
  simp only [hpin.tags] at hperm
  have htags : doc.endpoints.map (·.tag) = [r.tag] := (List.singleton_perm.mp hperm).symm
  obtain ⟨ep, hcatalog, htag⟩ := List.map_eq_singleton_iff.mp htags
  obtain ⟨q, hq, rfl, hshown, -⟩ := h.arranged.listed ep (by simp [hcatalog])
  have hnodup : (routes.map Route.tag).Nodup := by
    have htags := h.tags
    rw [← h.provisioned.endpoints, List.map_map] at htags
    exact htags
  have hsub := h.arranged.layout.sublist
  obtain rfl : q = r :=
    List.inj_on_of_nodup_map hnodup (hsub.subset hq) (hsub.subset hpin.mem) htag
  exact ⟨hcatalog, hshown⟩

theorem Drawn.pinned_relayed
    (h : Drawn user served mode accessPaths profile compat doc given routes acc set kept shown)
    {r : Route} (hpin : PinnedTo kept shown set r) {q : Route} (hq : q ∈ routes)
    (hhop : q.hop.isSome = true) : doc.isRelayed r.endpoint = true := by
  have hsub := h.arranged.layout.sublist
  have hmem : r.endpoint ∈ given :=
    h.provisioned.endpoints ▸ List.mem_map_of_mem (hsub.subset hpin.mem)
  rcases h.default q hq hhop with hauto | ⟨q', hq', hhop', htag⟩
  · -- the tag of an endpoint is not that of a group
    have hgroup := h.unreserved r.endpoint hmem
    rw [show r.endpoint.tag = "auto" from hpin.defaultTag.symm.trans hauto] at hgroup
    exact absurd hgroup (by decide)
  · have hep : q'.endpoint = r.endpoint := List.inj_on_of_nodup_map h.tags
      (h.provisioned.endpoints ▸ List.mem_map_of_mem (hsub.subset hq')) hmem
      (htag.trans hpin.defaultTag)
    rw [← hep]
    exact (h.arranged.relayed q' hq' hhop').2

/-- The pinned profile shows one route, a relayed one wherever any profile has one. -/
theorem pinned_single_route {ext : External} {d : DeploymentConfig} {publicKey shortId : String}
    {obfs : Option String} {marker : String} (hd : d.validate ext = .ok ())
    (hserved : d.servedEndpoints ext publicKey shortId obfs = .ok served)
    (hpaths : d.contractAccessPaths = .ok accessPaths)
    (hmarker : Text.contains marker HIDDIFY_HIDDEN_TAG_SUFFIX = true)
    (hlabels : ∀ ep ∈ served, Text.contains marker ep.label = false)
    (hdoc : provisioningDocumentWithModeAndAccessPathsAndOptions user served mode accessPaths
      profile .hiddifyPinned = .ok doc) :
    ∃ config ep, doc.singboxConfig = some config ∧ Pinned marker doc config ep ∧
      ∀ profile' compat' doc', provisioningDocumentWithModeAndAccessPathsAndOptions user served mode
        accessPaths profile' compat' = .ok doc' →
        (∃ ep' ∈ doc'.endpoints, doc'.isRelayed ep' = true) → doc.isRelayed ep = true := by
  have hoffered := offered_of_validate hd hserved hpaths
  obtain ⟨given, routes, acc, set, kept, shown, hdrawn⟩ := drawn_of_ok hoffered hdoc
  have harr := hdrawn.arranged
  obtain ⟨r, hpin⟩ := hdrawn.pinned rfl
  obtain ⟨hcatalog, hshown⟩ := hdrawn.pinned_catalog hpin
  obtain ⟨hautomatic, hselector⟩ := groups_unique harr.layout
  refine ⟨_, r.endpoint, hdrawn.provisioned.config, ⟨hcatalog, ?_, ?_, ?_, ?_⟩, ?_⟩
  · -- its tag is the label of a served endpoint
    have hgiven : r.endpoint ∈ given := hdrawn.provisioned.endpoints ▸
      List.mem_map_of_mem (harr.layout.sublist.subset hpin.mem)
    obtain ⟨ep, hep, hok⟩ := (Check.mem_collect hdrawn.given_eq).mp hgiven
    rw [(provisioningEndpoint_some hok).2.1]
    exact hlabels ep hep
  · obtain ⟨ob, hidden, hperm, htag, hchain, hhidden⟩ := hpin.detourChain harr.layout
      (harr.layout.sublist.nodup hdrawn.routes_nodup) harr.distinct hshown
    refine ⟨ob, hidden, ?_, htag, hchain, fun hop hmem => ?_⟩
    · have hproxies := filter_isProxy harr.layout
      simpa [outboundsOf, hproxies] using hperm
    · obtain ⟨tag, heq⟩ := hhidden hop hmem
      exact ⟨hiddenTag tag, heq, contains_hiddenTag hmarker tag⟩
  · exact ⟨_, by simpa [outboundsOf] using hselector,
      by simp [membersOf, Json.idx, hpin.tags, Route.tag]⟩
  · exact ⟨_, by simpa [outboundsOf] using hautomatic,
      by simp [membersOf, Json.idx, hpin.autoMembers, Route.tag]⟩
  · rintro profile' compat' doc' hdoc' ⟨ep', hlisted, hrelayed⟩
    obtain ⟨given', routes', acc', set', kept', shown', hdrawn'⟩ := drawn_of_ok hoffered hdoc'
    obtain rfl : given' = given :=
      Except.ok.inj (hdrawn'.given_eq.symm.trans hdrawn.given_eq)
    have hrelayed' : doc.isRelayed ep' = true := by
      unfold ProvisioningDocument.isRelayed at hrelayed ⊢
      rw [hdrawn.provisioned.accessPaths_eq]
      rw [hdrawn'.provisioned.accessPaths_eq] at hrelayed
      exact hrelayed
    obtain ⟨q, hq, -, hhop⟩ := hdrawn.hop_of_isRelayed
      (catalog_selectable hdrawn'.provisioned hlisted) hrelayed'
    exact hdrawn.pinned_relayed hpin hq hhop

/-- The pinned profile of the sample relay. -/
theorem pinned_single_route_sampleRelay : ∃ served accessPaths doc,
    sampleRelay.servedEndpoints sampleExternal samplePublicKey "ab" none = .ok served ∧
      sampleRelay.contractAccessPaths = .ok accessPaths ∧
      provisioningDocumentWithModeAndAccessPathsAndOptions samplePeerUser served .none accessPaths
        .reliability .hiddifyPinned = .ok doc ∧
      ∃ config ep, doc.singboxConfig = some config ∧ Pinned "§hide§" doc config ep := by
  have hrun : (sampleRelay.provision sampleExternal samplePublicKey "ab" none samplePeerUser .none
      .reliability .hiddifyPinned).toOption.any (fun _ => true) = true := by
    decide +kernel
  obtain ⟨served, accessPaths, doc, hserved, hpaths, hok, -⟩ := provision_any hrun
  have hlabels : (sampleRelay.servedEndpoints sampleExternal samplePublicKey "ab" none).toOption.all
      (fun served => served.all fun ep => !Text.contains "§hide§" ep.label) = true := by
    decide +kernel
  rw [hserved] at hlabels
  have hnone : ∀ ep ∈ served, Text.contains "§hide§" ep.label = false := by
    simpa [Except.toOption] using hlabels
  obtain ⟨config, ep, hconfig, hpinned, -⟩ := pinned_single_route sampleRelay_valid hserved hpaths
    (by decide +kernel) hnone hok
  exact ⟨served, accessPaths, doc, hserved, hpaths, hok, config, ep, hconfig, hpinned⟩

end Agreement

end SingboxVpn
