import SingboxVpn.Client.Servable

/-!
# Taking peer credentials away

What becomes of a user's document when some of the user's peer credentials are removed.

* `given_without` — the user is given the same endpoints, without those that need one of them.
* `credential_loss` — this holds exactly when no route is kept whose first hop is lost.
-/

namespace SingboxVpn

def CompatUser.without (user : CompatUser) (removed : String → Bool) : CompatUser :=
  { user with peerCredentials := user.peerCredentials.filter fun p => !removed p.1 }

def CompatUser.holdsId (user : CompatUser) (served : List CompatEndpoint) (id : String) : Bool :=
  served.any fun s => s.id == id && user.holds s

def firstHopId (accessPaths : List AccessPath) : Option PathType → Option String
  | some (.other pathId) => (pathById accessPaths pathId).bind (·.viaEndpointId)
  | _ => none

def CompatUser.reaches (user : CompatUser) (served : List CompatEndpoint)
    (accessPaths : List AccessPath) (id : String) (path : Option PathType) : Bool :=
  user.holdsId served id && (firstHopId accessPaths path).all (user.holdsId served)

def CompatEndpoint.selectableIn (mode : DiagnosticMode) (accessPaths : List AccessPath)
    (s : CompatEndpoint) : Bool :=
  !(mode == .tcpOnly && s.transport == .hysteria2) &&
    !(infrastructureEndpointIds accessPaths).contains s.id

theorem reaches_iff {user : CompatUser} {served : List CompatEndpoint}
    {accessPaths : List AccessPath} {id : String} {path : Option PathType} :
    user.reaches served accessPaths id path = true ↔ user.holdsId served id = true ∧
      ∀ via ∈ firstHopId accessPaths path, user.holdsId served via = true := by
  rw [CompatUser.reaches, Bool.and_eq_true]
  cases firstHopId accessPaths path <;> simp

/-! ### What the reduced user is given -/

section Given

variable {user : CompatUser} {removed : String → Bool} {served : List CompatEndpoint}
  {mode : DiagnosticMode} {accessPaths : List AccessPath} {given : List Endpoint}

theorem lookup_filter_key {α : Type} (removed : String → Bool) (k : String)
    (l : List (String × α)) :
    (l.filter fun p => !removed p.1).lookup k = if removed k then none else l.lookup k := by
  induction l with
  | nil => simp
  | cons p l ih =>
    obtain ⟨k', v⟩ := p
    by_cases hk : k = k'
    · subst hk
      cases hr : removed k with
      | true => rw [List.filter_cons_of_neg (by simp [hr]), ih, hr, if_pos rfl, if_pos rfl]
      | false =>
        rw [List.filter_cons_of_pos (by simp [hr]), if_neg (by simp)]
        simp
    · have hskip : ∀ rest : List (String × α), ((k', v) :: rest).lookup k = rest.lookup k := by
        intro rest
        simp [List.lookup_cons, show (k == k') = false by simpa using hk]
      cases hr : removed k' with
      | true => rw [List.filter_cons_of_neg (by simp [hr]), ih, hskip]
      | false => rw [List.filter_cons_of_pos (by simp [hr]), hskip, ih, hskip]

theorem provisioningEndpoint_without (ep : CompatEndpoint) :
    provisioningEndpoint mode (user.without removed) ep =
      if (user.without removed).holds ep then provisioningEndpoint mode user ep else .ok none := by
  unfold provisioningEndpoint
  by_cases htcp : mode = .tcpOnly ∧ ep.transport = .hysteria2
  · simp [htcp]
  · rw [if_neg htcp, if_neg htcp]
    cases hholds : (user.without removed).holds ep with
    | false => exact contractEndpointOpt_none.mpr hholds
    | true =>
      cases horigin : ep.origin with
      | «local» =>
        simp only [contractEndpointOpt, horigin, if_true]
        rfl
      | peer =>
        have hlookup : (user.without removed).peerCredentials.lookup
            (ep.credentialRef.getD ep.id) =
              user.peerCredentials.lookup (ep.credentialRef.getD ep.id) := by
          rw [CompatUser.holds, horigin, CompatUser.without, lookup_filter_key] at hholds
          rw [CompatUser.without, lookup_filter_key]
          split
          · next hr => simp [hr] at hholds
          · rfl
        simp only [contractEndpointOpt, horigin, hlookup, if_true]
        rfl

variable {s : CompatEndpoint}

theorem holdsId_of_mem (hids : (served.map CompatEndpoint.id).Nodup) (hs : s ∈ served) :
    user.holdsId served s.id = user.holds s := by
  rw [CompatUser.holdsId, Bool.eq_iff_iff, List.any_eq_true]
  constructor
  · rintro ⟨s', hs', hheld⟩
    rw [Bool.and_eq_true, beq_iff_eq] at hheld
    obtain rfl : s' = s := List.inj_on_of_nodup_map hids hs' hs hheld.1
    exact hheld.2
  · exact fun hheld => ⟨s, hs, by simp [hheld]⟩

theorem given_without (removed : String → Bool) (hids : (served.map CompatEndpoint.id).Nodup)
    (hgiven : (ClientRenderer.provisioning mode).endpoints user served = .ok given) :
    (ClientRenderer.provisioning mode).endpoints (user.without removed) served =
      .ok (given.filter fun ep => (user.without removed).holdsId served ep.id) := by
  refine Check.collect_filter (user.without removed).holds hgiven
    (fun s _ => provisioningEndpoint_without s) ?_
  intro s hs built hbuilt
  rw [(provisioningEndpoint_some hbuilt).1, holdsId_of_mem hids hs]

theorem given_ids (hoffered : Offered accessPaths served)
    (hgiven : (ClientRenderer.provisioning mode).endpoints user served = .ok given) :
    (given.map Endpoint.id).Nodup :=
  (Check.collect_sublist hgiven fun _ _ hbuilt => (provisioningEndpoint_some hbuilt).1).nodup
    hoffered.ids

theorem given_iff (hgiven : (ClientRenderer.provisioning mode).endpoints user served = .ok given)
    (hs : s ∈ served) :
    (∃ ep, provisioningEndpoint mode user s = .ok (some ep)) ↔
      user.holds s = true ∧ ¬ (mode = .tcpOnly ∧ s.transport = .hysteria2) := by
  obtain ⟨o, ho⟩ := Check.ok_of_collect hgiven hs
  have hok : provisioningEndpoint mode user s = .ok o := ho
  rw [hok]
  unfold provisioningEndpoint at hok
  split at hok
  · next htcp =>
    cases hok
    simp [htcp]
  · next htcp =>
    cases o with
    | none => simp [contractEndpointOpt_none.mp hok]
    | some ep =>
      cases hholds : user.holds s with
      | true => simp [htcp]
      | false =>
        rw [contractEndpointOpt_none.mpr hholds] at hok
        cases hok

end Given

/-! ### The hops that are left -/

section Hops

variable {given all : List Endpoint} {accessPaths : List AccessPath} {selectable : List String}
  {p : Endpoint → Bool} {ep via : Endpoint} {hop : Option Endpoint} {pathId : String}

theorem selectableOf_filter (accessPaths : List AccessPath) (p : Endpoint → Bool)
    (given : List Endpoint) :
    selectableOf accessPaths (given.filter p) = (selectableOf accessPaths given).filter p := by
  rw [selectableOf, selectableOf, List.filter_filter, List.filter_filter]
  exact List.filter_congr fun ep _ => Bool.and_comm _ _

theorem firstHopId_of_hop (hsel : ep.id ∈ selectable)
    (h : hopOf all selectable accessPaths ep = .ok hop) :
    firstHopId accessPaths ep.path = hop.map (·.id) := by
  cases hop with
  | none =>
    have hnone : ∀ pathId, ep.path = some (.other pathId) → accessPaths = [] := fun pathId hpath =>
      (hopOf_none h).elim (absurd hsel) (·.resolve_right fun hdirect => hdirect pathId hpath)
    unfold firstHopId
    split
    · next pathId hpath => simp [hnone pathId hpath, pathById]
    · rfl
  | some via =>
    obtain ⟨pathId, hrelay, hfirst⟩ := hopOf_some_iff.mp h
    obtain ⟨path, viaId, hpath, -, hvia, hfound, -⟩ := firstHop_iff.mp hfirst
    simp [firstHopId, (relayPathOf_iff.mp hrelay).2.2, hpath, hvia, (mem_of_endpointById hfound).2]

theorem firstHop_filter (h : firstHop given accessPaths ep pathId = .ok via) (hkept : p via = true) :
    firstHop (given.filter p) accessPaths ep pathId = .ok via := by
  obtain ⟨path, viaId, hpath, hkind, hvia, hfound, hchecks⟩ := firstHop_iff.mp h
  refine firstHop_iff.mpr ⟨path, viaId, hpath, hkind, hvia, ?_, hchecks⟩
  rw [endpointById, ← List.filter_reverse]
  exact Owned.find?_filter_of_kept hfound hkept

theorem hopOf_filter (hep : ep ∈ given.filter p)
    (h : hopOf given ((selectableOf accessPaths given).map (·.id)) accessPaths ep = .ok hop)
    (hkept : ∀ via ∈ hop, p via = true) :
    hopOf (given.filter p) ((selectableOf accessPaths (given.filter p)).map (·.id)) accessPaths ep =
      .ok hop := by
  have hpath : relayPathOf ((selectableOf accessPaths (given.filter p)).map (·.id)) accessPaths ep =
      relayPathOf ((selectableOf accessPaths given).map (·.id)) accessPaths ep := by
    rw [relayPathOf, relayPathOf, selectable_contains hep,
      selectable_contains (List.mem_of_mem_filter hep)]
  cases hop with
  | none =>
    unfold hopOf at h ⊢
    rw [hpath]
    split
    · next pathId heq =>
      rw [heq] at h
      cases hfirst : firstHop given accessPaths ep pathId <;> simp [hfirst, Except.map] at h
    · rfl
  | some via =>
    obtain ⟨pathId, hrelay, hfirst⟩ := hopOf_some_iff.mp h
    exact hopOf_some_iff.mpr ⟨pathId, hpath.trans hrelay, firstHop_filter hfirst (hkept via rfl)⟩

end Hops

/-! ### Where the document fails -/

section Failure

variable {user : CompatUser} {served : List CompatEndpoint} {mode : DiagnosticMode}
  {accessPaths : List AccessPath} {profile : SelectionProfile} {compat : CompatibilityMode}
  {given all : List Endpoint} {selectable : List String}

variable {ep : Endpoint} {e : CompatError} {acc : Accumulated}

theorem firstHop_error {pathId : String} (h : firstHop all accessPaths ep pathId = .error e) :
    ∃ message, e = .parse message := by
  unfold firstHop Check.refuseIf at h
  repeat' split at h
  all_goals first | exact ⟨_, (Except.error.inj h).symm⟩ | cases h

theorem renderEndpoint_error
    (h : renderEndpoint all selectable accessPaths compat acc ep = .error e) :
    ∃ message, e = .parse message := by
  unfold renderEndpoint at h
  simp only [Check.refuseIf] at h
  split at h
  · cases h
  · split at h
    · exact ⟨_, (Except.error.inj h).symm⟩
    · split at h
      · next pathId _ =>
        cases hfirst : firstHop all accessPaths ep pathId with
        | error e' =>
          rw [hfirst] at h
          cases h
          exact firstHop_error hfirst
        | ok via =>
          rw [hfirst] at h
          cases h
      · cases h

theorem loop_error {eps : List Endpoint}
    (h : eps.foldlM (renderEndpoint all selectable accessPaths compat) acc = .error e) :
    ∃ message, e = .parse message := by
  induction eps generalizing acc with
  | nil => cases h
  | cons ep eps ih =>
    rw [List.foldlM_cons] at h
    cases hstep : renderEndpoint all selectable accessPaths compat acc ep with
    | error e' =>
      rw [hstep] at h
      cases h
      exact renderEndpoint_error hstep
    | ok acc₁ =>
      rw [hstep] at h
      exact ih h

theorem document_of_no_selectable
    (hgiven : (ClientRenderer.provisioning mode).endpoints user served = .ok given)
    (hnil : selectableOf accessPaths given = []) :
    provisioningDocumentWithModeAndAccessPathsAndOptions user served mode accessPaths profile
      compat = .error .noSelectableRoute := by
  rw [selectableOf] at hnil
  rw [provisioningDocumentWithModeAndAccessPathsAndOptions, hgiven]
  by_cases hinfra : infrastructureEndpointIds accessPaths = []
  · have hempty : given = [] := by simpa [hinfra] using hnil
    subst hempty
    simp [hinfra, renderSingboxConfigFromContractWithAccessPaths, Check.onSome, Check.refuseIf,
      bind, Except.bind]
    rfl
  · show (Check.refuseIf ((given.filter _).isEmpty && _) _ >>= _) = _
    rw [hnil]
    simp [hinfra, Check.refuseIf, bind, Except.bind]

theorem hops_of_noSelectable
    (hgiven : (ClientRenderer.provisioning mode).endpoints user served = .ok given)
    (h : provisioningDocumentWithModeAndAccessPathsAndOptions user served mode accessPaths profile
      compat = .error .noSelectableRoute) (hne : selectableOf accessPaths given ≠ []) :
    ∀ ep ∈ given, ∃ hop,
      hopOf given ((selectableOf accessPaths given).map (·.id)) accessPaths ep = .ok hop := by
  have hpasses : Check.refuseIf ((selectableOf accessPaths given).isEmpty &&
      !(infrastructureEndpointIds accessPaths).isEmpty) CompatError.noSelectableRoute = .ok () := by
    rw [Check.refuseIf_ok, Bool.and_eq_false_iff, List.isEmpty_eq_false_iff]
    exact .inl hne
  cases hloop : given.foldlM (renderEndpoint given ((selectableOf accessPaths given).map (·.id))
      accessPaths compat) {} with
  | error e =>
    obtain ⟨message, rfl⟩ := loop_error hloop
    have hrender : renderSingboxConfigFromContractWithAccessPaths given
        ((selectableOf accessPaths given).map (·.id)) accessPaths profile compat =
          .error (.parse message) := by
      simp only [renderSingboxConfigFromContractWithAccessPaths, selectable_known, Check.onSome,
        hloop, bind, Except.bind]
    rw [selectableOf] at hpasses hrender
    simp only [provisioningDocumentWithModeAndAccessPathsAndOptions, hgiven, hpasses, hrender, bind,
      Except.bind] at h
    cases h
  | ok acc =>
    intro ep hep
    have hstart : Built ((selectableOf accessPaths given).map (·.id)) compat [] {} :=
      ⟨rfl, rfl, rfl⟩
    obtain ⟨routes, -, hmap, hroutes⟩ := routes_of_loop hstart hloop
    rw [List.filter_eq_self.mpr fun ep hep => isDialled_given hep] at hmap
    obtain ⟨r, hr, rfl⟩ := List.mem_map.mp (hmap ▸ hep)
    exact ⟨r.hop, hroutes r hr⟩

end Failure

/-! ### The profile with one route -/

section Pinned

variable {given : List Endpoint} {accessPaths : List AccessPath} {profile : SelectionProfile}
  {compat : CompatibilityMode} {routes : List Route} {acc : Accumulated}

/-- The routes among which a pinned profile looks for the one to keep, first choice first. -/
def candidates (profile : SelectionProfile) (accessPaths : List AccessPath) :
    List (Route → Bool) :=
  let offered (r : Route) : Bool := !(infrastructureEndpointIds accessPaths).contains r.endpoint.id
  (fun r => r.hop.isSome) ::
    match profile with
    | .performance => [fun r => offered r && r.endpoint.isVless == false,
        fun r => offered r && r.endpoint.isVless == true, offered]
    | .reliability | .auto => [fun r => offered r && r.endpoint.isVless == true, offered]

theorem Rendered.firstTag_eq (h : Rendered given accessPaths compat routes acc) (vless : Bool) :
    firstTag ((selectableOf accessPaths given).map (·.id)) vless given =
      (routes.find? fun r => !(infrastructureEndpointIds accessPaths).contains r.endpoint.id &&
        r.endpoint.isVless == vless).map Route.tag := by
  have hsel : given.find? (fun ep => ((selectableOf accessPaths given).map (·.id)).contains ep.id &&
      ep.isVless == vless) = given.find? fun ep =>
        !(infrastructureEndpointIds accessPaths).contains ep.id && ep.isVless == vless := by
    rw [← List.head?_filter, ← List.head?_filter]
    exact congrArg _ (List.filter_congr fun ep hep => by rw [selectable_contains hep])
  rw [firstTag, hsel, ← h.endpoints, List.find?_map, Option.map_map]
  rfl

theorem Rendered.defaultTag_eq (h : Rendered given accessPaths .hiddifyPinned routes acc) :
    acc.defaultTag profile .hiddifyPinned =
      (((candidates profile accessPaths).findSome? fun q => routes.find? q).map Route.tag).getD
        "auto" := by
  have hhead : acc.tags.head? =
      (routes.find? fun r => !(infrastructureEndpointIds accessPaths).contains r.endpoint.id).map
        Route.tag := by
    rw [h.built.tags, List.head?_map, ← List.head?_filter]
    congr 2
    exact List.filter_congr fun r hr => selectable_contains (h.mem_given hr)
  have hrelayed : acc.relayedTags.head? = (routes.find? fun r => r.hop.isSome).map Route.tag := by
    rw [h.built.relayedTags, List.head?_map, List.head?_filter]
  have hreality := h.reality.trans (h.firstTag_eq true)
  have hhysteria := h.hysteria2.trans (h.firstTag_eq false)
  unfold Accumulated.defaultTag
  rw [if_neg (by simp)]
  cases hfind : routes.find? (fun r => r.hop.isSome) with
  | some r =>
    rw [hfind] at hrelayed
    split
    · next first rest heq =>
      rw [heq] at hrelayed
      simp only [List.head?_cons, Option.map_some, Option.some.injEq] at hrelayed
      simp [candidates, hfind, hrelayed]
    · next heq =>
      rw [heq] at hrelayed
      cases hrelayed
  | none =>
    rw [hfind] at hrelayed
    have hnil : acc.relayedTags = [] := List.head?_eq_none_iff.mp hrelayed
    -- each of the remaining candidates is tried where those before it find nothing
    have hfirst : ∀ (q : Route → Bool) (tests : List (Route → Bool)),
        ((q :: tests).findSome? fun q => routes.find? q) =
          (routes.find? q).or (tests.findSome? fun q => routes.find? q) := by
      intro q tests
      rw [List.findSome?_cons]
      cases routes.find? q <;> rfl
    cases profile <;>
      simp only [hnil, hreality, hhysteria, hhead, candidates, hfirst, List.findSome?_nil, hfind,
        Option.none_or, Option.or_none, Option.map_or, Option.or_assoc]

def pinnedSet (compat : CompatibilityMode) (kept : List Route) (r : Route) : RouteSet where
  outbounds := (r.chain.drop 1).foldl (fun obs hidden => obs.map (hideTag hidden))
    (kept.map (Route.outbound compat))
  tags := [r.tag]
  autoMembers := [r.tag]
  defaultTag := r.tag

variable {r : Route}

theorem pin_eq {set : RouteSet} (hout : set.outbounds = routes.map (Route.outbound compat))
    (hnodup : (routes.map Route.tag).Nodup) (hdirect : HopsDirect routes) (hr : r ∈ routes)
    (hkeep : set.defaultTag = r.tag) (htag : r.tag ∈ set.tags) :
    pinToSingleRoute set =
      .ok (pinnedSet compat (routes.filter fun q => r.chain.contains q.tag) r) := by
  have hcontains : (!set.tags.contains r.tag) = false := by simpa using htag
  simp only [pinToSingleRoute, hkeep, hout, hcontains, Check.refuseIf, Bool.false_eq_true, if_false,
    detourChain_route hnodup hdirect hr, filter_chain, bind, Except.bind]
  rfl

theorem routes_ext {f : Endpoint → Except CompatError (Option Endpoint)} {l l' : List Route}
    (hl : ∀ r ∈ l, f r.endpoint = .ok r.hop) (hl' : ∀ r ∈ l', f r.endpoint = .ok r.hop)
    (hmap : l.map Route.endpoint = l'.map Route.endpoint) : l = l' := by
  induction l generalizing l' with
  | nil => exact (List.map_eq_nil_iff.mp hmap.symm).symm
  | cons r l ih =>
    cases l' with
    | nil => cases hmap
    | cons r' l' =>
      rw [List.map_cons, List.map_cons, List.cons.injEq] at hmap
      rw [List.forall_mem_cons] at hl hl'
      have hhop : r.hop = r'.hop := by
        rw [← Except.ok.injEq (ε := CompatError), ← hl.1, ← hl'.1, hmap.1]
      have hroute : r = r' := by
        cases r
        cases r'
        exact congrArg₂ Route.mk hmap.1 hhop
      rw [hroute, ih hl.2 hl'.2 hmap.2]

variable {p : Endpoint → Bool} {routes' : List Route} {acc' : Accumulated}

theorem Rendered.routes_filter (h : Rendered given accessPaths compat routes acc)
    (h' : Rendered (given.filter p) accessPaths compat routes' acc')
    (hkept : ∀ r ∈ routes, p r.endpoint = true → ∀ via ∈ r.hop, p via = true) :
    routes' = routes.filter fun r => p r.endpoint := by
  refine routes_ext h'.hops (fun r hr => ?_) ?_
  · obtain ⟨hr, hp⟩ := List.mem_filter.mp hr
    exact hopOf_filter (List.mem_filter.mpr ⟨h.mem_given hr, hp⟩) (h.hops r hr) (hkept r hr hp)
  · rw [h'.endpoints, ← h.endpoints, List.filter_map]
    rfl

theorem Rendered.pin_filter (h : Rendered given accessPaths .hiddifyPinned routes acc)
    (h' : Rendered (given.filter p) accessPaths .hiddifyPinned routes' acc')
    (htags : (given.map Endpoint.tag).Nodup)
    (hkept : ∀ r ∈ routes, p r.endpoint = true → ∀ via ∈ r.hop, p via = true) (hr : r ∈ routes)
    (hp : p r.endpoint = true) (hsel : r.endpoint ∈ selectableOf accessPaths given)
    (hauto : r.tag ≠ "auto") (hkeep : acc.defaultTag profile .hiddifyPinned = r.tag) :
    pinToSingleRoute (acc'.routeSet profile .hiddifyPinned) =
      pinToSingleRoute (acc.routeSet profile .hiddifyPinned) := by
  have hroutes := h.routes_filter h' hkept
  have hnodup : (routes.map Route.tag).Nodup := by
    rw [← h.endpoints, List.map_map] at htags
    exact htags
  have hr' : r ∈ routes' := hroutes ▸ List.mem_filter.mpr ⟨hr, hp⟩
  have hnodup' : (routes'.map Route.tag).Nodup := by
    rw [hroutes]
    exact (List.filter_sublist.map _).nodup hnodup
  -- the first candidate is still the first one
  have hkeep' : acc'.defaultTag profile .hiddifyPinned = r.tag := by
    rw [h.defaultTag_eq] at hkeep
    rw [h'.defaultTag_eq, hroutes]
    cases hfirst : (candidates profile accessPaths).findSome? fun q => routes.find? q with
    | none =>
      rw [hfirst] at hkeep
      exact absurd hkeep.symm hauto
    | some q =>
      rw [hfirst] at hkeep
      obtain ⟨test, -, hfind⟩ := List.exists_of_findSome?_eq_some hfirst
      obtain rfl : q = r :=
        List.inj_on_of_nodup_map hnodup (List.mem_of_find?_eq_some hfind) hr hkeep
      have hfirst' := Owned.findSome?_filter_of_kept (p := fun r : Route => p r.endpoint) hfirst hp
      rw [hfirst']
      rfl
  have htag : r.tag ∈ (acc.routeSet profile .hiddifyPinned).tags := by
    show r.tag ∈ acc.tags
    rw [tags_of_built h.built h.endpoints]
    exact List.mem_map_of_mem hsel
  have htag' : r.tag ∈ (acc'.routeSet profile .hiddifyPinned).tags := by
    show r.tag ∈ acc'.tags
    rw [tags_of_built h'.built h'.endpoints, selectableOf_filter]
    exact List.mem_map_of_mem (List.mem_filter.mpr ⟨hsel, hp⟩)
  rw [pin_eq h'.built.outbounds hnodup' (hopsDirect_of_hops h'.endpoints h'.hops) hr' hkeep' htag',
    pin_eq h.built.outbounds hnodup (hopsDirect_of_hops h.endpoints h.hops) hr hkeep htag, hroutes,
    List.filter_filter]
  -- the route and its hop are the only ones with the tags of the chain
  have hchain : routes.filter (fun q => r.chain.contains q.tag && p q.endpoint) =
      routes.filter fun q => r.chain.contains q.tag := by
    refine List.filter_congr fun q hq => ?_
    cases hmem : r.chain.contains q.tag with
    | false => rfl
    | true =>
      rw [Bool.true_and]
      rcases mem_pinned hnodup (hopsDirect_of_hops h.endpoints h.hops) hr hq hmem with
        ⟨rfl, -⟩ | ⟨-, hhop, -⟩
      · exact hp
      · exact hkept r hr hp _ hhop
  rw [hchain]

end Pinned

/-! ### What is lost -/

section Loss

variable {user : CompatUser} {removed : String → Bool} {served : List CompatEndpoint}
  {mode : DiagnosticMode} {accessPaths : List AccessPath} {profile : SelectionProfile}
  {compat : CompatibilityMode} {doc : ProvisioningDocument} {given : List Endpoint}

/-- The document of a user lists the endpoints of an earlier one that the user still reaches; where
    there are none left, it is refused for that reason. -/
def OnlyRoutesLost (user : CompatUser) (served : List CompatEndpoint) (mode : DiagnosticMode)
    (accessPaths : List AccessPath) (profile : SelectionProfile) (compat : CompatibilityMode)
    (before : ProvisioningDocument) : Prop :=
  ((∀ s ∈ served, s.selectableIn mode accessPaths = true →
      user.reaches served accessPaths s.id (s.path.map PathType.fromWire) = false) ∧
    provisioningDocumentWithModeAndAccessPathsAndOptions user served mode accessPaths profile
      compat = .error .noSelectableRoute) ∨
  ∃ doc, provisioningDocumentWithModeAndAccessPathsAndOptions user served mode accessPaths profile
      compat = .ok doc ∧
    doc.endpoints = before.endpoints.filter fun ep =>
      user.reaches served accessPaths ep.id ep.path

def FirstHopsKept (user : CompatUser) (served : List CompatEndpoint) (mode : DiagnosticMode)
    (accessPaths : List AccessPath) : Prop :=
  ∀ s ∈ served, s.selectableIn mode accessPaths = true → user.holds s = true →
    ∀ id ∈ firstHopId accessPaths (s.path.map PathType.fromWire), user.holdsId served id = true

instance (user : CompatUser) (served : List CompatEndpoint) (mode : DiagnosticMode)
    (accessPaths : List AccessPath) : Decidable (FirstHopsKept user served mode accessPaths) :=
  inferInstanceAs (Decidable (∀ s ∈ served, s.selectableIn mode accessPaths = true →
    user.holds s = true → ∀ id ∈ firstHopId accessPaths (s.path.map PathType.fromWire),
      user.holdsId served id = true))

def ShownRouteKept (user : CompatUser) (served : List CompatEndpoint) (mode : DiagnosticMode)
    (accessPaths : List AccessPath) (before : ProvisioningDocument) : Prop :=
  (∃ ep ∈ before.endpoints, user.holdsId served ep.id = true) ∨
    ∀ s ∈ served, s.selectableIn mode accessPaths = true → user.holds s = false

variable {s : CompatEndpoint} {routes : List Route} {acc : Accumulated}

theorem holds_of_without (h : (user.without removed).holds s = true) : user.holds s = true := by
  unfold CompatUser.holds CompatUser.without at h
  rw [lookup_filter_key, Bool.or_eq_true] at h
  rw [CompatUser.holds, Bool.or_eq_true]
  refine h.imp_right fun hlookup => ?_
  split at hlookup
  · cases hlookup
  · exact hlookup

theorem served_of_selectable
    (hgiven : (ClientRenderer.provisioning mode).endpoints user served = .ok given) {ep : Endpoint}
    (hep : ep ∈ selectableOf accessPaths given) :
    ∃ s ∈ served, s.selectableIn mode accessPaths = true ∧ ep.id = s.id ∧
      ep.path = s.path.map PathType.fromWire := by
  obtain ⟨hmem, hinfra⟩ := List.mem_filter.mp hep
  obtain ⟨s, hs, hok⟩ := (Check.mem_collect hgiven).mp hmem
  obtain ⟨hid, -, hpath⟩ := provisioningEndpoint_some hok
  obtain ⟨-, hmode⟩ := (given_iff hgiven hs).mp ⟨ep, hok⟩
  refine ⟨s, hs, ?_, hid, hpath⟩
  rw [hid] at hinfra
  rw [CompatEndpoint.selectableIn, hinfra, Bool.and_true]
  simpa [imp_iff_not_or] using hmode

theorem selectable_of_served
    (hgiven : (ClientRenderer.provisioning mode).endpoints user served = .ok given)
    (hs : s ∈ served) (hsel : s.selectableIn mode accessPaths = true)
    (hholds : user.holds s = true) :
    ∃ ep ∈ selectableOf accessPaths given, ep.id = s.id ∧
      ep.path = s.path.map PathType.fromWire := by
  rw [CompatEndpoint.selectableIn, Bool.and_eq_true] at hsel
  obtain ⟨ep, hok⟩ := (given_iff hgiven hs).mpr ⟨hholds, by simpa [imp_iff_not_or] using hsel.1⟩
  obtain ⟨hid, -, hpath⟩ := provisioningEndpoint_some hok
  refine ⟨ep, List.mem_filter.mpr ⟨(Check.mem_collect hgiven).mpr ⟨s, hs, hok⟩, ?_⟩, hid, hpath⟩
  rw [hid]
  exact hsel.2

theorem firstHopsKept_iff (hids : (served.map CompatEndpoint.id).Nodup)
    (hgiven : (ClientRenderer.provisioning mode).endpoints user served = .ok given) :
    FirstHopsKept (user.without removed) served mode accessPaths ↔
      ∀ ep ∈ selectableOf accessPaths given, (user.without removed).holdsId served ep.id = true →
        ∀ id ∈ firstHopId accessPaths ep.path, (user.without removed).holdsId served id = true := by
  constructor
  · intro h ep hep hholds
    obtain ⟨s, hs, hsel, hid, hpath⟩ := served_of_selectable hgiven hep
    rw [hid, holdsId_of_mem hids hs] at hholds
    rw [hpath]
    exact h s hs hsel hholds
  · intro h s hs hsel hholds
    obtain ⟨ep, hep, hid, hpath⟩ :=
      selectable_of_served hgiven hs hsel (holds_of_without hholds)
    rw [← hpath]
    refine h ep hep ?_
    rw [hid, holdsId_of_mem hids hs]
    exact hholds

theorem hops_left (hrendered : Rendered given accessPaths compat routes acc)
    (hkept : ∀ ep ∈ selectableOf accessPaths given, user.holdsId served ep.id = true →
      ∀ id ∈ firstHopId accessPaths ep.path, user.holdsId served id = true) :
    ∀ r ∈ routes, user.holdsId served r.endpoint.id = true →
      ∀ via ∈ r.hop, user.holdsId served via.id = true := by
  intro r hr hholds via hvia
  have hhop := hrendered.hops r hr
  have hid := (hopOf_some (hvia ▸ hhop)).1
  refine hkept r.endpoint (mem_selectableOf (hrendered.mem_given hr) hid) hholds via.id ?_
  rw [firstHopId_of_hop hid hhop, hvia]
  rfl

theorem hopOf_left {p : Endpoint → Bool}
    (hrendered : Rendered given accessPaths compat routes acc)
    (hkept : ∀ r ∈ routes, p r.endpoint = true → ∀ via ∈ r.hop, p via = true) :
    ∀ ep ∈ given.filter p, ∃ hop, hopOf (given.filter p)
      ((selectableOf accessPaths (given.filter p)).map (·.id)) accessPaths ep = .ok hop := by
  intro ep hep
  obtain ⟨hmem, hp⟩ := List.mem_filter.mp hep
  obtain ⟨r, hr, rfl⟩ := List.mem_map.mp (hrendered.endpoints ▸ hmem)
  exact ⟨r.hop, hopOf_filter hep (hrendered.hops r hr) (hkept r hr hp)⟩

theorem document_pinned {set : RouteSet} (hoffered : Offered accessPaths served)
    (hdoc : provisioningDocumentWithModeAndAccessPathsAndOptions user served mode accessPaths
      profile .hiddifyPinned = .ok doc)
    (hgiven : (ClientRenderer.provisioning mode).endpoints user served = .ok given)
    (hprov : Provisioned given accessPaths profile .hiddifyPinned doc routes acc set)
    (hrendered : Rendered given accessPaths .hiddifyPinned routes acc)
    (hkept : ∀ r ∈ routes, (user.without removed).holdsId served r.endpoint.id = true →
      ∀ via ∈ r.hop, (user.without removed).holdsId served via.id = true)
    (hshown : ∃ ep ∈ doc.endpoints, (user.without removed).holdsId served ep.id = true) :
    provisioningDocumentWithModeAndAccessPathsAndOptions (user.without removed) served mode
      accessPaths profile .hiddifyPinned = .ok doc ∧
    ∀ ep ∈ doc.endpoints, (user.without removed).holdsId served ep.id = true := by
  obtain ⟨htags, hres⟩ := given_told_apart hoffered hgiven
  obtain ⟨kept, shown, harr, hdefault, hpinned⟩ := arranged_of_provisioned hprov htags hres
  obtain ⟨r, hpin⟩ := hpinned rfl
  have hdrawn : Drawn user served mode accessPaths profile .hiddifyPinned doc given routes acc set
      kept shown := ⟨hgiven, htags, hprov, harr, hres, hdefault, hpinned⟩
  have hcatalog : doc.endpoints = [r.endpoint] := (hdrawn.pinned_catalog hpin).1
  have hr : r ∈ routes := harr.layout.sublist.subset hpin.mem
  have hholds : (user.without removed).holdsId served r.endpoint.id = true := by
    obtain ⟨ep, hep, hholds⟩ := hshown
    rw [hcatalog, List.mem_singleton] at hep
    exact hep ▸ hholds
  have hall : ∀ ep ∈ doc.endpoints, (user.without removed).holdsId served ep.id = true := by
    rw [hcatalog]
    simpa using hholds
  refine ⟨?_, hall⟩
  have hsel : r.endpoint ∈ selectableOf accessPaths given := catalog_selectable hprov (by
    rw [hcatalog]
    exact List.mem_singleton_self _)
  have hauto : r.tag ≠ "auto" := fun heq => hres r.endpoint (hrendered.mem_given hr) (by
    rw [show r.endpoint.tag = "auto" from heq]
    decide)
  have hpinOk : pinToSingleRoute (acc.routeSet profile .hiddifyPinned) = .ok set := by
    have hgroups := hprov.groups
    rwa [pinFor, if_pos rfl] at hgroups
  have hkeep : acc.defaultTag profile .hiddifyPinned = r.tag := by
    rw [← hpin.defaultTag]
    simp only [pinToSingleRoute, Check.bind_ok, Except.ok.injEq] at hpinOk
    rw [← hpinOk.2]
    rfl
  have hgiven' := given_without removed hoffered.ids hgiven
  have hne : selectableOf accessPaths (given.filter fun ep =>
      (user.without removed).holdsId served ep.id) ≠ [] := by
    rw [selectableOf_filter]
    exact List.ne_nil_of_mem (List.mem_filter.mpr ⟨hsel, hholds⟩)
  obtain ⟨routes', acc', hrendered', hrender'⟩ := render_of_hops profile .hiddifyPinned
    ((List.filter_sublist.map _).nodup htags) (hopOf_left hrendered hkept) hne
  rw [pinFor, if_pos rfl, hrendered.pin_filter hrendered' htags hkept hr hholds hsel hauto hkeep,
    hpinOk] at hrender'
  -- the same configuration is restored to the same one
  obtain ⟨config, hrestore⟩ : ∃ config, restoreApplicationUdpOnRelayedVless
      (set.config .hiddifyPinned) .hiddifyPinned = .ok config := by
    simp [restoreApplicationUdpOnRelayedVless]
  have hconfig := restore_config hrestore
  have hlisted : catalogOf .hiddifyPinned config (selectableOf accessPaths (given.filter fun ep =>
      (user.without removed).holdsId served ep.id)) = doc.endpoints := by
    have hbefore := hprov.catalog
    rw [← hconfig, catalogOf, if_pos rfl] at hbefore
    rw [catalogOf, if_pos rfl, selectableOf_filter, List.filter_filter]
    rw [← List.filter_eq_self.mpr hall, hbefore, List.filter_filter]
    exact List.filter_congr fun ep _ => Bool.and_comm _ _
  have hsame : assembled (user.without removed) served accessPaths doc.endpoints config = doc := by
    obtain ⟨config', heq⟩ := assembled_of_ok hdoc
    have hprovConfig := hprov.config
    rw [← hconfig, heq] at hprovConfig
    rw [heq, ← Option.some.inj hprovConfig]
    rfl
  have hok := document_of_parts hgiven' hne hrender' hrestore (by
    rw [hlisted, hsame]
    exact hprov.valid)
  rwa [hlisted, hsame] at hok

/-- An answer of either kind means that every endpoint found its hop. -/
theorem firstHopsKept_of_lost (hoffered : Offered accessPaths served)
    (hdoc : provisioningDocumentWithModeAndAccessPathsAndOptions user served mode accessPaths
      profile compat = .ok doc)
    (h : OnlyRoutesLost (user.without removed) served mode accessPaths profile compat doc) :
    FirstHopsKept (user.without removed) served mode accessPaths := by
  obtain ⟨given, -, -, -, hgiven, -, -⟩ := rendered_of_ok hdoc
  have hgiven' := given_without removed hoffered.ids hgiven
  have hsub := selectableOf_filter accessPaths
    (fun ep => (user.without removed).holdsId served ep.id) given
  generalize hleft : given.filter (fun ep => (user.without removed).holdsId served ep.id) = left
    at hgiven' hsub
  have hhops : selectableOf accessPaths left ≠ [] → ∀ ep ∈ left, ∃ hop,
      hopOf left ((selectableOf accessPaths left).map (·.id)) accessPaths ep = .ok hop := by
    intro hne
    rcases h with ⟨-, herror⟩ | ⟨doc', hok, -⟩
    · exact hops_of_noSelectable hgiven' herror hne
    · obtain ⟨given', routes', acc', set', hgiven'', hprov', -⟩ := rendered_of_ok hok
      obtain rfl : left = given' := Except.ok.inj (hgiven'.symm.trans hgiven'')
      intro ep hep
      obtain ⟨r, hr, rfl⟩ := List.mem_map.mp (hprov'.endpoints ▸ hep)
      exact ⟨r.hop, hprov'.hops r hr⟩
  rw [firstHopsKept_iff hoffered.ids hgiven]
  intro ep hep hholds id hid
  have hep' : ep ∈ selectableOf accessPaths left := hsub ▸ List.mem_filter.mpr ⟨hep, hholds⟩
  obtain ⟨hop, hhop⟩ := hhops (List.ne_nil_of_mem hep') ep (List.mem_of_mem_filter hep')
  rw [Option.mem_def, firstHopId_of_hop (List.mem_map_of_mem hep') hhop,
    Option.map_eq_some_iff] at hid
  obtain ⟨via, rfl, rfl⟩ := hid
  obtain ⟨-, _, -, -, -, -, hvia⟩ := hopOf_some hhop
  rw [← hleft] at hvia
  exact (List.mem_filter.mp hvia).2

theorem shownRouteKept_of_lost (hoffered : Offered accessPaths served)
    (hkept : FirstHopsKept (user.without removed) served mode accessPaths)
    (h : OnlyRoutesLost (user.without removed) served mode accessPaths profile .hiddifyPinned doc) :
    ShownRouteKept (user.without removed) served mode accessPaths doc := by
  rcases h with ⟨hnone, -⟩ | ⟨doc', hok, hcatalog⟩
  · right
    intro s hs hsel
    cases hholds : (user.without removed).holds s with
    | false => rfl
    | true =>
      have hreach := hnone s hs hsel
      rw [reaches_iff.mpr ⟨(holdsId_of_mem hoffered.ids hs).trans hholds,
        hkept s hs hsel hholds⟩] at hreach
      cases hreach
  · left
    -- the profile that is left shows a route, which is one of those before
    obtain ⟨_, _, _, _, _, _, hdrawn⟩ := drawn_of_ok hoffered hok
    obtain ⟨r, hpin⟩ := hdrawn.pinned rfl
    have hlisted : r.endpoint ∈ doc'.endpoints := by
      rw [(hdrawn.pinned_catalog hpin).1]
      exact List.mem_singleton_self _
    rw [hcatalog] at hlisted
    obtain ⟨hep, hreach⟩ := List.mem_filter.mp hlisted
    exact ⟨r.endpoint, hep, (reaches_iff.mp hreach).1⟩

theorem lost_of_firstHopsKept (hoffered : Offered accessPaths served)
    (hdoc : provisioningDocumentWithModeAndAccessPathsAndOptions user served mode accessPaths
      profile compat = .ok doc)
    (hkept : FirstHopsKept (user.without removed) served mode accessPaths)
    (hshown : compat = .hiddifyPinned →
      ShownRouteKept (user.without removed) served mode accessPaths doc) :
    OnlyRoutesLost (user.without removed) served mode accessPaths profile compat doc := by
  obtain ⟨given, routes, acc, set, hgiven, hprov, hrendered⟩ := rendered_of_ok hdoc
  have hgiven' := given_without removed hoffered.ids hgiven
  have hsub := selectableOf_filter accessPaths
    (fun ep => (user.without removed).holdsId served ep.id) given
  have hkept' := (firstHopsKept_iff hoffered.ids hgiven).mp hkept
  generalize hleft : given.filter (fun ep => (user.without removed).holdsId served ep.id) = left
    at hgiven' hsub
  by_cases hnil : selectableOf accessPaths left = []
  · refine .inl ⟨fun s hs hsel => ?_, document_of_no_selectable hgiven' hnil⟩
    rw [Bool.eq_false_iff]
    intro hreach
    have hholds := (reaches_iff.mp hreach).1
    have hheld := (holdsId_of_mem hoffered.ids hs).symm.trans hholds
    obtain ⟨ep, hep, hid, -⟩ := selectable_of_served hgiven hs hsel (holds_of_without hheld)
    have hleft : ep ∈ selectableOf accessPaths left :=
      hsub ▸ List.mem_filter.mpr ⟨hep, by rw [hid]; exact hholds⟩
    rw [hnil] at hleft
    cases hleft
  · right
    have hreaches : ∀ ep ∈ selectableOf accessPaths given,
        (user.without removed).reaches served accessPaths ep.id ep.path =
          (user.without removed).holdsId served ep.id := by
      intro ep hep
      rw [Bool.eq_iff_iff, reaches_iff]
      exact ⟨And.left, fun hholds => ⟨hholds, hkept' ep hep hholds⟩⟩
    by_cases hc : compat = .hiddifyPinned
    · subst hc
      have hheld := hops_left hrendered hkept'
      have hroute : ∃ ep ∈ doc.endpoints, (user.without removed).holdsId served ep.id = true := by
        refine (hshown rfl).resolve_right fun hnone => hnil ?_
        rw [hsub, List.filter_eq_nil_iff]
        intro ep hep hholds
        obtain ⟨s, hs, hsel, hid, -⟩ := served_of_selectable hgiven hep
        rw [hid, holdsId_of_mem hoffered.ids hs, hnone s hs hsel] at hholds
        cases hholds
      obtain ⟨hok, hall⟩ := document_pinned hoffered hdoc hgiven hprov hrendered hheld hroute
      refine ⟨doc, hok, (List.filter_eq_self.mpr fun ep hep => ?_).symm⟩
      rw [hreaches ep (catalog_selectable hprov hep)]
      exact hall ep hep
    · have hcatalog : doc.endpoints = selectableOf accessPaths given := by
        rw [hprov.catalog, catalogOf, if_neg hc]
      obtain ⟨htags, hres⟩ := given_told_apart hoffered hgiven
      have hids := given_ids hoffered hgiven
      have hs := servable_of_ok hc hdoc hprov
      subst hleft
      have hsel : ∀ ep ∈ selectableOf accessPaths (given.filter fun ep =>
          (user.without removed).holdsId served ep.id), ep ∈ selectableOf accessPaths given := by
        intro ep hep
        exact List.mem_of_mem_filter (hsub ▸ hep)
      obtain ⟨doc', hok, hendpoints⟩ := document_ok hc hgiven'
        ((List.filter_sublist.map _).nodup hids) ((List.filter_sublist.map _).nodup htags)
        (fun ep hep => hres ep (List.mem_of_mem_filter hep))
        (hopOf_left hrendered (hops_left hrendered hkept')) hnil
        ⟨hs.paths, hs.cleanPaths, fun ep hep => hs.valid ep (hsel ep hep),
          fun ep hep => hs.clean ep (hsel ep hep),
          fun ep hep => hs.dialable ep (List.mem_of_mem_filter hep)⟩
      refine ⟨doc', hok, ?_⟩
      rw [hendpoints, hsub, hcatalog]
      exact List.filter_congr fun ep hep => (hreaches ep hep).symm

/-- Losing peer credentials costs the routes that need them and nothing else, exactly if first hops
    and the route that is shown stay. -/
theorem credential_loss {ext : External} {d : DeploymentConfig} {publicKey shortId : String}
    {obfs : Option String} (hd : d.validate ext = .ok ())
    (hserved : d.servedEndpoints ext publicKey shortId obfs = .ok served)
    (hpaths : d.contractAccessPaths = .ok accessPaths)
    (hdoc : provisioningDocumentWithModeAndAccessPathsAndOptions user served mode accessPaths
      profile compat = .ok doc) (removed : String → Bool) :
    OnlyRoutesLost (user.without removed) served mode accessPaths profile compat doc ↔
      FirstHopsKept (user.without removed) served mode accessPaths ∧
        (compat = .hiddifyPinned →
          ShownRouteKept (user.without removed) served mode accessPaths doc) := by
  have hoffered := offered_of_validate hd hserved hpaths
  constructor
  · intro h
    have hkept := firstHopsKept_of_lost hoffered hdoc h
    exact ⟨hkept, fun hc => shownRouteKept_of_lost hoffered hkept (hc ▸ h)⟩
  · rintro ⟨hkept, hshown⟩
    exact lost_of_firstHopsKept hoffered hdoc hkept hshown

end Loss

theorem sampleRelay_hopsKept :
    (sampleRelay.servedEndpoints sampleExternal samplePublicKey "ab" none).toOption.any (fun served =>
      sampleRelay.contractAccessPaths.toOption.any fun accessPaths =>
        decide (FirstHopsKept (samplePeerUser.without (· == "exit-1")) served .none accessPaths)) =
      true := by
  decide +kernel

/-- The sample relay without the credential of its exit. -/
theorem credential_loss_sampleRelay : ∃ served accessPaths doc,
    sampleRelay.servedEndpoints sampleExternal samplePublicKey "ab" none = .ok served ∧
      sampleRelay.contractAccessPaths = .ok accessPaths ∧
      provisioningDocumentWithModeAndAccessPathsAndOptions samplePeerUser served .none accessPaths
        .reliability .normal = .ok doc ∧
      OnlyRoutesLost (samplePeerUser.without (· == "exit-1")) served .none accessPaths .reliability
        .normal doc := by
  obtain ⟨served, accessPaths, doc, hserved, hpaths, hok, -⟩ := provision_any sampleRelay_provision
  have hkept := sampleRelay_hopsKept
  rw [hserved, hpaths] at hkept
  refine ⟨served, accessPaths, doc, hserved, hpaths, hok, ?_⟩
  exact (credential_loss sampleRelay_valid hserved hpaths hok _).mpr
    ⟨of_decide_eq_true hkept, fun hc => by cases hc⟩

def samplePeer (id tag host path : String) : PeerEndpointSection where
  id := id
  tag := tag
  host := host
  port := 443
  transport := .vlessReality
  serverName := none
  realityPublicKey := some samplePublicKey
  realityShortId := some "ab"
  realityFingerprint := "chrome"
  obfsPassword := none
  failureDomain := id
  region := none
  provider := none
  asn := none
  path := path
  credentialRef := none
  vlessFlow := .vision
  extra := []

/-- An exit whose customers may also use another one, through a peer's entry. -/
def sampleTransit : DeploymentConfig :=
  { sampleExit with
    accessPaths := [⟨"via-entry", "relay", some "entry-1", none, none, none, ["tcp"], []⟩]
    peerEndpoints := [samplePeer "entry-1" "Entry 1" "entry.example.net" "direct",
      samplePeer "exit-2" "Exit 2" "exit2.example.net" "via-entry"]
    googleEgressHairpin := none }

def sampleTransitUser : CompatUser :=
  { sampleUser with
    peerCredentials := [("entry-1", .vlessReality "00000000-0000-4000-8000-000000000002"),
      ("exit-2", .vlessReality "00000000-0000-4000-8000-000000000003")] }

theorem sampleTransit_provision : (sampleTransit.provision sampleExternal samplePublicKey "ab" none
    sampleTransitUser .none .reliability .normal).toOption.any (fun _ => true) = true := by
  decide +kernel

/-- Without the credential of the entry the whole document fails. -/
theorem credential_loss_fails_sampleTransit : ∃ served accessPaths doc,
    sampleTransit.validate sampleExternal = .ok () ∧
      sampleTransit.servedEndpoints sampleExternal samplePublicKey "ab" none = .ok served ∧
      sampleTransit.contractAccessPaths = .ok accessPaths ∧
      provisioningDocumentWithModeAndAccessPathsAndOptions sampleTransitUser served .none
        accessPaths .reliability .normal = .ok doc ∧
      ¬ OnlyRoutesLost (sampleTransitUser.without (· == "entry-1")) served .none accessPaths
        .reliability .normal doc := by
  obtain ⟨served, accessPaths, doc, hserved, hpaths, hok, -⟩ := provision_any sampleTransit_provision
  have hvalid : sampleTransit.validate sampleExternal = .ok () := rfl
  have hlost : (sampleTransit.servedEndpoints sampleExternal samplePublicKey "ab" none).toOption.any
      (fun served => sampleTransit.contractAccessPaths.toOption.any fun accessPaths =>
        !decide (FirstHopsKept (sampleTransitUser.without (· == "entry-1")) served .none
          accessPaths)) = true := by
    decide +kernel
  rw [hserved, hpaths] at hlost
  refine ⟨served, accessPaths, doc, hvalid, hserved, hpaths, hok, fun h => ?_⟩
  have hkept := firstHopsKept_of_lost (offered_of_validate hvalid hserved hpaths) hok h
  simp [Except.toOption, hkept] at hlost

end SingboxVpn
