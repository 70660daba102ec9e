import SingboxVpn.Client.Document
import SingboxVpn.Lib.Owned

/-!
# The sing-box configuration of a client

`crates/compat-config/src/render.rs`: one outbound for each endpoint, chained through a first hop
where the endpoint is on a relay path, and the groups that choose between them.

* `Route` — an endpoint with its first hop; `routes_of_loop` — what the renderer's loop builds.
* `pin_ok`, `render_ok` — what a rendered configuration consists of.
-/

namespace SingboxVpn

open Json (object strs)
open Text (debug)

/-- Which route the selector starts with. -/
inductive SelectionProfile where
  | reliability
  | performance
  | auto
deriving DecidableEq, Repr

/-- A profile from its name. -/
def SelectionProfile.parse (s : String) : Option SelectionProfile :=
  if s = "reliability" then some .reliability
  else if s = "performance" then some .performance
  else if s = "auto" then some .auto
  else none

/-- A compatibility mode from its name. -/
def CompatibilityMode.parse (s : String) : Option CompatibilityMode :=
  if s = "normal" then some .normal
  else if s = "tcp-only" then some .tcpOnly
  else if s = "quic-reject" then some .quicReject
  else if s = "vision-off" then some .visionOff
  else if s = "hiddify-pinned" then some .hiddifyPinned
  else if s = "youtube-direct" then some .youTubeDirect
  else none

/-! ### One outbound -/

def endpointOutbound (compat : CompatibilityMode) (ep : Endpoint) : Json :=
  match ep.params with
  | .vlessReality uuid flow reality =>
    let ob := object [
      ("type", .str "vless"),
      ("tag", .str ep.tag),
      ("server", .str ep.host),
      ("server_port", .num ep.port),
      ("uuid", .str uuid),
      ("tls", object [
        ("enabled", .bool true),
        ("server_name", .str ep.serverName),
        ("utls", object [("enabled", .bool true), ("fingerprint", .str reality.fingerprint)]),
        ("reality", object [
          ("enabled", .bool true),
          ("public_key", .str reality.publicKey),
          ("short_id", .str reality.shortId)])])]
    let ob := match flow with
      | some flow => ob.set "flow" (.str flow)
      | none => ob
    if compat = .tcpOnly then ob.set "network" (.str "tcp") else ob
  | .hysteria2 password obfs =>
    let ob := object [
      ("type", .str "hysteria2"),
      ("tag", .str ep.tag),
      ("server", .str ep.host),
      ("server_port", .num ep.port),
      ("password", .str password),
      ("tls", object [
        ("enabled", .bool true),
        ("server_name", .str ep.serverName),
        ("insecure", .bool false)])]
    match obfs with
    | some obfs =>
      ob.set "obfs" (object [("type", .str obfs.obfsType), ("password", .str obfs.password)])
    | none => ob

def chainedOutbound (compat : CompatibilityMode) (ep via : Endpoint) : Json :=
  ((endpointOutbound compat ep).set "network" (.str "tcp")).set "detour" (.str via.tag)

/-- A map built from a list keeps the last entry of each key. -/
def endpointById (all : List Endpoint) (id : String) : Option Endpoint :=
  all.reverse.find? fun ep => ep.id == id

def pathById (accessPaths : List AccessPath) (id : String) : Option AccessPath :=
  accessPaths.reverse.find? fun path => path.id == id

def Endpoint.isVless (ep : Endpoint) : Bool := ep.params.transport == .vlessReality

def firstHop (all : List Endpoint) (accessPaths : List AccessPath) (ep : Endpoint)
    (pathId : String) : Except CompatError Endpoint :=
  match pathById accessPaths pathId with
  | none => .error (.parse ("endpoint " ++ debug ep.id ++ " references unknown access path " ++
      debug pathId))
  | some path =>
    if path.kind ≠ .relay then
      .error (.parse ("endpoint " ++ debug ep.id ++ " references access path " ++ debug pathId ++
        " of kind " ++ debug path.kind.asStr ++ "; only relay paths have executable chaining " ++
        "semantics"))
    else match path.viaEndpointId with
    | none => .error (.parse ("endpoint " ++ debug ep.id ++ " references relay path " ++
        debug pathId ++ " without via_endpoint_id; refusing to silently dial direct"))
    | some viaId =>
      match endpointById all viaId with
      | none => .error (.parse ("relay path " ++ debug pathId ++ " references unavailable " ++
          "first-hop endpoint " ++ debug viaId ++ " for this user"))
      | some via => do
        Check.refuseIf (via.id == ep.id)
          (.parse ("endpoint " ++ debug ep.id ++ " cannot detour through itself"))
        Check.refuseIf (!ep.isVless || !via.isVless)
          (.parse ("relay path " ++ debug pathId ++ " is TCP/VLESS+REALITY-only in the current " ++
            "MVP; both first hop and exit must be vless-reality"))
        .ok via

/-! ### The loop over the endpoints -/

structure Accumulated where
  outbounds : List Json := []
  tags : List String := []
  relayedTags : List String := []
  realityTag : Option String := none
  hysteria2Tag : Option String := none

def Accumulated.offer (acc : Accumulated) (ep : Endpoint) : Accumulated :=
  let acc := { acc with tags := acc.tags ++ [ep.tag] }
  match ep.params with
  | .vlessReality .. => { acc with realityTag := acc.realityTag.or (some ep.tag) }
  | .hysteria2 .. => { acc with hysteria2Tag := acc.hysteria2Tag.or (some ep.tag) }

section Loop

variable (all : List Endpoint) (selectable : List String) (accessPaths : List AccessPath)
  (compat : CompatibilityMode)

def relayPathOf (ep : Endpoint) : Option String :=
  if selectable.contains ep.id && !accessPaths.isEmpty then
    match ep.path with
    | some (.other pathId) => some pathId
    | _ => none
  else none

def renderEndpoint (acc : Accumulated) (ep : Endpoint) : Except CompatError Accumulated :=
  let isSelectable := selectable.contains ep.id
  let isInfrastructure := (infrastructureEndpointIds accessPaths).contains ep.id
  if !isSelectable && !isInfrastructure then .ok acc
  else do
    Check.refuseIf (isSelectable && acc.tags.contains ep.tag)
      (.parse ("duplicate selectable outbound tag " ++ debug ep.tag ++ "; endpoint labels used " ++
        "as Core tags must be unique"))
    let acc := if isSelectable then acc.offer ep else acc
    match relayPathOf selectable accessPaths ep with
    | some pathId => do
      let via ← firstHop all accessPaths ep pathId
      .ok { acc with
        outbounds := acc.outbounds ++ [chainedOutbound compat ep via]
        relayedTags := acc.relayedTags ++ [ep.tag] }
    | none => .ok { acc with outbounds := acc.outbounds ++ [endpointOutbound compat ep] }

end Loop

/-! ### The groups -/

structure RouteSet where
  outbounds : List Json
  tags : List String
  autoMembers : List String
  defaultTag : String

def Accumulated.defaultTag (acc : Accumulated) (profile : SelectionProfile)
    (compat : CompatibilityMode) : String :=
  if profile = .auto ∧ compat ≠ .hiddifyPinned then "auto"
  else match acc.relayedTags with
  -- once there is a relayed route the default is one
  | first :: _ => first
  | [] =>
    match profile with
    | .performance => ((acc.hysteria2Tag.or acc.realityTag).or acc.tags.head?).getD "auto"
    | .reliability | .auto => (acc.realityTag.or acc.tags.head?).getD "auto"

def Accumulated.routeSet (acc : Accumulated) (profile : SelectionProfile)
    (compat : CompatibilityMode) : RouteSet where
  outbounds := acc.outbounds
  tags := acc.tags
  autoMembers := if acc.relayedTags.isEmpty then acc.tags else acc.relayedTags
  defaultTag := acc.defaultTag profile compat

/-- The mark of an outbound that users do not see. -/
def HIDDIFY_HIDDEN_TAG_SUFFIX : String := " §hide§"

def nextHop (outbounds : List Json) (tag : String) : Option String :=
  (outbounds.find? fun ob => tagOf ob == some tag).bind detourOf

/-- A chain of tags, extended by the next hop of its last one as long as that is a new tag. -/
def followDetours (next : String → Option String) : Nat → List String → List String
  | 0, chain => chain
  | fuel + 1, chain =>
    match chain.getLast?.bind next with
    | some tag => if tag ∈ chain then chain else followDetours next fuel (chain ++ [tag])
    | none => chain

/-- The route with everything that it dials through.  Each tag of the chain but the last one has
    an outbound, so that there are never more rounds than outbounds. -/
def detourChain (outbounds : List Json) (keep : String) : List String :=
  followDetours (nextHop outbounds) outbounds.length [keep]

def hiddenTag (tag : String) : String := tag ++ HIDDIFY_HIDDEN_TAG_SUFFIX

def hideTag (hidden : String) (ob : Json) : Json :=
  let ob := if tagOf ob = some hidden then ob.set "tag" (.str (hiddenTag hidden)) else ob
  if detourOf ob = some hidden then ob.set "detour" (.str (hiddenTag hidden)) else ob

/-- One visible route, with the hops that it dials through hidden. -/
def pinToSingleRoute (set : RouteSet) : Except CompatError RouteSet := do
  let keep := set.defaultTag
  Check.refuseIf (!set.tags.contains keep)
    (.parse ("cannot pin Hiddify profile to " ++ debug keep ++ ": not a selectable outbound tag"))
  let chain := detourChain set.outbounds keep
  let retained := set.outbounds.filter fun ob => (tagOf ob).any chain.contains
  .ok {
    outbounds := (chain.drop 1).foldl (fun obs hidden => obs.map (hideTag hidden)) retained
    tags := [keep]
    autoMembers := [keep]
    defaultTag := keep }

def pinFor (compat : CompatibilityMode) (set : RouteSet) : Except CompatError RouteSet :=
  if compat = .hiddifyPinned then pinToSingleRoute set else .ok set

/-! ### The configuration -/

/-- The rule of the mode that rejects QUIC. -/
def quicRejectRule : Json :=
  object [("network", .str "udp"), ("port", .num 443), ("action", .str "reject"),
    ("method", .str "default"), ("no_drop", .bool true)]

/-- The rule of the mode that sends the Google domains out directly. -/
def youtubeDirectRule : Json :=
  object [("domain_suffix", strs GOOGLE_EGRESS_DOMAINS), ("outbound", .str "direct")]

def clientRoute (compat : CompatibilityMode) : Json :=
  let route := object [("final", .str "select")]
  if compat = .youTubeDirect then route.set "rules" (.arr [youtubeDirectRule])
  else if compat = .quicReject then route.set "rules" (.arr [quicRejectRule])
  else route

namespace RouteSet

def automaticGroup (set : RouteSet) : Json :=
  object [("type", .str "urltest"), ("tag", .str "auto"), ("outbounds", strs set.autoMembers),
    ("url", .str "https://www.gstatic.com/generate_204"), ("interval", .str "1m")]

def selectorGroup (set : RouteSet) : Json :=
  object [("type", .str "selector"), ("tag", .str "select"),
    ("outbounds", strs (set.tags ++ ["auto"])), ("default", .str set.defaultTag)]

def directOutbound : Json := object [("type", .str "direct"), ("tag", .str "direct")]

def allOutbounds (set : RouteSet) : List Json :=
  set.outbounds ++ [set.automaticGroup, set.selectorGroup, directOutbound]

def config (set : RouteSet) (compat : CompatibilityMode) : Json :=
  object [("outbounds", .arr set.allOutbounds), ("route", clientRoute compat)]

end RouteSet

/-- The client configuration for endpoints and access paths. -/
def renderSingboxConfigFromContractWithAccessPaths (allEndpoints : List Endpoint)
    (selectableEndpointIds : List String) (accessPaths : List AccessPath)
    (profile : SelectionProfile) (compat : CompatibilityMode) : Except CompatError Json := do
  -- the ids are a sorted set, and the first that is missing is named
  Check.onSome
    (fun id => .error (.parse ("selectable endpoint id " ++ debug id ++ " has no " ++
      "credential-bearing endpoint")))
    ((selectableEndpointIds.insertionSort (· ≤ ·)).find? fun id =>
      (endpointById allEndpoints id).isNone)
  let acc ← allEndpoints.foldlM
    (renderEndpoint allEndpoints selectableEndpointIds accessPaths compat) {}
  Check.refuseIf acc.tags.isEmpty .noSelectableRoute
  let set ← pinFor compat (acc.routeSet profile compat)
  .ok (set.config compat)

/-- The same where every endpoint may be chosen and no paths are declared. -/
def renderSingboxConfigFromContract (endpoints : List Endpoint) (profile : SelectionProfile)
    (compat : CompatibilityMode) : Except CompatError Json :=
  renderSingboxConfigFromContractWithAccessPaths endpoints (endpoints.map (·.id)) [] profile compat

/-! ### Routes -/

structure Route where
  endpoint : Endpoint
  hop : Option Endpoint

namespace Route

def tag (r : Route) : String := r.endpoint.tag

/-- The outbound of a route, chained if it has a first hop. -/
def outbound (compat : CompatibilityMode) (r : Route) : Json :=
  match r.hop with
  | none => endpointOutbound compat r.endpoint
  | some via => chainedOutbound compat r.endpoint via

end Route

structure Carries (compat : CompatibilityMode) (shown : String → String) (r : Route) (ob : Json) :
    Prop where
  isObject : ob.isObject = true
  tag : ob.get? "tag" = some (.str (shown r.tag))
  detour : ob.get? "detour" = r.hop.map fun via => .str (shown via.tag)
  fields : ∀ k, k ∉ ["tag", "detour", "network"] →
    ob.get? k = (endpointOutbound compat r.endpoint).get? k

namespace Carries

variable {compat : CompatibilityMode} {shown : String → String} {r : Route} {ob : Json}

theorem tagOf_eq (h : Carries compat shown r ob) : tagOf ob = some (shown r.tag) := by
  rw [tagOf, h.tag]
  rfl

theorem detourOf_eq (h : Carries compat shown r ob) :
    detourOf ob = r.hop.map fun via => shown via.tag := by
  rw [detourOf, h.detour]
  cases r.hop <;> rfl

end Carries

theorem isObject_endpointOutbound (compat : CompatibilityMode) (ep : Endpoint) :
    (endpointOutbound compat ep).isObject = true := by
  unfold endpointOutbound
  split
  · split <;> split <;> simp
  · split <;> simp

theorem get?_endpointOutbound (compat : CompatibilityMode) (ep : Endpoint) :
    (endpointOutbound compat ep).get? "tag" = some (.str ep.tag) ∧
      (endpointOutbound compat ep).get? "detour" = none ∧
      (endpointOutbound compat ep).get? "type" =
        some (.str (if ep.isVless then "vless" else "hysteria2")) := by
  unfold endpointOutbound Endpoint.isVless TransportParams.transport
  cases ep.params with
  | vlessReality uuid flow reality =>
    cases flow <;> by_cases hc : compat = .tcpOnly <;>
      simp [hc, Json.set_object, Json.get?_object, Json.lookup_cons_ite]
  | hysteria2 password obfs =>
    cases obfs <;> simp [Json.set_object, Json.get?_object, Json.lookup_cons_ite]

theorem carries_outbound (compat : CompatibilityMode) (r : Route) :
    Carries compat id r (r.outbound compat) := by
  obtain ⟨htag, hdetour, -⟩ := get?_endpointOutbound compat r.endpoint
  have hobj := isObject_endpointOutbound compat r.endpoint
  obtain ⟨ep, hop⟩ := r
  cases hop with
  | none => exact ⟨hobj, htag, hdetour, fun _ _ => rfl⟩
  | some via =>
    have hset : ((endpointOutbound compat ep).set "network" (.str "tcp")).isObject = true := by
      simp [hobj]
    refine ⟨by simp [Route.outbound, chainedOutbound, hobj], ?_, ?_, ?_⟩
    · show (chainedOutbound compat ep via).get? "tag" = _
      rw [chainedOutbound, Json.get?_set hset, if_neg (by decide), Json.get?_set hobj,
        if_neg (by decide), htag]
      rfl
    · show (chainedOutbound compat ep via).get? "detour" = _
      rw [chainedOutbound, Json.get?_set hset, if_pos rfl]
      rfl
    · intro k hk
      simp only [List.mem_cons, List.not_mem_nil, or_false, not_or] at hk
      show (chainedOutbound compat ep via).get? k = _
      rw [chainedOutbound, Json.get?_set hset, if_neg hk.2.1, Json.get?_set hobj, if_neg hk.2.2]

def hide (hidden tag : String) : String := if tag = hidden then hiddenTag tag else tag

theorem Carries.hideTag {compat : CompatibilityMode} {shown : String → String} {r : Route}
    {ob : Json} (h : Carries compat shown r ob) (hidden : String) :
    Carries compat (hide hidden ∘ shown) r (SingboxVpn.hideTag hidden ob) := by
  -- the tag is renamed first, which changes no other member
  have hrenamed : ∃ ob', (if tagOf ob = some hidden then ob.set "tag" (.str (hiddenTag hidden))
      else ob) = ob' ∧ ob'.isObject = true ∧
      ob'.get? "tag" = some (.str (hide hidden (shown r.tag))) ∧
      ∀ k, k ≠ "tag" → ob'.get? k = ob.get? k := by
    refine ⟨_, rfl, ?_, ?_, ?_⟩
    · split <;> simp [h.isObject]
    · have hiff : tagOf ob = some hidden ↔ shown r.tag = hidden := by
        rw [h.tagOf_eq, Option.some.injEq]
      rw [hide]
      by_cases ht : shown r.tag = hidden
      · rw [if_pos (hiff.mpr ht), if_pos ht, Json.get?_set h.isObject, if_pos rfl, ht]
      · rw [if_neg (mt hiff.mp ht), if_neg ht, h.tag]
    · intro k hk
      split
      · rw [Json.get?_set h.isObject, if_neg hk]
      · rfl
  obtain ⟨ob', heq, hobj, htag, hrest⟩ := hrenamed
  have hdetour : detourOf ob' = r.hop.map fun via => shown via.tag := by
    rw [← h.detourOf_eq, detourOf, detourOf, hrest "detour" (by decide)]
  simp only [SingboxVpn.hideTag, heq, hdetour]
  have hfields : ∀ k, k ∉ ["tag", "detour", "network"] →
      ob'.get? k = (endpointOutbound compat r.endpoint).get? k := by
    intro k hk
    rw [hrest k (by rintro rfl; simp at hk), h.fields k hk]
  by_cases hd : (r.hop.map fun via => shown via.tag) = some hidden
  · rw [if_pos hd]
    obtain ⟨via, hvia, hshown⟩ := Option.map_eq_some_iff.mp hd
    refine ⟨by simp [hobj], ?_, ?_, ?_⟩
    · rw [Json.get?_set hobj, if_neg (by decide), htag]
      rfl
    · rw [Json.get?_set hobj, if_pos rfl, hvia]
      simp [hide, hshown]
    · intro k hk
      rw [Json.get?_set hobj, if_neg (by rintro rfl; simp at hk), hfields k hk]
  · rw [if_neg hd]
    refine ⟨hobj, htag, ?_, hfields⟩
    rw [hrest "detour" (by decide), h.detour]
    cases hop : r.hop with
    | none => rfl
    | some via =>
      have hne : shown via.tag ≠ hidden := fun e => hd (by simp [hop, e])
      simp [hide, hne]

theorem tagOf_outbound (compat : CompatibilityMode) (r : Route) :
    tagOf (r.outbound compat) = some r.tag := (carries_outbound compat r).tagOf_eq

theorem detourOf_outbound (compat : CompatibilityMode) (r : Route) :
    detourOf (r.outbound compat) = r.hop.map (·.tag) := (carries_outbound compat r).detourOf_eq

/-! ### What the loop builds -/

section Loop

variable {all : List Endpoint} {selectable : List String} {accessPaths : List AccessPath}
  {compat : CompatibilityMode}

def isDialled (selectable : List String) (accessPaths : List AccessPath) (ep : Endpoint) : Bool :=
  selectable.contains ep.id || (infrastructureEndpointIds accessPaths).contains ep.id

def hopOf (all : List Endpoint) (selectable : List String) (accessPaths : List AccessPath)
    (ep : Endpoint) : Except CompatError (Option Endpoint) :=
  match relayPathOf selectable accessPaths ep with
  | some pathId => (firstHop all accessPaths ep pathId).map some
  | none => .ok none

structure Built (selectable : List String) (compat : CompatibilityMode) (routes : List Route)
    (acc : Accumulated) : Prop where
  outbounds : acc.outbounds = routes.map (Route.outbound compat)
  tags : acc.tags = (routes.filter fun r => selectable.contains r.endpoint.id).map Route.tag
  relayedTags : acc.relayedTags = (routes.filter fun r => r.hop.isSome).map Route.tag

def Accumulated.push (selectable : List String) (compat : CompatibilityMode) (acc : Accumulated)
    (r : Route) : Accumulated :=
  let acc := if selectable.contains r.endpoint.id then acc.offer r.endpoint else acc
  { acc with
    outbounds := acc.outbounds ++ [r.outbound compat]
    relayedTags := acc.relayedTags ++ if r.hop.isSome then [r.tag] else [] }

theorem renderEndpoint_eq (acc : Accumulated) (ep : Endpoint) :
    renderEndpoint all selectable accessPaths compat acc ep =
      if isDialled selectable accessPaths ep then do
        Check.refuseIf (selectable.contains ep.id && acc.tags.contains ep.tag)
          (.parse ("duplicate selectable outbound tag " ++ debug ep.tag ++
            "; endpoint labels used " ++ "as Core tags must be unique"))
        let hop ← hopOf all selectable accessPaths ep
        .ok (acc.push selectable compat ⟨ep, hop⟩)
      else .ok acc := by
  simp only [renderEndpoint, ← Bool.not_or, ← isDialled.eq_1]
  cases isDialled selectable accessPaths ep with
  | false => rfl
  | true =>
    simp only [Bool.not_true, Bool.false_eq_true, if_false, if_true]
    refine congrArg (Check.refuseIf _ _ >>= ·) (funext fun _ => ?_)
    unfold hopOf
    cases relayPathOf selectable accessPaths ep with
    | none => simp [Accumulated.push, Route.outbound, bind, Except.bind]
    | some pathId =>
      show (firstHop all accessPaths ep pathId >>= _) = (Except.map _ _ >>= _)
      cases firstHop all accessPaths ep pathId <;> rfl

theorem push_fields (selectable : List String) (compat : CompatibilityMode) (acc : Accumulated)
    (r : Route) :
    (acc.push selectable compat r).outbounds = acc.outbounds ++ [r.outbound compat] ∧
      (acc.push selectable compat r).tags =
        acc.tags ++ (if selectable.contains r.endpoint.id then [r.tag] else []) ∧
      (acc.push selectable compat r).relayedTags =
        acc.relayedTags ++ if r.hop.isSome then [r.tag] else [] := by
  unfold Accumulated.push Accumulated.offer
  cases selectable.contains r.endpoint.id with
  | false => simp
  | true => cases r.endpoint.params <;> exact ⟨rfl, rfl, rfl⟩

variable {routes : List Route} {acc acc' : Accumulated}

theorem Built.push (h : Built selectable compat routes acc) (r : Route) :
    Built selectable compat (routes ++ [r]) (acc.push selectable compat r) := by
  obtain ⟨hout, htags, hrelayed⟩ := push_fields selectable compat acc r
  refine ⟨by simp [hout, h.outbounds], ?_, ?_⟩
  · rw [htags, h.tags]
    by_cases hs : r.endpoint.id ∈ selectable <;> simp [hs]
  · rw [hrelayed, h.relayedTags]
    cases hhop : r.hop <;> simp [hhop]

theorem renderEndpoint_ok {ep : Endpoint} (hbuilt : Built selectable compat routes acc)
    (h : renderEndpoint all selectable accessPaths compat acc ep = .ok acc') :
    (isDialled selectable accessPaths ep = false ∧ acc' = acc) ∨
      (isDialled selectable accessPaths ep = true ∧
        ∃ hop, hopOf all selectable accessPaths ep = .ok hop ∧
          Built selectable compat (routes ++ [⟨ep, hop⟩]) acc') := by
  rw [renderEndpoint_eq] at h
  split at h
  · next hdial =>
    simp only [Check.bind_eq_ok, Except.ok.injEq] at h
    obtain ⟨_, -, hop, hhop, rfl⟩ := h
    exact .inr ⟨hdial, hop, hhop, hbuilt.push _⟩
  · next hdial => exact .inl ⟨by simpa using hdial, (Except.ok.inj h).symm⟩

theorem routes_of_loop {eps : List Endpoint} (hbuilt : Built selectable compat routes acc)
    (h : eps.foldlM (renderEndpoint all selectable accessPaths compat) acc = .ok acc') :
    ∃ more : List Route, Built selectable compat (routes ++ more) acc' ∧
      more.map Route.endpoint = eps.filter (isDialled selectable accessPaths) ∧
      ∀ r ∈ more, hopOf all selectable accessPaths r.endpoint = .ok r.hop := by
  induction eps generalizing routes acc with
  | nil =>
    cases h
    exact ⟨[], by simpa using hbuilt, rfl, by simp⟩
  | cons ep eps ih =>
    rw [List.foldlM_cons, Check.bind_eq_ok] at h
    obtain ⟨acc₁, hstep, hrest⟩ := h
    rcases renderEndpoint_ok hbuilt hstep with ⟨hdial, rfl⟩ | ⟨hdial, hop, hhop, hbuilt'⟩
    · obtain ⟨more, hmore, hmap, hhops⟩ := ih hbuilt hrest
      exact ⟨more, hmore, by rw [hmap, List.filter_cons_of_neg (by simp [hdial])], hhops⟩
    · obtain ⟨more, hmore, hmap, hhops⟩ := ih hbuilt' hrest
      refine ⟨⟨ep, hop⟩ :: more, by simpa using hmore, ?_, ?_⟩
      · rw [List.map_cons, hmap, List.filter_cons_of_pos hdial]
      · intro r hr
        rcases List.mem_cons.mp hr with rfl | hr
        · exact hhop
        · exact hhops r hr

end Loop

/-! ### The chain of a pinned route -/

section Chain

variable {next : String → Option String}

def ChainEnds (next : String → Option String) (chain : List String) : Prop :=
  ∀ tag ∈ chain.getLast?.bind next, tag ∈ chain

variable {known : List String}

theorem known_of_next {chain : List String} {tag : String}
    (hknown : ∀ t, (next t).isSome → t ∈ known) (hsub : ∀ t ∈ chain.dropLast, t ∈ known)
    (htag : chain.getLast?.bind next = some tag) : ∀ t ∈ chain, t ∈ known := by
  intro t ht
  obtain ⟨last, hlast, hnext⟩ := Option.bind_eq_some_iff.mp htag
  rw [← List.dropLast_append_getLast? last hlast, List.mem_append, List.mem_singleton] at ht
  rcases ht with ht | rfl
  · exact hsub t ht
  · exact hknown t (by rw [hnext]; rfl)

theorem followDetours_ends (hknown : ∀ t, (next t).isSome → t ∈ known) (fuel : Nat)
    {chain : List String} (hnodup : chain.Nodup) (hsub : ∀ t ∈ chain.dropLast, t ∈ known)
    (hfuel : known.length < fuel + chain.length) :
    ChainEnds next (followDetours next fuel chain) := by
  induction fuel generalizing chain with
  | zero =>
    intro tag htag
    have hle := (List.subperm_of_subset hnodup (known_of_next hknown hsub htag)).length_le
    omega
  | succ fuel ih =>
    rw [followDetours]
    split
    · next tag htag =>
      split
      · next hmem =>
        intro tag' htag'
        rw [Option.mem_def, htag, Option.some.injEq] at htag'
        exact htag' ▸ hmem
      · next hmem =>
        have hnodup' : (chain ++ [tag]).Nodup := by
          rw [List.nodup_append]
          refine ⟨hnodup, List.nodup_singleton tag, fun a ha b hb e => hmem ?_⟩
          rwa [← List.mem_singleton.mp hb, ← e]
        exact ih hnodup' (by simpa using known_of_next hknown hsub htag) (by simp; omega)
    · next hnone =>
      intro tag htag
      rw [Option.mem_def, hnone] at htag
      cases htag

/-- A chain of detours ends at a tag without one, or with one that is in the chain. -/
theorem detourChain_ends (outbounds : List Json) (keep : String) :
    ChainEnds (nextHop outbounds) (detourChain outbounds keep) := by
  have hknown : ∀ t, (nextHop outbounds t).isSome → t ∈ outbounds.filterMap tagOf := by
    intro t ht
    obtain ⟨d, hd⟩ := Option.isSome_iff_exists.mp ht
    obtain ⟨ob, hfind, -⟩ := Option.bind_eq_some_iff.mp hd
    exact List.mem_filterMap.mpr
      ⟨ob, List.mem_of_find?_eq_some hfind, by simpa using List.find?_some hfind⟩
  refine followDetours_ends hknown _ (List.nodup_singleton keep) (by simp) ?_
  have := List.length_filterMap_le tagOf outbounds
  simp only [List.length_singleton]
  omega

end Chain

/-! ### What pinning leaves -/

def Route.chain (r : Route) : List String := r.tag :: (r.hop.map (·.tag)).toList

def Route.shown (r : Route) (tag : String) : String :=
  if some tag = r.hop.map (·.tag) then hiddenTag tag else tag

section Pin

variable {compat : CompatibilityMode} {routes : List Route} {r : Route} {set set' : RouteSet}

theorem nextHop_route (compat : CompatibilityMode) (hnodup : (routes.map Route.tag).Nodup)
    (hr : r ∈ routes) : nextHop (routes.map (Route.outbound compat)) r.tag = r.hop.map (·.tag) := by
  have htag : ((fun ob => tagOf ob == some r.tag) ∘ Route.outbound compat) =
      fun q => q.tag == r.tag := by
    funext q
    simp [tagOf_outbound]
  rw [nextHop, List.find?_map, htag, Owned.find?_key hnodup hr]
  exact detourOf_outbound compat r

def HopsDirect (routes : List Route) : Prop :=
  ∀ r ∈ routes, ∀ via ∈ r.hop, ∃ q ∈ routes, q.endpoint = via ∧ q.hop = none

theorem hop_tag_ne (hnodup : (routes.map Route.tag).Nodup) (hdirect : HopsDirect routes)
    (hr : r ∈ routes) {via : Endpoint} (hvia : r.hop = some via) : via.tag ≠ r.tag := by
  intro heq
  obtain ⟨q, hq, rfl, hnone⟩ := hdirect r hr via hvia
  -- the two would be one route, with a hop and without
  have hsame : q = r := List.inj_on_of_nodup_map hnodup hq hr heq
  rw [hsame, hvia] at hnone
  cases hnone

theorem detourChain_route (hnodup : (routes.map Route.tag).Nodup) (hdirect : HopsDirect routes)
    (hr : r ∈ routes) : detourChain (routes.map (Route.outbound compat)) r.tag = r.chain := by
  unfold detourChain Route.chain
  have hnext := nextHop_route compat hnodup hr
  generalize hlen : (routes.map (Route.outbound compat)).length = fuel
  cases fuel with
  | zero =>
    rw [List.length_map, List.length_eq_zero_iff] at hlen
    rw [hlen] at hr
    cases hr
  | succ fuel =>
    cases hop : r.hop with
    | none =>
      rw [hop] at hnext
      simp [followDetours, hnext]
    | some via =>
      rw [hop] at hnext
      obtain ⟨q, hq, rfl, hnone⟩ := hdirect r hr via hop
      have hend := nextHop_route compat hnodup hq
      rw [hnone] at hend
      have hne : q.endpoint.tag ≠ r.tag := hop_tag_ne hnodup hdirect hr hop
      cases fuel with
      | zero => simp [followDetours, hnext, hne]
      | succ fuel => simp [followDetours, hnext, hne, show nextHop _ q.endpoint.tag = none from hend]

theorem filter_chain (compat : CompatibilityMode) (routes : List Route) (chain : List String) :
    ((routes.map (Route.outbound compat)).filter fun ob => (tagOf ob).any chain.contains) =
      (routes.filter fun q => chain.contains q.tag).map (Route.outbound compat) := by
  rw [List.filter_map]
  congr 2
  funext q
  simp [tagOf_outbound]

theorem pin_ok (hout : set.outbounds = routes.map (Route.outbound compat))
    (hnodup : (routes.map Route.tag).Nodup) (hdirect : HopsDirect routes) (hr : r ∈ routes)
    (hkeep : set.defaultTag = r.tag) (h : pinToSingleRoute set = .ok set') :
    set'.tags = [r.tag] ∧ set'.autoMembers = [r.tag] ∧ set'.defaultTag = r.tag ∧
      List.Forall₂ (Carries compat r.shown) (routes.filter fun q => r.chain.contains q.tag)
        set'.outbounds := by
  simp only [pinToSingleRoute, Check.bind_ok, hkeep, hout, detourChain_route hnodup hdirect hr,
    Except.ok.injEq] at h
  obtain ⟨-, rfl⟩ := h
  refine ⟨rfl, rfl, rfl, ?_⟩
  have hplain : List.Forall₂ (Carries compat id) (routes.filter fun q => r.chain.contains q.tag)
      ((routes.filter fun q => r.chain.contains q.tag).map (Route.outbound compat)) := by
    rw [List.forall₂_map_right_iff, List.forall₂_same]
    exact fun q _ => carries_outbound compat q
  rw [filter_chain]
  cases hop : r.hop with
  | none =>
    have hshown : r.shown = id := by
      funext t
      simp [Route.shown, hop]
    simpa [hshown, Route.chain, hop] using hplain
  | some via =>
    have hshown : r.shown = hide via.tag ∘ id := by
      funext t
      simp [Route.shown, hide, hop]
    have hdrop : r.chain.drop 1 = [via.tag] := by simp [Route.chain, hop]
    rw [hshown, hdrop, List.foldl_cons, List.foldl_nil, List.forall₂_map_right_iff]
    exact hplain.imp fun q ob hq => hq.hideTag via.tag

end Pin

/-! ### What the renderer returns -/

section Render

variable {all : List Endpoint} {selectable : List String} {accessPaths : List AccessPath}
  {profile : SelectionProfile} {compat : CompatibilityMode}

variable {ep via : Endpoint} {pathId : String}

theorem mem_of_endpointById {id : String} (h : endpointById all id = some ep) :
    ep ∈ all ∧ ep.id = id := by
  refine ⟨List.mem_reverse.mp (List.mem_of_find?_eq_some h), ?_⟩
  simpa using List.find?_some h

theorem mem_of_pathById {id : String} {path : AccessPath}
    (h : pathById accessPaths id = some path) : path ∈ accessPaths ∧ path.id = id := by
  refine ⟨List.mem_reverse.mp (List.mem_of_find?_eq_some h), ?_⟩
  simpa using List.find?_some h

theorem firstHop_iff :
    firstHop all accessPaths ep pathId = .ok via ↔
      ∃ path viaId, pathById accessPaths pathId = some path ∧ path.kind = .relay ∧
        path.viaEndpointId = some viaId ∧ endpointById all viaId = some via ∧ via.id ≠ ep.id ∧
        ep.isVless = true ∧ via.isVless = true := by
  unfold firstHop
  cases pathById accessPaths pathId with
  | none => simp
  | some path =>
    by_cases hkind : path.kind = .relay
    · cases hvia : path.viaEndpointId with
      | none => simp [hkind, hvia]
      | some viaId =>
        cases hfound : endpointById all viaId with
        | none => simp [hkind, hvia, hfound]
        | some via' =>
          simp [hkind, hvia, hfound]
          grind
    · simp [hkind]

theorem relayPathOf_iff :
    relayPathOf selectable accessPaths ep = some pathId ↔
      ep.id ∈ selectable ∧ accessPaths ≠ [] ∧ ep.path = some (.other pathId) := by
  unfold relayPathOf
  split
  · next h =>
    rw [Bool.and_eq_true, List.contains_iff_mem] at h
    split <;> simp_all
  · next h => simp_all

theorem hopOf_some_iff :
    hopOf all selectable accessPaths ep = .ok (some via) ↔
      ∃ pathId, relayPathOf selectable accessPaths ep = some pathId ∧
        firstHop all accessPaths ep pathId = .ok via := by
  unfold hopOf
  cases relayPathOf selectable accessPaths ep with
  | none => simp
  | some pathId => cases hfirst : firstHop all accessPaths ep pathId <;> simp [hfirst, Except.map]

theorem hopOf_some (h : hopOf all selectable accessPaths ep = .ok (some via)) :
    ep.id ∈ selectable ∧ ∃ path ∈ accessPaths, ep.path = some (.other path.id) ∧
      path.kind = .relay ∧ path.viaEndpointId = some via.id ∧ via ∈ all := by
  obtain ⟨pathId, hrelay, hfirst⟩ := hopOf_some_iff.mp h
  obtain ⟨path, viaId, hpath, hkind, hvia, hfound, -⟩ := firstHop_iff.mp hfirst
  obtain ⟨hsel, -, hother⟩ := relayPathOf_iff.mp hrelay
  obtain ⟨hmem, rfl⟩ := mem_of_pathById hpath
  obtain ⟨hall, rfl⟩ := mem_of_endpointById hfound
  exact ⟨hsel, path, hmem, hother, hkind, hvia, hall⟩

theorem hopOf_none (h : hopOf all selectable accessPaths ep = .ok none) :
    ep.id ∉ selectable ∨ accessPaths = [] ∨ ∀ pathId, ep.path ≠ some (.other pathId) := by
  by_contra! hall
  obtain ⟨hsel, hpaths, pathId, hpath⟩ := hall
  simp only [hopOf, relayPathOf_iff.mpr ⟨hsel, hpaths, hpath⟩] at h
  cases hfirst : firstHop all accessPaths ep pathId <;> simp [hfirst, Except.map] at h

theorem render_ok {config : Json}
    (h : renderSingboxConfigFromContractWithAccessPaths all selectable accessPaths profile compat =
      .ok config) :
    ∃ (routes : List Route) (acc : Accumulated) (set : RouteSet),
      Built selectable compat routes acc ∧
      routes.map Route.endpoint = all.filter (isDialled selectable accessPaths) ∧
      (∀ r ∈ routes, hopOf all selectable accessPaths r.endpoint = .ok r.hop) ∧
      pinFor compat (acc.routeSet profile compat) = .ok set ∧ config = set.config compat := by
  simp only [renderSingboxConfigFromContractWithAccessPaths, Check.bind_eq_ok] at h
  obtain ⟨_, -, acc, hloop, _, -, set, hset, hconfig⟩ := h
  have hstart : Built selectable compat [] {} := ⟨rfl, rfl, rfl⟩
  obtain ⟨routes, hbuilt, hmap, hhops⟩ := routes_of_loop hstart hloop
  exact ⟨routes, acc, set, hbuilt, hmap, hhops, hset, (Except.ok.inj hconfig).symm⟩

end Render

end SingboxVpn
