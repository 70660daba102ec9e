import SingboxVpn.Client.Agreement

/-!
# The subscription service

`services/subscription/src/lib.rs` with the renderers behind it: share links, the native sing-box
subscription and the provisioning document, each for the user that a token belongs to.

* `no_silent_downgrade` — where access paths are declared, no answer dials a relayed endpoint
  without its first hop; a share link never does.
* `subscription_agrees` — the native subscription and the document, where there are no paths.
-/

namespace SingboxVpn

open Json (object strs)

/-! ### Share links -/

def percentEncodeByte (b : UInt8) : List Char :=
  let c := Char.ofNat b.toNat
  if c.isAlphanum || c == '-' || c == '.' || c == '_' || c == '~' then [c]
  else ['%', (Nat.digitChar (b.toNat / 16)).toUpper, (Nat.digitChar (b.toNat % 16)).toUpper]

/-- A label in the fragment of a link. -/
def percentEncodeLabel (label : String) : String :=
  String.ofList (label.toUTF8.toList.flatMap percentEncodeByte)

/-- The link of a VLESS endpoint. -/
def renderVlessRealityUriFromContract (ep : Endpoint) : Except CompatError String :=
  match ep.params with
  | .vlessReality uuid flow reality =>
    .ok ("vless://" ++ uuid ++ "@" ++ ep.host ++ ":" ++ toString ep.port ++
      "?encryption=none&security=reality&sni=" ++ ep.serverName ++ "&fp=" ++ reality.fingerprint ++
      "&pbk=" ++ reality.publicKey ++ "&sid=" ++ reality.shortId ++ "&type=tcp" ++
      (flow.map fun f => "&flow=" ++ f).getD "" ++ "#" ++ percentEncodeLabel ep.tag)
  | .hysteria2 .. => .error .wrongTransportForEndpoint

/-- The link of a Hysteria2 endpoint. -/
def renderHysteria2UriFromContract (ep : Endpoint) : Except CompatError String :=
  match ep.params with
  | .hysteria2 password obfs =>
    .ok ("hysteria2://" ++ password ++ "@" ++ ep.host ++ ":" ++ toString ep.port ++ "?sni=" ++
      ep.serverName ++ "&insecure=0" ++
      (obfs.map fun o => "&obfs=" ++ o.obfsType ++ "&obfs-password=" ++ o.password).getD "" ++
      "#" ++ percentEncodeLabel ep.tag)
  | .vlessReality .. => .error .wrongTransportForEndpoint

/-- The endpoints that a link can express. -/
def shareLinkEndpoints (endpoints : List CompatEndpoint) (accessPaths : List AccessPath) :
    List CompatEndpoint :=
  (endpoints.filter fun ep => ep.path.all (· == "direct")).filter fun ep =>
    !(infrastructureEndpointIds accessPaths).contains ep.id

def shareLink (visionOff : Bool) (user : CompatUser) (ep : CompatEndpoint) :
    Except CompatError (Option String) := do
  match ← shareLinkEndpoint visionOff user ep with
  | none => .ok none
  | some built =>
    let uri ← match ep.transport with
      | .vlessReality => renderVlessRealityUriFromContract built
      | .hysteria2 => renderHysteria2UriFromContract built
    .ok (some uri)

/-- The links of these endpoints. -/
def renderShareLinks (user : CompatUser) (endpoints : List CompatEndpoint) (visionOff : Bool) :
    Except CompatError (List String) :=
  Check.collect (shareLink visionOff user) endpoints

/-- The body of `format=uri`. -/
def renderUriList (user : CompatUser) (endpoints : List CompatEndpoint) :
    Except CompatError (List String) :=
  renderShareLinks user endpoints false

/-- The links without the Vision flow. -/
def renderVisionOffUriList (user : CompatUser) (endpoints : List CompatEndpoint) :
    Except CompatError (List String) :=
  renderShareLinks user endpoints true

/-! ### The native subscription -/

/-- The configuration of `format=singbox`. -/
def renderSingboxClientSubscriptionWithOptions (user : CompatUser)
    (endpoints : List CompatEndpoint) (profile : SelectionProfile) (compat : CompatibilityMode) :
    Except CompatError Json := do
  let contractEndpoints ← (ClientRenderer.subscription compat).endpoints user endpoints
  renderSingboxConfigFromContract contractEndpoints profile compat

/-! ### Requests and answers -/

/-- What the service serves. -/
structure AppState where
  endpoints : List CompatEndpoint
  accessPaths : List AccessPath

/-- What a request finds: the answer of the rate limiter, the stored accounts and the clock. -/
structure Moment where
  allowed : Bool
  users : Except CompatError (List CompatUser)
  nowUnix : Int
  hashToken : String → String

/-- The query of the subscription route. -/
structure SubQuery where
  format : Option String
  profile : Option String
  compat : Option String
  encoding : Option String

/-- The query of the provisioning route. -/
structure ProvisionQuery where
  schemaVersion : Option String
  diagnostic : Option String

inductive Refusal where
  | text (status : Nat) (body : String)
  | json (status : Nat) (body : Json)
deriving DecidableEq

/-- What is sent with status 200. -/
inductive Body where
  | config (value : Json)
  | document (doc : ProvisioningDocument)
  /-- The links line by line, the whole of them in base64 where that was asked for. -/
  | links (lines : List String) (base64 : Bool)

/-- A user with no route to choose. -/
def noSelectableRouteResponse : Refusal :=
  .json 503 (object [
    ("error", .str "no_selectable_route"),
    ("message", .str "no exit route is available for this subscription yet")])

/-- Share links would go around the relay. -/
def relayNeedsPinnedProfileResponse : Refusal :=
  .json 400 (object [
    ("error", .str "relay_route_needs_pinned_profile"),
    ("message", .str ("this subscription is a relay chain; share links cannot express it and " ++
      "would skip the entry node. Use ?format=singbox&compat=hiddify-pinned"))])

/-- The last active account with the token.  All are looked at. -/
def findUserByToken (hashToken : String → String) (users : List CompatUser) (token : String)
    (nowUnix : Int) : Option CompatUser :=
  users.foldl
    (fun found u =>
      if hashToken token = u.subscriptionTokenHashHex ∧ u.isActive nowUnix = true then some u
      else found)
    none

/-- The user holds a credential for an endpoint behind a relay path. -/
def userHasRelayedRoute (user : CompatUser) (endpoints : List CompatEndpoint) : Bool :=
  endpoints.any fun ep => ep.path.any (· != "direct") &&
    (user.peerCredentials.lookup (ep.credentialRef.getD ep.id)).isSome

def authenticate (m : Moment) (token : String) : Except Refusal CompatUser := do
  Check.refuseIf (token.isEmpty || decide (128 < Text.len token)) (.text 404 "not found")
  let users ← m.users.mapError fun _ => Refusal.text 500 "internal error"
  match findUserByToken m.hashToken users token m.nowUnix with
  | none => .error (.text 404 "not found")
  | some user => .ok user

def renderRefusal : CompatError → Refusal
  | .noSelectableRoute => noSelectableRouteResponse
  | _ => .text 500 "render error"

def CompatibilityMode.diagnostic : CompatibilityMode → DiagnosticMode
  | .tcpOnly => .tcpOnly
  | .visionOff => .visionOff
  | _ => .none

def serveSingbox (state : AppState) (user : CompatUser) (profile : SelectionProfile)
    (compat : CompatibilityMode) : Except Refusal Body :=
  if state.accessPaths.isEmpty then do
    let config ← (renderSingboxClientSubscriptionWithOptions user state.endpoints profile
      compat).mapError fun _ => Refusal.text 500 "render error"
    .ok (.config config)
  else do
    let doc ← (provisioningDocumentWithModeAndAccessPathsAndOptions user state.endpoints
      compat.diagnostic state.accessPaths profile compat).mapError renderRefusal
    match doc.singboxConfig with
    | some config => .ok (.config config)
    | none => .error (.text 500 "render error")

def CompatibilityMode.linkRefusal : CompatibilityMode → Option String
  | .hiddifyPinned => some ("compat=hiddify-pinned is only supported with format=singbox — " ++
      "share-link syntax cannot express a hidden detour outbound or a single-route profile")
  | .quicReject => some ("compat=quic-reject is only supported with format=singbox — it is a " ++
      "route.rules entry, which share-link syntax cannot express")
  | .youTubeDirect => some ("compat=youtube-direct is only supported with format=singbox — it " ++
      "is a route.rules entry, which share-link syntax cannot express")
  | .tcpOnly => some ("compat=tcp-only is only supported with format=singbox — the " ++
      "uri/hiddify share-link format cannot reliably enforce a TCP-only VLESS outbound")
  | _ => none

def serveLinks (state : AppState) (user : CompatUser) (compat : CompatibilityMode)
    (base64 : Bool) : Except Refusal Body := do
  Check.onSome (fun message => .error (.text 400 message)) compat.linkRefusal
  Check.refuseIf (userHasRelayedRoute user state.endpoints) relayNeedsPinnedProfileResponse
  let shareEndpoints := shareLinkEndpoints state.endpoints state.accessPaths
  let lines ← (if compat = .visionOff then renderVisionOffUriList user shareEndpoints
    else renderUriList user shareEndpoints).mapError fun _ => Refusal.text 500 "render error"
  Check.refuseIf ("\n".intercalate lines).isEmpty noSelectableRouteResponse
  .ok (.links lines base64)

def SubQuery.compatMode (query : SubQuery) : Except Refusal CompatibilityMode :=
  match query.compat with
  | none => .ok .normal
  | some s =>
    match CompatibilityMode.parse s with
    | some mode => .ok mode
    | none => .error (.text 400 ("unknown compat value (expected \"normal\", \"tcp-only\", " ++
        "\"quic-reject\", \"vision-off\", \"hiddify-pinned\" or \"youtube-direct\")"))

def SubQuery.wantBase64 (query : SubQuery) : Except Refusal Bool :=
  match query.encoding with
  | none => .ok false
  | some s =>
    if s = "base64" then .ok true
    else .error (.text 400 "unknown encoding value (expected \"base64\")")

/-- The route `GET /sub/:token`. -/
def getSubscription (state : AppState) (m : Moment) (token : String) (query : SubQuery) :
    Except Refusal Body := do
  Check.refuseIf (!m.allowed) (.text 429 "rate limited")
  let user ← authenticate m token
  let format := query.format.getD "singbox"
  let profile := (query.profile.bind SelectionProfile.parse).getD .reliability
  let compat ← query.compatMode
  let base64 ← query.wantBase64
  Check.refuseIf (base64 && format == "singbox")
    (.text 400 ("encoding=base64 is only supported with format=uri/hiddify — format=singbox " ++
      "already returns JSON, which no importer expects base64-wrapped"))
  if format = "singbox" then serveSingbox state user profile compat
  else if format = "uri" ∨ format = "hiddify" then serveLinks state user compat base64
  else .error (.text 400 "unknown format")

def parseU32 (s : String) : Option Nat :=
  let digits : List Char := match s.toList with
    | '+' :: rest => rest
    | chars => chars
  let n := digits.foldl (fun n c => 10 * n + (c.toNat - '0'.toNat)) 0
  if digits ≠ [] ∧ digits.all Char.isDigit = true ∧ n < 2 ^ 32 then some n else none

def numbers (ns : List Nat) : Json := .arr (ns.map fun n => .num (n : Int))

/-- A version that is not served. -/
def unsupportedSchemaVersionResponse (requested : Nat) : Refusal :=
  .json 400 (object [
    ("error", .str "unsupported_schema_version"),
    ("requested", .num requested),
    ("supported", numbers SUPPORTED_SCHEMA_VERSIONS),
    ("message", .str ("this server implements provisioning schema_version " ++
      toString SUPPORTED_SCHEMA_VERSIONS ++ "; it cannot serve the requested version " ++
      toString requested ++ ". Upgrade the server, or request a supported version — the server " ++
      "will not guess."))])

def ProvisionQuery.checkVersion (query : ProvisionQuery) : Except Refusal Unit :=
  match query.schemaVersion with
  | none => .ok ()
  | some requested =>
    match parseU32 requested with
    | some v => Check.refuseIf (!isSupportedSchemaVersion v) (unsupportedSchemaVersionResponse v)
    | none => .error (.json 400 (object [
        ("error", .str "invalid_schema_version"),
        ("requested", .str requested),
        ("supported", numbers SUPPORTED_SCHEMA_VERSIONS),
        ("message", .str ("schema_version must be an integer; the server will not guess which " ++
          "version was meant"))]))

def ProvisionQuery.mode (query : ProvisionQuery) : Except Refusal DiagnosticMode :=
  match query.diagnostic with
  | none => .ok .none
  | some s =>
    match DiagnosticMode.parse s with
    | some mode => .ok mode
    | none => .error (.json 400 (object [
        ("error", .str "unknown_diagnostic"),
        ("requested", .str s),
        ("supported", strs ["tcp-only", "vision-off"]),
        ("message", .str ("unknown diagnostic profile; omit the parameter for the production " ++
          "profile"))]))

/-- The route `GET /v1/provision/:token`. -/
def getProvision (state : AppState) (m : Moment) (token : String) (query : ProvisionQuery) :
    Except Refusal Body := do
  Check.refuseIf (!m.allowed) (.text 429 "rate limited")
  query.checkVersion
  let mode ← query.mode
  let user ← authenticate m token
  let doc ← (provisioningDocumentWithModeAndAccessPaths user state.endpoints mode
    state.accessPaths).mapError renderRefusal
  -- the document is validated once more before it is written
  Check.mapError (fun _ => Refusal.text 500 "render error") doc.validate
  .ok (.document doc)

/-! ### No downgrade -/

def CompatEndpoint.IsDirect (ep : CompatEndpoint) : Prop := ep.path = none ∨ ep.path = some "direct"

/-- Each proxy outbound carries the tag of the endpoint that it dials.  It is dialled directly if
    the endpoint is, and otherwise through the one outbound of the first hop of the endpoint's path.
    A first hop may be shown under its hidden tag. -/
def NoDowngrade (user : CompatUser) (mode : DiagnosticMode) (accessPaths : List AccessPath)
    (served : List CompatEndpoint) (config : Json) : Prop :=
  ∀ ob ∈ outboundsOf config, isProxy ob = true → ∃ ep ∈ served, ∃ built,
    provisioningEndpoint mode user ep = .ok (some built) ∧ AgreesWith ob built ∧
      (((tagOf ob = some ep.label ∨ tagOf ob = some (hiddenTag ep.label)) ∧ detourOf ob = none ∧
          ep.IsDirect) ∨
        (tagOf ob = some ep.label ∧ ∃ ep' ∈ served, ∃ via,
          provisioningEndpoint mode user ep' = .ok (some via) ∧ ViaOf accessPaths built via ∧
            ∃ hop ob', detourOf ob = some hop ∧ (hop = ep'.label ∨ hop = hiddenTag ep'.label) ∧
              (outboundsOf config).filter (fun ob => tagOf ob == some hop) = [ob'] ∧
              AgreesWith ob' via ∧ detourOf ob' = none))

/-- Each proxy outbound dials one of the endpoints, under its tag and without a detour. -/
def DialledDirectly (shape : CompatEndpoint → Except CompatError (Option Endpoint))
    (served : List CompatEndpoint) (config : Json) : Prop :=
  ∀ ob ∈ outboundsOf config, isProxy ob = true → detourOf ob = none ∧ ∃ ep ∈ served, ∃ built,
    shape ep = .ok (some built) ∧ tagOf ob = some built.tag ∧ AgreesWith ob built

section NoDowngrade

variable {user : CompatUser} {served : List CompatEndpoint} {mode : DiagnosticMode}
  {accessPaths : List AccessPath} {profile : SelectionProfile} {compat : CompatibilityMode}
  {doc : ProvisioningDocument} {given : List Endpoint} {routes kept : List Route}
  {acc : Accumulated} {set : RouteSet} {shown : String → String}

theorem Drawn.direct_of_no_hop
    (h : Drawn user served mode accessPaths profile compat doc given routes acc set kept shown)
    (hoffered : Offered accessPaths served) (hpaths : accessPaths ≠ []) {r : Route}
    (hr : r ∈ routes) (hhop : r.hop = none) {ep : CompatEndpoint} (hep : ep ∈ served)
    (hbuilt : provisioningEndpoint mode user ep = .ok (some r.endpoint)) : ep.IsDirect := by
  obtain ⟨hid, -, hpath⟩ := provisioningEndpoint_some hbuilt
  have hgiven : r.endpoint ∈ given := h.provisioned.endpoints ▸ List.mem_map_of_mem hr
  have hok := h.provisioned.hops r hr
  rw [hhop] at hok
  rcases hopOf_none hok with hnot | hempty | hdirect
  · -- what may not be chosen is a first hop
    refine hoffered.infrastructure ep hep ?_
    rw [← hid]
    by_contra hinfra
    exact hnot (List.mem_map_of_mem (List.mem_filter.mpr ⟨hgiven, by simpa using hinfra⟩))
  · exact absurd hempty hpaths
  · cases hep : ep.path with
    | none => exact .inl hep
    | some path =>
      rw [hep, Option.map_some] at hpath
      by_cases hd : path = "direct"
      · exact .inr (hep.trans (congrArg some hd))
      · exact absurd (hpath.trans (by rw [PathType.fromWire, if_neg hd])) (hdirect path)

theorem noDowngrade_of_ok (hoffered : Offered accessPaths served) (hpaths : accessPaths ≠ [])
    (hdoc : provisioningDocumentWithModeAndAccessPathsAndOptions user served mode accessPaths
      profile compat = .ok doc) :
    ∃ config, doc.singboxConfig = some config ∧
      NoDowngrade user mode accessPaths served config := by
  obtain ⟨given, routes, acc, set, kept, shown, hdrawn⟩ := drawn_of_ok hoffered hdoc
  have harr := hdrawn.arranged
  have hsource : ∀ r ∈ kept, ∃ ep ∈ served,
      provisioningEndpoint mode user ep = .ok (some r.endpoint) := by
    intro r hr
    refine (Check.mem_collect hdrawn.given_eq).mp ?_
    exact hdrawn.provisioned.endpoints ▸ List.mem_map_of_mem (harr.layout.sublist.subset hr)
  refine ⟨_, hdrawn.provisioned.config, fun ob hob hproxy => ?_⟩
  have hmem : ob ∈ RouteSet.allOutbounds { set with outbounds := servedOutbounds compat set } := by
    simpa [outboundsOf] using hob
  obtain ⟨r, hr, hcarries⟩ := route_of_proxy harr.layout hmem hproxy
  obtain ⟨ep, hep, hbuilt⟩ := hsource r hr
  have hlabel : r.tag = ep.label := (provisioningEndpoint_some hbuilt).2.1
  refine ⟨ep, hep, r.endpoint, hbuilt, Dials.agreesWith hcarries.fields, ?_⟩
  cases hhop : r.hop with
  | none =>
    left
    refine ⟨?_, by rw [hcarries.detourOf_eq, hhop]; rfl, ?_⟩
    · rw [hcarries.tagOf_eq, Option.some.injEq, Option.some.injEq, ← hlabel]
      exact (harr.layout.renamed r hr).imp id And.left
    exact hdrawn.direct_of_no_hop hoffered hpaths (harr.layout.sublist.subset hr) hhop hep hbuilt
  | some via =>
    right
    obtain ⟨⟨-, ob', hone, hdials, hnone⟩, -⟩ := harr.chained hdrawn.routes_nodup hr hhop
    obtain ⟨v, hv, rfl, -⟩ := harr.layout.hops r hr via hhop
    obtain ⟨ep', hep', hvia⟩ := hsource v hv
    have hpath := harr.vias r hr v.endpoint hhop
    rw [hdrawn.provisioned.accessPaths_eq] at hpath
    have hown : tagOf ob = some ep.label := by
      rw [hcarries.tagOf_eq, harr.layout.relayed r hr (by rw [hhop]; rfl), hlabel]
    refine ⟨hown, ep', hep', v.endpoint, hvia, hpath, shown v.endpoint.tag, ob', ?_, ?_, ?_,
      Dials.agreesWith hdials, by rw [detourOf, hnone]; rfl⟩
    · rw [hcarries.detourOf_eq, hhop]
      rfl
    · rw [← (provisioningEndpoint_some hvia).2.1]
      exact (harr.layout.renamed v hv).imp id And.left
    · simpa [outboundsOf] using hone

/-- Where no outbound has a detour, there is nothing that the pinned one takes along. -/
theorem detourChain_direct {outbounds : List Json} (h : ∀ ob ∈ outbounds, detourOf ob = none)
    (keep : String) : detourChain outbounds keep = [keep] := by
  have hnext : nextHop outbounds keep = none := by
    cases hfind : outbounds.find? fun ob => tagOf ob == some keep with
    | none => simp [nextHop, hfind]
    | some ob => simp [nextHop, hfind, h ob (List.mem_of_find?_eq_some hfind)]
  unfold detourChain
  cases outbounds.length <;> simp [followDetours, hnext]

/-- A pinned profile then keeps some of the outbounds as they are. -/
theorem pinFor_subset {set pinned : RouteSet} (h : ∀ ob ∈ set.outbounds, detourOf ob = none)
    (hpin : pinFor compat set = .ok pinned) : pinned.outbounds ⊆ set.outbounds := by
  unfold pinFor at hpin
  split at hpin
  · simp only [pinToSingleRoute, Check.bind_ok, Except.ok.injEq] at hpin
    obtain ⟨-, rfl⟩ := hpin
    intro ob hob
    rw [detourChain_direct h] at hob
    exact List.mem_of_mem_filter hob
  · obtain rfl := Except.ok.inj hpin
    exact List.Subset.refl _

theorem dialledDirectly_of_render {shape : CompatEndpoint → Except CompatError (Option Endpoint)}
    {config : Json} (hgiven : Check.collect shape served = .ok given)
    (h : renderSingboxConfigFromContract given profile compat = .ok config) :
    DialledDirectly shape served config := by
  obtain ⟨routes, acc, set, hbuilt, hmap, hhops, hset, rfl⟩ := render_ok h
  have hplain : ∀ r ∈ routes, r.hop = none := by
    intro r hr
    have hhop := hhops r hr
    have hnot : relayPathOf (given.map (·.id)) [] r.endpoint = none := by
      rw [Option.eq_none_iff_forall_ne_some]
      exact fun pathId hpath => (relayPathOf_iff.mp hpath).2.1 rfl
    rw [hopOf, hnot] at hhop
    exact (Except.ok.inj hhop).symm
  have hcarries : ∀ ob ∈ acc.outbounds, ∃ r ∈ routes, Carries compat id r ob := by
    intro ob hob
    rw [hbuilt.outbounds] at hob
    obtain ⟨r, hr, rfl⟩ := List.mem_map.mp hob
    exact ⟨r, hr, carries_outbound compat r⟩
  have hdetour : ∀ ob ∈ acc.outbounds, detourOf ob = none := by
    intro ob hob
    obtain ⟨r, hr, hc⟩ := hcarries ob hob
    rw [hc.detourOf_eq, hplain r hr]
    rfl
  have hsub : set.outbounds ⊆ acc.outbounds := pinFor_subset hdetour hset
  intro ob hob hproxy
  have hmem : ob ∈ set.outbounds := by
    rcases mem_allOutbounds.mp (by simpa [outboundsOf] using hob) with hmem | rfl | rfl | rfl
    · exact hmem
    all_goals simp [isProxy] at hproxy
  obtain ⟨r, hr, hc⟩ := hcarries ob (hsub hmem)
  have hrgiven : r.endpoint ∈ given :=
    List.mem_of_mem_filter (hmap ▸ List.mem_map_of_mem hr)
  obtain ⟨ep, hep, hok⟩ := (Check.mem_collect hgiven).mp hrgiven
  exact ⟨hdetour ob (hsub hmem), ep, hep, r.endpoint, hok, hc.tagOf_eq,
    Dials.agreesWith hc.fields⟩

theorem config_of_ok (hcompat : compat ≠ .hiddifyPinned)
    (h : provisioningDocumentWithModeAndAccessPathsAndOptions user served mode [] profile compat =
      .ok doc) :
    ∃ given config, (ClientRenderer.provisioning mode).endpoints user served = .ok given ∧
      renderSingboxConfigFromContract given profile compat = .ok config ∧
      doc.singboxConfig = some config := by
  simp only [provisioningDocumentWithModeAndAccessPathsAndOptions, Check.bind_eq_ok] at h
  obtain ⟨given, hgiven, _, -, rendered, hrendered, config, hconfig, _, -, hdoc⟩ := h
  have hall : given.filter (fun ep => !(infrastructureEndpointIds []).contains ep.id) = given := by
    simp [infrastructureEndpointIds]
  rw [hall] at hrendered
  have hsame : rendered = config := by
    simpa [restoreApplicationUdpOnRelayedVless, hcompat] using hconfig
  refine ⟨given, config, hgiven, ?_, ?_⟩
  · rw [← hsame]
    exact hrendered
  · rw [← Except.ok.inj hdoc]

variable {base64 : Bool} {body : Body} {m : Moment} {token : String}

theorem link_of_mem {state : AppState} {lines : List String}
    (h : serveLinks state user compat base64 = .ok (.links lines base64)) {link : String}
    (hlink : link ∈ lines) : ∃ ep ∈ state.endpoints, ep.IsDirect ∧ ∃ visionOff,
      shareLink visionOff user ep = .ok (some link) := by
  simp only [serveLinks, Check.bind_eq_ok] at h
  obtain ⟨_, -, _, -, lines', hlines, _, -, hok⟩ := h
  cases hok
  have hcollect : ∃ visionOff, renderShareLinks user
      (shareLinkEndpoints state.endpoints state.accessPaths) visionOff = .ok lines := by
    rw [Check.mapError_eq_ok] at hlines
    split at hlines
    · exact ⟨true, hlines⟩
    · exact ⟨false, hlines⟩
  obtain ⟨visionOff, hcollect⟩ := hcollect
  obtain ⟨ep, hep, heq⟩ := (Check.mem_collect hcollect).mp hlink
  obtain ⟨hmem, hdirect⟩ := List.mem_filter.mp (List.mem_of_mem_filter hep)
  refine ⟨ep, hmem, ?_, visionOff, heq⟩
  cases hpath : ep.path with
  | none => exact .inl hpath
  | some path =>
    rw [hpath] at hdirect
    exact .inr (hpath.trans (congrArg some (by simpa using hdirect)))

theorem body_of_serveLinks {state : AppState} (h : serveLinks state user compat base64 = .ok body) :
    ∃ lines, body = .links lines base64 := by
  simp only [serveLinks, Check.bind_eq_ok] at h
  obtain ⟨_, -, _, -, lines, -, _, -, hok⟩ := h
  exact ⟨lines, (Except.ok.inj hok).symm⟩

theorem body_of_serveSingbox {state : AppState}
    (h : serveSingbox state user profile compat = .ok body) : ∃ config, body = .config config := by
  unfold serveSingbox at h
  split at h
  · obtain ⟨config, -, hok⟩ := Check.bind_eq_ok.mp h
    exact ⟨config, (Except.ok.inj hok).symm⟩
  · obtain ⟨doc, -, hok⟩ := Check.bind_eq_ok.mp h
    split at hok
    · next config _ => exact ⟨config, (Except.ok.inj hok).symm⟩
    · cases hok

theorem getSubscription_ok {state : AppState} {query : SubQuery}
    (h : getSubscription state m token query = .ok body) :
    ∃ user, authenticate m token = .ok user ∧ ∃ profile compat base64,
      serveSingbox state user profile compat = .ok body ∨
        serveLinks state user compat base64 = .ok body := by
  simp only [getSubscription, Check.bind_eq_ok] at h
  obtain ⟨_, -, user, huser, compat, -, base64, -, _, -, hserved⟩ := h
  refine ⟨user, huser, (query.profile.bind SelectionProfile.parse).getD .reliability, compat, base64,
    ?_⟩
  split at hserved
  · exact .inl hserved
  · split at hserved
    · exact .inr hserved
    · cases hserved

theorem getSubscription_config {state : AppState} {query : SubQuery} {config : Json}
    (h : getSubscription state m token query = .ok (.config config)) :
    ∃ user, authenticate m token = .ok user ∧ ∃ profile compat,
      serveSingbox state user profile compat = .ok (.config config) := by
  obtain ⟨user, huser, profile, compat, base64, hserve⟩ := getSubscription_ok h
  refine ⟨user, huser, profile, compat, hserve.resolve_right fun hlinks => ?_⟩
  obtain ⟨lines, hbody⟩ := body_of_serveLinks hlinks
  cases hbody

theorem getProvision_ok {state : AppState} {query : ProvisionQuery}
    (h : getProvision state m token query = .ok body) :
    ∃ user, authenticate m token = .ok user ∧ ∃ mode doc, body = .document doc ∧
      provisioningDocumentWithModeAndAccessPaths user state.endpoints mode state.accessPaths =
        .ok doc := by
  simp only [getProvision, Check.bind_eq_ok] at h
  obtain ⟨_, -, _, -, mode, -, user, huser, doc, hdoc, _, -, hok⟩ := h
  rw [Check.mapError_eq_ok] at hdoc
  exact ⟨user, huser, mode, doc, (Except.ok.inj hok).symm, hdoc⟩

theorem config_of_serveSingbox {state : AppState} {config : Json} (hpaths : state.accessPaths ≠ [])
    (h : serveSingbox state user profile compat = .ok (.config config)) :
    ∃ doc, provisioningDocumentWithModeAndAccessPathsAndOptions user state.endpoints
      compat.diagnostic state.accessPaths profile compat = .ok doc ∧
        doc.singboxConfig = some config := by
  have hne : state.accessPaths.isEmpty = false := List.isEmpty_eq_false_iff.mpr hpaths
  simp only [serveSingbox, hne, Bool.false_eq_true, if_false, Check.bind_eq_ok,
    Check.mapError_eq_ok] at h
  obtain ⟨doc, hdoc, hconfig⟩ := h
  refine ⟨doc, hdoc, ?_⟩
  split at hconfig
  · next hsome =>
    cases hconfig
    exact hsome
  · cases hconfig

theorem dialledDirectly_of_serveSingbox {state : AppState} {config : Json}
    (hpaths : state.accessPaths = [])
    (h : serveSingbox state user profile compat = .ok (.config config)) :
    DialledDirectly (subscriptionEndpoint compat user) state.endpoints config := by
  simp only [serveSingbox, hpaths, List.isEmpty_nil, if_true, Check.bind_eq_ok,
    Check.mapError_eq_ok] at h
  obtain ⟨config', hrender, hbody⟩ := h
  cases hbody
  obtain ⟨given, hgiven, hconfig⟩ := Check.bind_eq_ok.mp hrender
  exact dialledDirectly_of_render hgiven hconfig

theorem compat_ne_pinned (mode : DiagnosticMode) : mode.compat ≠ .hiddifyPinned := by
  cases mode <;> decide

/-- A share link is that of an endpoint that is reached directly.  With access paths every outbound
    leaves by the path that its endpoint declares; without them a path is a label, and every
    outbound dials its endpoint directly. -/
theorem no_silent_downgrade {ext : External} {d : DeploymentConfig} {publicKey shortId : String}
    {obfs : Option String} (hd : d.validate ext = .ok ())
    (hserved : d.servedEndpoints ext publicKey shortId obfs = .ok served)
    (hpaths : d.contractAccessPaths = .ok accessPaths) (m : Moment) (token : String) :
    (∀ query lines base64,
      getSubscription ⟨served, accessPaths⟩ m token query = .ok (.links lines base64) →
        ∃ user, authenticate m token = .ok user ∧ ∀ link ∈ lines, ∃ ep ∈ served, ep.IsDirect ∧
          ∃ visionOff, shareLink visionOff user ep = .ok (some link)) ∧
    (accessPaths ≠ [] →
      (∀ query config, getSubscription ⟨served, accessPaths⟩ m token query = .ok (.config config) →
        ∃ user, authenticate m token = .ok user ∧ ∃ mode,
          NoDowngrade user mode accessPaths served config) ∧
      ∀ query doc, getProvision ⟨served, accessPaths⟩ m token query = .ok (.document doc) →
        ∃ user, authenticate m token = .ok user ∧ ∃ mode config, doc.singboxConfig = some config ∧
          NoDowngrade user mode accessPaths served config) ∧
    (accessPaths = [] →
      (∀ query config, getSubscription ⟨served, accessPaths⟩ m token query = .ok (.config config) →
        ∃ user, authenticate m token = .ok user ∧ ∃ compat,
          DialledDirectly (subscriptionEndpoint compat user) served config) ∧
      ∀ query doc, getProvision ⟨served, accessPaths⟩ m token query = .ok (.document doc) →
        ∃ user, authenticate m token = .ok user ∧ ∃ mode config, doc.singboxConfig = some config ∧
          DialledDirectly (provisioningEndpoint mode user) served config) := by
  have hoffered := offered_of_validate hd hserved hpaths
  refine ⟨?_, fun hne => ⟨?_, ?_⟩, fun hempty => ⟨?_, ?_⟩⟩
  · intro query lines base64 hok
    obtain ⟨user, huser, profile, compat, base64', hserve⟩ := getSubscription_ok hok
    refine ⟨user, huser, fun link hlink => ?_⟩
    rcases hserve with hsingbox | hlinks
    · obtain ⟨config, hbody⟩ := body_of_serveSingbox hsingbox
      cases hbody
    · obtain ⟨lines', hbody⟩ := body_of_serveLinks hlinks
      cases hbody
      exact link_of_mem hlinks hlink
  · intro query config hok
    obtain ⟨user, huser, profile, compat, hserve⟩ := getSubscription_config hok
    obtain ⟨doc, hdoc, hconfig⟩ := config_of_serveSingbox hne hserve
    obtain ⟨config', hconfig', hnone⟩ := noDowngrade_of_ok hoffered hne hdoc
    obtain rfl : config' = config := Option.some.inj (hconfig'.symm.trans hconfig)
    exact ⟨user, huser, compat.diagnostic, hnone⟩
  · intro query doc hok
    obtain ⟨user, huser, mode, doc', hbody, hdoc⟩ := getProvision_ok hok
    cases hbody
    obtain ⟨config, hconfig, hnone⟩ := noDowngrade_of_ok hoffered hne hdoc
    exact ⟨user, huser, mode, config, hconfig, hnone⟩
  · intro query config hok
    obtain ⟨user, huser, profile, compat, hserve⟩ := getSubscription_config hok
    exact ⟨user, huser, compat, dialledDirectly_of_serveSingbox hempty hserve⟩
  · intro query doc hok
    subst hempty
    obtain ⟨user, huser, mode, doc', hbody, hdoc⟩ := getProvision_ok hok
    cases hbody
    obtain ⟨given, config, hgiven, hrender, hconfig⟩ := config_of_ok (compat_ne_pinned mode) hdoc
    exact ⟨user, huser, mode, config, hconfig, dialledDirectly_of_render hgiven hrender⟩

def sampleMoment (user : CompatUser) : Moment :=
  ⟨true, .ok [user], 0, fun token => if token = "token" then sampleTokenHash else token⟩

def sampleQuery : SubQuery := ⟨none, none, none, none⟩

/-- The sample relay's route goes through its first hop. -/
theorem no_silent_downgrade_sampleRelay : ∃ served accessPaths config,
    sampleRelay.servedEndpoints sampleExternal samplePublicKey "ab" none = .ok served ∧
      sampleRelay.contractAccessPaths = .ok accessPaths ∧
      getSubscription ⟨served, accessPaths⟩ (sampleMoment samplePeerUser) "token" sampleQuery =
        .ok (.config config) ∧
      ∃ user, authenticate (sampleMoment samplePeerUser) "token" = .ok user ∧ ∃ mode,
        NoDowngrade user mode accessPaths served config := by
  obtain ⟨served, accessPaths, doc, hserved, hpaths, hok, hrelayed⟩ :=
    provision_any sampleRelay_provision
  have hne : accessPaths ≠ [] := by
    rintro rfl
    cases hpaths
  obtain ⟨config, hconfig, -⟩ :=
    noDowngrade_of_ok (offered_of_validate sampleRelay_valid hserved hpaths) hne hok
  have hserve : getSubscription ⟨served, accessPaths⟩ (sampleMoment samplePeerUser) "token"
      sampleQuery = .ok (.config config) := by
    have hsingbox : serveSingbox ⟨served, accessPaths⟩ samplePeerUser .reliability .normal =
        .ok (.config config) := by
      have hempty : accessPaths.isEmpty = false := List.isEmpty_eq_false_iff.mpr hne
      simp only [serveSingbox, hempty, Bool.false_eq_true, if_false]
      simp only [CompatibilityMode.diagnostic, hok, Except.mapError]
      simp [bind, Except.bind, hconfig]
    exact hsingbox
  exact ⟨served, accessPaths, config, hserved, hpaths, hserve,
    ((no_silent_downgrade sampleRelay_valid hserved hpaths _ _).2.1 hne).1 _ _ hserve⟩

def sampleLegacy : DeploymentConfig :=
  { sampleRelay with role := .exit, accessPaths := [], exitPrincipals := none }

theorem sampleLegacy_valid : sampleLegacy.validate sampleExternal = .ok () := rfl

/-- Without access paths an endpoint labelled `via-relay` is dialled directly. -/
theorem label_dialled_directly : ∃ served config,
    sampleLegacy.validate sampleExternal = .ok () ∧
      sampleLegacy.servedEndpoints sampleExternal samplePublicKey "ab" none = .ok served ∧
      sampleLegacy.contractAccessPaths = .ok [] ∧
      getSubscription ⟨served, []⟩ (sampleMoment samplePeerUser) "token" sampleQuery =
        .ok (.config config) ∧
      ∃ ob ∈ outboundsOf config, detourOf ob = none ∧ ∃ ep ∈ served, ep.path = some "via-relay" ∧
        ∃ built, subscriptionEndpoint .normal samplePeerUser ep = .ok (some built) ∧
          AgreesWith ob built := by
  have hrun : (sampleLegacy.servedEndpoints sampleExternal samplePublicKey "ab" none).toOption.any
      (fun served => (getSubscription ⟨served, []⟩ (sampleMoment samplePeerUser) "token"
        sampleQuery).toOption.any fun body =>
          match body with
          | .config config => served.any fun ep => ep.path == some "via-relay" &&
              (subscriptionEndpoint .normal samplePeerUser ep).toOption.any fun built =>
                built.any fun b => (outboundsOf config).any fun ob =>
                  ob == endpointOutbound .normal b && (detourOf ob).isNone
          | _ => false) = true := by
    decide +kernel
  obtain ⟨served, hserved, hrun⟩ := Check.any_toOption.mp hrun
  obtain ⟨body, hbody, hrun⟩ := Check.any_toOption.mp hrun
  cases body with
  | document doc => cases hrun
  | links lines base64 => cases hrun
  | config config =>
    obtain ⟨ep, hep, hrun⟩ := List.any_eq_true.mp hrun
    obtain ⟨hpath, hrun⟩ := Bool.and_eq_true_iff.mp hrun
    obtain ⟨o, hbuilt, hrun⟩ := Check.any_toOption.mp hrun
    cases o with
    | none => cases hrun
    | some built =>
      obtain ⟨ob, hob, hrun⟩ := List.any_eq_true.mp hrun
      obtain ⟨heq, hdetour⟩ := Bool.and_eq_true_iff.mp hrun
      obtain rfl := beq_iff_eq.mp heq
      exact ⟨served, config, sampleLegacy_valid, hserved, rfl, hbody, _, hob,
        Option.isNone_iff_eq_none.mp hdetour, ep, hep, beq_iff_eq.mp hpath, built, hbuilt,
        agreesWith_endpointOutbound .normal built⟩

end NoDowngrade

/-! ### The subscription and the document -/

/-- Without a credential the native subscription is an error, where the document leaves out the
    endpoint. -/
theorem subscriptionEndpoint_normal (user : CompatUser) (ep : CompatEndpoint) :
    (user.holds ep = true →
      subscriptionEndpoint .normal user ep = provisioningEndpoint .none user ep) ∧
    (user.holds ep = false → ∀ o, subscriptionEndpoint .normal user ep ≠ .ok o) := by
  have hsub : subscriptionEndpoint .normal user ep =
      (contractEndpoint user ep .vision none >>= fun built => .ok (some built)) := by
    simp [subscriptionEndpoint]
  have hdoc : provisioningEndpoint .none user ep = contractEndpointOpt user ep .vision none := by
    simp [provisioningEndpoint]
  rw [hsub, hdoc, contractEndpoint]
  refine ⟨fun hholds => ?_, fun hholds o => ?_⟩
  · cases hopt : contractEndpointOpt user ep .vision none with
    | error e => rfl
    | ok built =>
      cases built with
      | none =>
        rw [contractEndpointOpt_none.mp hopt] at hholds
        cases hholds
      | some built => rfl
  · rw [contractEndpointOpt_none.mpr hholds]
    simp [bind, Except.bind]

/-- The two routes give the same configuration exactly if the user holds all credentials. -/
theorem subscription_agrees {user : CompatUser} {eps : List CompatEndpoint}
    {profile : SelectionProfile} {doc : ProvisioningDocument}
    (hdoc : provisioningDocumentWithModeAndAccessPathsAndOptions user eps .none [] profile .normal =
      .ok doc) :
    (∃ config, renderSingboxClientSubscriptionWithOptions user eps profile .normal = .ok config ∧
      doc.singboxConfig = some config) ↔ ∀ ep ∈ eps, user.holds ep = true := by
  constructor
  · rintro ⟨config, hsub, -⟩ ep hep
    obtain ⟨given, hgiven, -⟩ := Check.bind_eq_ok.mp hsub
    obtain ⟨o, ho⟩ := Check.ok_of_collect hgiven hep
    cases hholds : user.holds ep with
    | true => rfl
    | false => exact absurd ho ((subscriptionEndpoint_normal user ep).2 hholds o)
  · intro hholds
    obtain ⟨given, config, hgiven, hrender, hconfig⟩ := config_of_ok (by decide) hdoc
    have hsame : (ClientRenderer.subscription .normal).endpoints user eps = .ok given := by
      rw [← hgiven]
      exact Check.collect_congr fun ep hep =>
        (subscriptionEndpoint_normal user ep).1 (hholds ep hep)
    refine ⟨config, ?_, hconfig⟩
    rw [renderSingboxClientSubscriptionWithOptions, hsame]
    exact hrender

theorem sampleLegacy_provision (user : CompatUser) (huser : user = sampleUser ∨
    user = samplePeerUser) : (sampleLegacy.provision sampleExternal samplePublicKey "ab" none user
      .none .reliability .normal).toOption.any (fun _ => true) = true := by
  rcases huser with rfl | rfl <;> decide +kernel

/-- The account that holds the peer's credential: the subscription is the document's
    configuration. -/
theorem subscription_agrees_sampleLegacy : ∃ served doc config,
    sampleLegacy.servedEndpoints sampleExternal samplePublicKey "ab" none = .ok served ∧
    provisioningDocumentWithModeAndAccessPathsAndOptions samplePeerUser served .none [] .reliability
      .normal = .ok doc ∧
    (∀ ep ∈ served, samplePeerUser.holds ep = true) ∧
    renderSingboxClientSubscriptionWithOptions samplePeerUser served .reliability .normal =
      .ok config ∧ doc.singboxConfig = some config := by
  obtain ⟨served, accessPaths, doc, hserved, hpaths, hok, -⟩ :=
    provision_any (sampleLegacy_provision samplePeerUser (.inr rfl))
  cases hpaths
  have hrun : (sampleLegacy.servedEndpoints sampleExternal samplePublicKey "ab" none).toOption.any
      (fun served => served.all samplePeerUser.holds) = true := by
    decide +kernel
  have hholds : ∀ ep ∈ served, samplePeerUser.holds ep = true := by
    rw [hserved] at hrun
    exact List.all_eq_true.mp hrun
  obtain ⟨config, hsub, hconfig⟩ := (subscription_agrees hok).mpr hholds
  exact ⟨served, doc, config, hserved, hok, hholds, hsub, hconfig⟩

/-- Without the peer's credential the document is served and the subscription is not. -/
theorem subscription_fails_without_credential : ∃ served doc,
    sampleLegacy.validate sampleExternal = .ok () ∧ sampleLegacy.accessPaths = [] ∧
      sampleLegacy.servedEndpoints sampleExternal samplePublicKey "ab" none = .ok served ∧
      provisioningDocumentWithModeAndAccessPathsAndOptions sampleUser served .none [] .reliability
        .normal = .ok doc ∧
      ∀ config, renderSingboxClientSubscriptionWithOptions sampleUser served .reliability .normal ≠
        .ok config := by
  obtain ⟨served, accessPaths, doc, hserved, hpaths, hok, -⟩ :=
    provision_any (sampleLegacy_provision sampleUser (.inl rfl))
  cases hpaths
  have hrun : (sampleLegacy.servedEndpoints sampleExternal samplePublicKey "ab" none).toOption.any
      (fun served => (renderSingboxClientSubscriptionWithOptions sampleUser served .reliability
        .normal).toOption.isNone) = true := by
    decide +kernel
  rw [hserved] at hrun
  refine ⟨served, doc, sampleLegacy_valid, rfl, hserved, hok, fun config hconfig => ?_⟩
  simp [Except.toOption, hconfig] at hrun

end SingboxVpn
