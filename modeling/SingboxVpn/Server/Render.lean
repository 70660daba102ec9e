import SingboxVpn.Server.Rules
import SingboxVpn.Lib.FirstMatch

namespace SingboxVpn

open Json (object strs)
open FirstMatch (insertAll)

/-!
# Rendering the server document

`renderServerConfigForDeployment` is the production renderer: it validates the deployment
and the projected authorizations, builds both inbounds for the authorized grants, and adds
the route policy of the node's role by the same sequence of edits as the source, each of
which inserts rules at a position computed from the document it finds.
-/

/-! ### The transport-level document -/

/-- The ports of the two listeners. -/
structure ServerPorts where
  vlessRealityPort : Nat
  hysteria2Port : Nat
deriving DecidableEq, Repr

/-- The ports that a deployment declares. -/
def ServerPorts.forDeployment (d : DeploymentConfig) : ServerPorts :=
  ⟨d.reality.listenPort, d.hysteria2.listenPort⟩

/-- Logging of every server document: start-up failures only. -/
def serverLogOptions : Json := object [("level", .str "fatal"), ("timestamp", .bool true)]

def authorizedGrants (users : List CompatUser) (now : Int) :
    List (CompatUser × CredentialGrant) :=
  (users.filter (·.isActive now)).flatMap fun u => (u.authorizedGrants now).map (u, ·)

theorem mem_authorizedGrants_iff {users : List CompatUser} {now : Int}
    {ug : CompatUser × CredentialGrant} :
    ug ∈ authorizedGrants users now ↔
      ug.1 ∈ users ∧ ug.1.isActive now = true ∧ ug.2 ∈ ug.1.authorizedGrants now := by
  simp only [authorizedGrants, List.mem_flatMap, List.mem_filter, List.mem_map]
  constructor
  · rintro ⟨u, ⟨hu, hactive⟩, g, hg, rfl⟩
    exact ⟨hu, hactive, hg⟩
  · rintro ⟨hu, hactive, hg⟩
    exact ⟨ug.1, ⟨hu, hactive⟩, ug.2, hg, rfl⟩

def CompatUser.flow (u : CompatUser) : String :=
  if u.visionOffExperiment then "" else "xtls-rprx-vision"

def vlessUser (ug : CompatUser × CredentialGrant) : Json :=
  object [("name", .str ug.2.principalId), ("uuid", .str ug.2.vlessUuid),
    ("flow", .str ug.1.flow)]

def hysteriaUser (ug : CompatUser × CredentialGrant) : Json :=
  object [("name", .str ug.2.principalId), ("password", .str ug.2.hysteria2Password)]

def hysteriaInbound (hysteria : Hysteria2ServerParams) (port : Nat) (hysteriaUsers : List Json) :
    Json :=
  let inbound := object [("type", .str "hysteria2"), ("tag", .str "hysteria2-in"),
    ("listen", .str "::"), ("listen_port", .num port), ("users", .arr hysteriaUsers),
    ("tls", object [("enabled", .bool true), ("certificate_path", .str hysteria.tlsCertPath),
      ("key_path", .str hysteria.tlsKeyPath)])]
  let inbound := match hysteria.masqueradeDirPath with
    | some dir => inbound.set "masquerade"
        (object [("type", .str "file"), ("directory", .str dir)])
    | none => inbound
  let inbound := match hysteria.obfsPassword with
    | some password => inbound.set "obfs"
        (object [("type", .str "salamander"), ("password", .str password)])
    | none => inbound
  match hysteria.upMbps, hysteria.downMbps with
  -- one cap alone is ignored
  | some up, some down => (inbound.set "up_mbps" (.num up)).set "down_mbps" (.num down)
  | _, _ => inbound.set "ignore_client_bandwidth" (.bool true)

def vlessInbound (reality : RealityServerParams) (port : Nat) (vlessUsers : List Json) : Json :=
  object [("type", .str "vless"), ("tag", .str REALITY_INBOUND), ("listen", .str "::"),
    ("listen_port", .num port), ("users", .arr vlessUsers),
    ("tls", object [("enabled", .bool true), ("server_name", .str reality.handshakeServer),
      ("reality", object [("enabled", .bool true),
        ("handshake", object [("server", .str reality.handshakeServer),
          ("server_port", .num reality.handshakePort)]),
        ("private_key", .str reality.privateKeyHex), ("short_id", strs reality.shortIds)])]),
    ("multiplex", object [("enabled", .bool true)])]

/-- Both inbounds and unrestricted `direct` egress, with no role policy. -/
def renderSingboxServerConfig (users : List CompatUser) (reality : RealityServerParams)
    (hysteria : Hysteria2ServerParams) (ports : ServerPorts) (now : Int) : Json :=
  let grants := authorizedGrants users now
  object [("log", serverLogOptions),
    ("inbounds", .arr [vlessInbound reality ports.vlessRealityPort (grants.map vlessUser),
      hysteriaInbound hysteria ports.hysteria2Port (grants.map hysteriaUser)]),
    ("outbounds", .arr [object [("type", .str "direct"), ("tag", .str "direct")]])]

/-! ### Edits of the route section -/

def routeRules (config : Json) : List Json :=
  ((config.idx "route").idx "rules").asArray.getD []

def setRouteRules (config : Json) (rules : List Json) : Json :=
  config.set "route" ((config.idx "route").set "rules" (.arr rules))

def setRouteFinal (config : Json) : Json :=
  config.set "route" ((config.idx "route").set "final" (.str "direct"))

def ensureRoute (config : Json) : Json :=
  if (config.idx "route").isObject then config else config.set "route" (object [])

/-- Every inbound tag of the document that is a string; nothing if there is none. -/
def allInboundTags (config : Json) : Option (List String) :=
  match (config.idx "inbounds").asArray with
  | none => none
  | some inbounds =>
    let tags := inbounds.filterMap fun inbound => (inbound.idx "tag").asStr
    if tags.isEmpty then none else some tags

/-- Insert rules after the leading rules that are scoped to a principal. -/
def insertAfterIdentityScopedRules (config : Json) (newRules : List Json) : Json :=
  let config := ensureRoute config
  let existing := routeRules config
  -- the longest front of rules that name a principal, whichever principal it is
  let insertAt := (existing.takeWhile fun rule => (rule.get? "auth_user").isSome).length
  setRouteFinal (setRouteRules config (insertAll insertAt newRules existing))

/-- The egress isolation of an exit, ahead of the other rules. -/
def applyC16EgressPolicy (config : Json)
    (ownPublicHost ownPublicIpv4 ownPublicIpv6 : Option String) : Json :=
  match allInboundTags config with
  | none => config
  | some allInbounds =>
    insertAfterIdentityScopedRules config
      (c16EgressDenyRules allInbounds ++
        (ownAddressDenyRule allInbounds ownPublicHost ownPublicIpv4 ownPublicIpv6).toList)

/-- The self-test of an exit reaches its own subscription port. -/
def applyExitLoopbackSelftestException (config : Json) (d : DeploymentConfig)
    (users : List CompatUser) (now : Int) : Json :=
  let ids := probeIds users now
  if ids.isEmpty then config
  else
    let config := ensureRoute config
    setRouteRules config ((routeRules config).insertIdx 0 (exitLoopbackRule d ids))

/-- Confine the reserved probe users, behind the rules already scoped to them. -/
def applyProbeUserConfinement (config : Json) (users : List CompatUser) (now : Int) : Json :=
  let ids := probeIds users now
  if ids.isEmpty then config
  else
    let config := ensureRoute config
    let existing := routeRules config
    -- rules scoped to probe principals only count as more specific and stay in front
    let insertAt := (existing.takeWhile (alreadyProbeScoped ids)).length
    setRouteRules config (insertAll insertAt (probeConfinementRules ids) existing)

def hairpinOutbound (hairpin : GoogleEgressHairpinSection) (uuid : String) : Json :=
  object [("type", .str "vless"), ("tag", .str HAIRPIN_TAG), ("server", .str hairpin.relayHost),
    ("server_port", .num hairpin.relayPort), ("uuid", .str uuid),
    ("flow", .str "xtls-rprx-vision"),
    ("tls", object [("enabled", .bool true), ("server_name", .str hairpin.relayServerName),
      ("utls", object [("enabled", .bool true), ("fingerprint", .str "chrome")]),
      ("reality", object [("enabled", .bool true),
        ("public_key", .str hairpin.relayRealityPublicKey),
        ("short_id", .str hairpin.relayRealityShortId)])])]

/-- Send the Google domains out through another node. -/
def applyGoogleEgressHairpin (config : Json) (hairpin : GoogleEgressHairpinSection)
    (uuid : String) : Json :=
  let config := match (config.idx "outbounds").asArray with
    | some outbounds => config.set "outbounds" (.arr (outbounds ++ [hairpinOutbound hairpin uuid]))
    | none => config
  setRouteFinal (setRouteRules config (routeRules config ++ [hairpinRouteRule]))

/-! ### The role-aware renderer -/

def projectUser (user : CompatUser) : Authorization where
  principalId := user.name
  credentialId := user.id
  cls := if Text.startsWith "native_" user.name then .native else .compatibility
  validFrom := user.createdAt
  validUntil := user.expiresAt.getD I64_MAX
  revoked := !user.enabled
  vlessUuid := some user.vlessUuid
  hysteria2Password := some user.hysteria2Password

def projectedSet (users : List CompatUser) : AuthorizationSet :=
  ⟨(users.filter fun user => Text.startsWith "cred_" user.id).map projectUser⟩

/-- The hairpin is in use: the section is there and so is this exit's credential. -/
def hairpinActive (d : DeploymentConfig) (reality : RealityServerParams) : Bool :=
  d.googleEgressHairpin.isSome && reality.googleEgressHairpinUuid.isSome

/-- Add the hairpin's outbound and route, where section and credential are both there. -/
def applyConfiguredHairpin (d : DeploymentConfig) (reality : RealityServerParams)
    (config : Json) : Json :=
  match d.googleEgressHairpin, reality.googleEgressHairpinUuid with
  | some hairpin, some uuid => applyGoogleEgressHairpin config hairpin uuid
  | _, _ => config

def renderExit (d : DeploymentConfig) (users : List CompatUser) (reality : RealityServerParams)
    (now : Int) (config : Json) : Json :=
  -- the hairpin route is appended, every later edit inserts in front of it
  let config := applyConfiguredHairpin d reality config
  let config := setRouteRules config
    (exitEgressRules d (hairpinActive d reality) ++ routeRules config)
  let config := applyExitLoopbackSelftestException config d users now
  let config := applyC16EgressPolicy config (some d.publicHost) d.publicIpv4 d.publicIpv6
  applyProbeUserConfinement config users now

def relayRules (d : DeploymentConfig) (users : List CompatUser) (now : Int)
    (allInbounds : List Json) : List Json :=
  let ids := probeIds users now
  (if ids.isEmpty then [] else [relayLoopbackRule d ids]) ++
    (hairpinPrincipals users now).flatMap (hairpinRules d) ++
    (if d.exitPrincipalsEnabled then exitPrincipalRules d (exitPrincipalIds d users now)
      else []) ++
    d.relayTargets.map relayTargetRule ++
    [rejectAllRule allInbounds]

def renderRelay (d : DeploymentConfig) (users : List CompatUser) (now : Int) (config : Json) :
    Except CompatError Json :=
  let allInbounds := ((config.idx "inbounds").asArray.map fun inbounds =>
    inbounds.map fun inbound => inbound.idx "tag").getD []
  if allInbounds.isEmpty then
    .error (.parse "relay config has no inbounds to restrict — refusing to render")
  else
    -- no `final`: what no rule decides would take the first outbound, so the list ends in a reject
    let config := config.set "route"
      (object [("rules", .arr (relayRules d users now allInbounds))])
    .ok (applyProbeUserConfinement config users now)

/-- The production server renderer. -/
def renderServerConfigForDeployment (ext : External) (d : DeploymentConfig)
    (users : List CompatUser) (reality : RealityServerParams) (hysteria : Hysteria2ServerParams)
    (now : Int) : Except CompatError Json := do
  d.validate ext
  Check.mapError CompatError.parse (projectedSet users).validate
  let config := renderSingboxServerConfig users reality hysteria (.forDeployment d) now
  if d.role = .exit then .ok (renderExit d users reality now config)
  else renderRelay d users now config

end SingboxVpn
