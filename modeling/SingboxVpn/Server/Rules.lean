import SingboxVpn.Deployment

namespace SingboxVpn

open Json (object strs)

/-!
# The route rules of a server document

Every rule the renderer can put into `route.rules`, as a JSON object.  Exits and relays
assemble their rule lists from these (see `Server.Render`).
-/

def REALITY_INBOUND : String := "vless-reality-in"

/-- The tag of an exit's outbound to the node it hairpins through. -/
def HAIRPIN_TAG : String := "google-egress-hairpin"

/-! ### What is rejected for everybody -/

/-- One `resolve`, then rejects for the denied ranges and for SMTP. -/
def c16EgressDenyRules (allInbounds : List String) : List Json :=
  -- the resolve comes first, so that the address rejects also see what a name stands for
  [object [("inbound", strs allInbounds), ("action", .str "resolve")],
    object [("inbound", strs allInbounds), ("ip_cidr", strs C16_DENY_IPV4_CIDRS),
      ("action", .str "reject"), ("method", .str "default")],
    object [("inbound", strs allInbounds), ("ip_cidr", strs C16_DENY_IPV6_CIDRS),
      ("action", .str "reject"), ("method", .str "default")],
    object [("inbound", strs allInbounds), ("network", .str "tcp"),
      ("port", .num C16_DENY_TCP_PORT), ("action", .str "reject"), ("method", .str "default")]]

def ownAddresses (ownPublicHost ownPublicIpv4 ownPublicIpv6 : Option String) : List IpAddr :=
  [ownPublicHost, ownPublicIpv4, ownPublicIpv6].filterMap fun o =>
    -- an empty field and a host that is a name contribute nothing
    (o.filter fun v => !v.isEmpty).bind IpAddr.parse

def DeploymentConfig.ownAddresses (d : DeploymentConfig) : List IpAddr :=
  SingboxVpn.ownAddresses (some d.publicHost) d.publicIpv4 d.publicIpv6

/-- The reject for the node's own addresses, if any is known. -/
def ownAddressDenyRule (allInbounds : List String)
    (ownPublicHost ownPublicIpv4 ownPublicIpv6 : Option String) : Option Json :=
  let own := ownAddresses ownPublicHost ownPublicIpv4 ownPublicIpv6
  if own.isEmpty then none
  else some (object [("inbound", strs allInbounds), ("ip_cidr", strs (own.map Cidr.hostText)),
    ("action", .str "reject"), ("method", .str "default")])

/-! ### A node that dials out -/

def ipv6Policy (d : DeploymentConfig) (hairpinActive : Bool) : Ipv6LiteralPolicy :=
  (d.egress.map EgressSection.ipv6Literal).getD
    (if hairpinActive then .rejectGoogle else .allow)

def ipv6SniffRules (policy : Ipv6LiteralPolicy) (hairpinActive : Bool) : List Json :=
  -- the hairpin route needs the name of every connection, not only of literal IPv6
  if hairpinActive then [object [("action", .str "sniff")]]
  else if policy = .rejectGoogle then
    [object [("ip_version", .num 6), ("port", .num 443), ("action", .str "sniff"),
      ("sniffer", strs ["tls", "quic"]), ("timeout", .str "100ms")]]
  else []

def ipv6RejectRules (policy : Ipv6LiteralPolicy) (hairpinActive : Bool) : List Json :=
  if policy = .allow then []
  else
    let reject := object [("ip_version", .num 6), ("action", .str "reject"),
      ("method", .str "default"), ("no_drop", .bool true)]
    if policy = .rejectGoogle then
      let reject := reject.set "domain_suffix" (strs GOOGLE_EGRESS_DOMAINS)
      -- without a hairpin only port 443 was sniffed
      if !hairpinActive then [reject.set "port" (.num 443)] else [reject]
    else [reject]

/-- Sniff TLS and set the spoof option on the Google domain set; neither rule decides. -/
def spoofRules (d : DeploymentConfig) : List Json :=
  match d.googleEgressTlsSpoof with
  | none => []
  | some spoof =>
    [object [("network", .str "tcp"), ("port", .num 443), ("action", .str "sniff"),
        ("sniffer", strs ["tls"]), ("timeout", .str "300ms")],
      object [("domain_suffix", strs GOOGLE_EGRESS_DOMAINS), ("network", .str "tcp"),
        ("port", .num 443), ("protocol", .str "tls"), ("action", .str "route-options"),
        ("tls_spoof", .str spoof.sni), ("tls_spoof_method", .str spoof.method.asStr)]]

/-- The egress policy of an exit after the mandatory prefix. -/
def exitEgressRules (d : DeploymentConfig) (hairpinActive : Bool) : List Json :=
  let policy := ipv6Policy d hairpinActive
  ipv6SniffRules policy hairpinActive ++ ipv6RejectRules policy hairpinActive ++ spoofRules d

/-- The rule that sends the Google domain set out through the paired node. -/
def hairpinRouteRule : Json :=
  object [("domain_suffix", strs GOOGLE_EGRESS_DOMAINS), ("action", .str "route"),
    ("outbound", .str HAIRPIN_TAG)]

/-! ### Relays -/

/-- How a rule names a target: an address block of one address, or the exact name. -/
def targetItem (host : String) : String × Json :=
  match IpAddr.parse host with
  | some ip => ("ip_cidr", strs [Cidr.hostText ip])
  | none => ("domain", strs [host])

def relayTargetRule (target : RelayTarget) : Json :=
  let item := targetItem target.host
  (object [("inbound", strs [REALITY_INBOUND]), ("network", .str "tcp"),
    ("port", .num target.port), ("action", .str "route"), ("outbound", .str "direct")]).set
      item.1 item.2

def peerDenyRule (target : RelayTarget) : Json :=
  let item := targetItem target.host
  (object [("network", .str "tcp"), ("port", .num target.port), ("action", .str "reject"),
    ("method", .str "default")]).set item.1 item.2

def scopeRule (principals : List String) (rule : Json) : Json :=
  (rule.set "inbound" (strs [REALITY_INBOUND])).set "auth_user" (strs principals)

/-- The principals allowed to leave a relay directly: flagged accounts of a node that opted
    in, never a hairpin or probe account. -/
def exitPrincipalIds (d : DeploymentConfig) (users : List CompatUser) (now : Int) :
    List String :=
  -- the flag on an account does nothing until the node opts in
  if !d.exitPrincipalsEnabled then []
  else principalsOf
    (fun u => u.exitPrincipal && !u.googleEgressHairpin && !u.isReservedProbe) users now

/-- The block of the exit principals: everything an exit rejects, the declared peers, the
    egress policy, and then `direct`. -/
def exitPrincipalRules (d : DeploymentConfig) (principals : List String) : List Json :=
  if principals.isEmpty then []
  else
    (c16EgressDenyRules [REALITY_INBOUND] ++
      (ownAddressDenyRule [REALITY_INBOUND] (some d.publicHost) d.publicIpv4
        d.publicIpv6).toList ++
      d.relayTargets.map peerDenyRule ++
      exitEgressRules d false ++
      [object [("action", .str "route"), ("outbound", .str "direct")]]).map
        (scopeRule principals)

/-- Set the spoof option on one hairpin principal's Google TLS; the rule does not decide. -/
def hairpinSpoofRules (d : DeploymentConfig) (principal : String) : List Json :=
  match d.googleEgressTlsSpoof with
  | none => []
  | some spoof =>
    [object [("inbound", strs [REALITY_INBOUND]), ("auth_user", strs [principal]),
      ("domain_suffix", strs GOOGLE_EGRESS_DOMAINS), ("network", .str "tcp"),
      ("port", .num 443), ("protocol", .str "tls"), ("action", .str "route-options"),
      ("tls_spoof", .str spoof.sni), ("tls_spoof_method", .str spoof.method.asStr)]]

def hairpinRules (d : DeploymentConfig) (principal : String) : List Json :=
  [object [("inbound", strs [REALITY_INBOUND]), ("auth_user", strs [principal]),
      ("action", .str "sniff")]] ++
    hairpinSpoofRules d principal ++
    [object [("inbound", strs [REALITY_INBOUND]), ("auth_user", strs [principal]),
      ("domain_suffix", strs GOOGLE_EGRESS_DOMAINS), ("action", .str "route"),
      ("outbound", .str "direct")]]

def rejectAllRule (allInbounds : List Json) : Json :=
  object [("inbound", .arr allInbounds), ("action", .str "reject"), ("method", .str "default")]

/-! ### Reserved probe users -/

def probeIds (users : List CompatUser) (now : Int) : List String :=
  principalsOf CompatUser.isReservedProbe users now

def hairpinPrincipals (users : List CompatUser) (now : Int) : List String :=
  principalsOf CompatUser.googleEgressHairpin users now

def relayLoopbackRule (d : DeploymentConfig) (ids : List String) : Json :=
  object [("inbound", strs [REALITY_INBOUND]), ("auth_user", strs ids),
    ("network", .str "tcp"), ("ip_cidr", strs ["127.0.0.1/32"]),
    ("port", .num d.subscription.listenPort), ("action", .str "route"),
    ("outbound", .str "direct")]

def exitLoopbackRule (d : DeploymentConfig) (ids : List String) : Json :=
  object [("auth_user", strs ids), ("network", .str "tcp"), ("ip_cidr", strs ["127.0.0.1/32"]),
    ("port", .num d.subscription.listenPort), ("action", .str "route"),
    ("outbound", .str "direct")]

def probeConfinementRules (ids : List String) : List Json :=
  [object [("auth_user", strs ids), ("network", .str "tcp"), ("port", .num PROBE_ALLOWED_PORT),
      ("ip_cidr", strs PROBE_ALLOWED_IP_CIDRS), ("action", .str "route"),
      ("outbound", .str "direct")],
    object [("auth_user", strs ids), ("network", .str "tcp"), ("port", .num PROBE_ALLOWED_PORT),
      ("domain", strs PROBE_ALLOWED_DOMAINS), ("action", .str "route"),
      ("outbound", .str "direct")],
    object [("auth_user", strs ids), ("action", .str "reject"), ("method", .str "default")]]

def alreadyProbeScoped (ids : List String) (rule : Json) : Bool :=
  (rule.idx "auth_user").asArray.any fun au =>
    au.all fun v => v.asStr.any fun s => ids.contains s

end SingboxVpn
