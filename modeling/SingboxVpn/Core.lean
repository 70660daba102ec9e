import SingboxVpn.Server.Render

namespace SingboxVpn

open Json (object strs lastWins)
open FirstMatch (Outcome eval)

/-!
# How the Core routes a connection

The meaning of a document's `route` section, as the data plane evaluates it: rules are read
in order, all fields of a rule have to match, `sniff`, `resolve` and `route-options` go on
with the next rule, and what no rule decides goes to `route.final`.  This is an instance of
`FirstMatch.eval` whose state records what `sniff` and `resolve` have found so far.

* `ruleMatches_object`, `act_route`, `act_reject` — how a rule literal is evaluated.
-/

/-! ### Connections -/

inductive Network where
  | tcp
  | udp
deriving DecidableEq, Repr

/-- The name of a network in a rule. -/
def Network.asStr : Network → String
  | .tcp => "tcp"
  | .udp => "udp"

/-- The destination a client asks for; names are lower-case. -/
inductive Dest where
  | addr (a : IpAddr)
  | name (n : String)
deriving DecidableEq, Repr

/-- One authenticated connection: what the client sends, the addresses its name resolves to,
    and the name each set of sniffers finds in its first bytes. -/
structure Conn where
  inbound : String
  user : String
  network : Network
  dest : Dest
  port : Nat
  resolved : List IpAddr
  sniff : List String → Option String

namespace Conn

def literal (c : Conn) : Option IpAddr :=
  match c.dest with
  | .addr a => some a
  | .name _ => none

def requested (c : Conn) : Option String :=
  match c.dest with
  | .addr _ => none
  | .name n => some n

end Conn

/-- What the rules evaluated so far have added to a connection. -/
structure Meta where
  sniffed : Option String
  resolved : Bool
deriving DecidableEq, Repr

/-- A connection before the first rule. -/
def Meta.start : Meta := ⟨none, false⟩

/-- The data plane's own choices: which of the requested and the sniffed name domain items
    compare, and what fields this program only writes on rules that decide nothing, or does
    not write at all, match. -/
structure Core where
  hosts : Option String → Option String → List String
  hosts_sub : ∀ r s n, n ∈ hosts r s → r = some n ∨ s = some n
  hosts_requested : ∀ r, hosts r none = r.toList
  hosts_sniffed : ∀ s, hosts none s = s.toList
  other : Conn → Meta → String → Json → Bool

inductive Decision where
  | route (outbound : String)
  | reject
  | other
deriving DecidableEq, Repr

/-- The connection leaves the node through its own address. -/
abbrev Decision.direct : Decision := .route "direct"

section Rules

variable (core : Core) (c : Conn) (m : Meta)

/-- The addresses that address items see: a literal destination, and what `resolve` found. -/
def Conn.addresses : List IpAddr :=
  c.literal.toList ++ if m.resolved then c.resolved else []

/-- The names that domain items compare. -/
def Conn.hosts : List String := core.hosts c.requested m.sniffed

/-- Whether some address of the connection lies in one of the blocks. -/
def inCidrs (cidrs : List String) (as : List IpAddr) : Bool :=
  cidrs.any fun t => as.any (Cidr.textContains t)

def itemMatches (key : String) (v : Json) : Bool :=
  match key with
  | "inbound" => v.texts.contains c.inbound
  | "auth_user" => v.texts.contains c.user
  | "network" => v.texts.contains c.network.asStr
  | "port" => v.nums.contains (c.port : Int)
  | "ip_version" => c.literal.any fun a => v.nums.contains (if a.isV6 then 6 else 4)
  | "ip_cidr" => inCidrs v.texts (c.addresses m)
  | "domain" => (c.hosts core m).any fun n => v.texts.contains n
  | "domain_suffix" => (c.hosts core m).any fun n => underSuffix v.texts n
  -- the action and its parameters restrict nothing
  | "action" | "outbound" | "method" | "no_drop" => true
  | "sniffer" | "timeout" | "tls_spoof" | "tls_spoof_method" => true
  | _ => core.other c m key v

def ruleMatches (rule : Json) : Bool := rule.fields.all fun kv => itemMatches core c m kv.1 kv.2

end Rules

def ruleAction (rule : Json) : String := ((rule.get? "action").bind Json.asStr).getD "route"

def ruleOutbound (rule : Json) : String := ((rule.get? "outbound").bind Json.asStr).getD ""

def perform (c : Conn) (m : Meta) (rule : Json) : Outcome Meta Decision :=
  match ruleAction rule with
  | "sniff" => .pass { m with sniffed := m.sniffed.or (c.sniff (rule.idx "sniffer").texts) }
  | "resolve" => .pass { m with resolved := true }
  | "route-options" => .pass m
  | "reject" => .stop .reject
  | "route" => .stop (.route (ruleOutbound rule))
  | _ => .stop .other

def act (core : Core) (c : Conn) (m : Meta) (rule : Json) : Outcome Meta Decision :=
  if ruleMatches core c m rule then perform c m rule else .pass m

/-- The outbound for what no rule decides: `route.final`, else the first outbound. -/
def finalOutbound (doc : Json) : String :=
  match ((doc.idx "route").idx "final").asStr with
  | some tag => tag
  | none =>
    ((((doc.idx "outbounds").asArray.getD []).head?.map fun o => o.idx "tag").bind
      Json.asStr).getD "direct"

def decideBy (core : Core) (c : Conn) (rules : List Json) (final : String) : Decision :=
  match eval (act core c) Meta.start rules with
  | .stop d => d
  | .pass _ => .route final

def decision (core : Core) (doc : Json) (c : Conn) : Decision :=
  decideBy core c (routeRules doc) (finalOutbound doc)

def inboundTags (doc : Json) : List String :=
  ((doc.idx "inbounds").asArray.getD []).filterMap fun inbound => (inbound.idx "tag").asStr

/-! ### Evaluating rule literals -/

section Evaluation

variable {core : Core} {c : Conn} {m : Meta}

@[simp] theorem itemMatches_inbound (v : Json) :
    itemMatches core c m "inbound" v = v.texts.contains c.inbound := rfl

@[simp] theorem itemMatches_auth_user (v : Json) :
    itemMatches core c m "auth_user" v = v.texts.contains c.user := rfl

@[simp] theorem itemMatches_network (v : Json) :
    itemMatches core c m "network" v = v.texts.contains c.network.asStr := rfl

@[simp] theorem itemMatches_port (v : Json) :
    itemMatches core c m "port" v = v.nums.contains (c.port : Int) := rfl

@[simp] theorem itemMatches_ip_version (v : Json) :
    itemMatches core c m "ip_version" v =
      c.literal.any fun a => v.nums.contains (if a.isV6 then 6 else 4) := rfl

@[simp] theorem itemMatches_ip_cidr (v : Json) :
    itemMatches core c m "ip_cidr" v = inCidrs v.texts (c.addresses m) := rfl

@[simp] theorem itemMatches_domain (v : Json) :
    itemMatches core c m "domain" v = (c.hosts core m).any fun n => v.texts.contains n := rfl

@[simp] theorem itemMatches_domain_suffix (v : Json) :
    itemMatches core c m "domain_suffix" v =
      (c.hosts core m).any fun n => underSuffix v.texts n := rfl

@[simp] theorem itemMatches_action (v : Json) : itemMatches core c m "action" v = true := rfl

@[simp] theorem itemMatches_outbound (v : Json) : itemMatches core c m "outbound" v = true := rfl

@[simp] theorem itemMatches_method (v : Json) : itemMatches core c m "method" v = true := rfl

@[simp] theorem itemMatches_sniffer (v : Json) : itemMatches core c m "sniffer" v = true := rfl

@[simp] theorem itemMatches_timeout (v : Json) : itemMatches core c m "timeout" v = true := rfl

@[simp] theorem itemMatches_no_drop (v : Json) : itemMatches core c m "no_drop" v = true := rfl

theorem ruleMatches_object (kvs : List (String × Json)) :
    ruleMatches core c m (object kvs) =
      (lastWins kvs).all fun kv => itemMatches core c m kv.1 kv.2 :=
  Json.all_fields_object kvs _

variable {kvs : List (String × Json)} {k : String} {v rule : Json}

theorem ruleMatches_set (h : ∀ p ∈ kvs, p.1 = k → p.2 = v) :
    ruleMatches core c m ((object kvs).set k v) =
      (itemMatches core c m k v && ruleMatches core c m (object kvs)) :=
  Json.all_fields_set h _

theorem act_of_not_matches (h : ruleMatches core c m rule = false) :
    act core c m rule = .pass m := by
  simp [act, h]

theorem act_reject (ha : ruleAction rule = "reject") :
    act core c m rule = if ruleMatches core c m rule then .stop .reject else .pass m := by
  simp [act, perform, ha]

theorem act_route {tag : String} (ha : ruleAction rule = "route") (ho : ruleOutbound rule = tag) :
    act core c m rule = if ruleMatches core c m rule then .stop (.route tag) else .pass m := by
  simp [act, perform, ha, ho]

theorem act_direct (ha : ruleAction rule = "route") (ho : ruleOutbound rule = "direct") :
    act core c m rule = if ruleMatches core c m rule then .stop .direct else .pass m :=
  act_route ha ho

theorem act_resolve (ha : ruleAction rule = "resolve") :
    act core c m rule =
      .pass (if ruleMatches core c m rule then { m with resolved := true } else m) := by
  unfold act perform
  rw [ha]
  split <;> rfl

theorem act_sniff (ha : ruleAction rule = "sniff") :
    act core c m rule = .pass
      (if ruleMatches core c m rule then
        { m with sniffed := m.sniffed.or (c.sniff (rule.idx "sniffer").texts) } else m) := by
  unfold act perform
  rw [ha]
  split <;> rfl

theorem act_options (ha : ruleAction rule = "route-options") : act core c m rule = .pass m := by
  unfold act perform
  rw [ha]
  split <;> rfl

theorem matches_of_stop {d : Decision} (h : act core c m rule = .stop d) :
    ruleMatches core c m rule = true := by
  by_contra hm
  rw [Bool.not_eq_true] at hm
  rw [act_of_not_matches hm] at h
  cases h

theorem ruleAction_object (kvs : List (String × Json)) :
    ruleAction (object kvs) = ((kvs.reverse.lookup "action").bind Json.asStr).getD "route" := by
  rw [ruleAction, Json.get?_object]

theorem ruleOutbound_object (kvs : List (String × Json)) :
    ruleOutbound (object kvs) = ((kvs.reverse.lookup "outbound").bind Json.asStr).getD "" := by
  rw [ruleOutbound, Json.get?_object]

theorem ruleAction_set (h : k ≠ "action") :
    ruleAction ((object kvs).set k v) = ruleAction (object kvs) := by
  rw [ruleAction, Json.get?_set (Json.isObject_object kvs), if_neg (Ne.symm h), ruleAction]

theorem ruleOutbound_set (h : k ≠ "outbound") :
    ruleOutbound ((object kvs).set k v) = ruleOutbound (object kvs) := by
  rw [ruleOutbound, Json.get?_set (Json.isObject_object kvs), if_neg (Ne.symm h), ruleOutbound]

end Evaluation

/-! ### Whole documents -/

/-! ### One data plane and one connection -/

/-- A data plane that compares the sniffed name where there is one. -/
def sampleCore : Core where
  hosts r s := (s.or r).toList
  hosts_sub r s n h := by
    cases s with
    | none => exact .inl (by simpa using h)
    | some s => exact .inr (by simpa [eq_comm] using h)
  hosts_requested r := rfl
  hosts_sniffed s := by cases s <;> rfl
  other _ _ _ _ := false

def sampleConn : Conn where
  inbound := REALITY_INBOUND
  user := "user_1"
  network := .tcp
  dest := .name "exit.example.net"
  port := 443
  resolved := []
  sniff := fun _ => none

end SingboxVpn
