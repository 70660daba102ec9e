import SingboxVpn.Admin.Agreement
import SingboxVpn.Admin.Revision
import SingboxVpn.Pairing

/-!
# vpn-admin: pairing a relay with an exit

`apps/admin/src/pairing.rs`: the exit issues a credential of its own for one user of the relay and
hands out a bundle; the relay declares the exit as a route, puts that into force, and then gives the
credential to the user.
-/

namespace SingboxVpn.Apply

open Killable

inductive PairError where
  | role
  | exitPrincipalsDisabled
  | label
  | flow
  | keys (e : String)
  | sink
  | name (e : String)
  | load (e : String)
  | nameTaken
  | noUnusedId
  | users (e : UsersError)
  | undelivered (revoked : Bool)
  | bundle (e : CompatError)
  | path
  | noSuchUser
  | alreadyHeld
  | declare (e : CompatError)
  | write
  | candidate (e : CompatError)
  | apply (e : UsersError) (restored : Bool)
  | save
  deriving DecidableEq

/-! ### Issuing -/

/-- One to 31 lower-case letters, digits and `-`, which is not first. -/
def validLabel (label : String) : Bool :=
  decide (1 ≤ Text.len label ∧ Text.len label ≤ 31) &&
    label.toList.head?.any (fun c => c.isLower || c.isDigit) &&
    label.toList.all fun c => c.isLower || c.isDigit || c == '-'

structure IssueAnswers where
  /-- the file could be reserved, or the output is no terminal -/
  sinkReady : Bool
  save : SaveAnswers
  delivered : Bool
  revoke : SaveAnswers

section
variable (inst : Installation)

/-- How this node is reached, as a bundle states it. -/
def pairedNode (cfg : DeploymentConfig) (host : Host) : Except String PairedNode := do
  let reality ← loadRealityParams inst.ext cfg (host.keyDirectory inst)
  match reality.shortIds.head? with
  | none => .error "this node has no REALITY short id; run `vpn-admin init`"
  | some shortId => .ok {
      nodeId := cfg.nodeId
      host := Text.toAsciiLowercase cfg.publicHost
      port := cfg.reality.listenPort
      serverName := cfg.reality.handshakeServer
      realityPublicKey := reality.publicKeyHex
      realityShortId := shortId }

/-- Of the invocation, its draws and its clock. -/
def createDedicatedUser (env : Env) (name : String) (configure : CompatUser → CompatUser)
    (a : SaveAnswers) : Prog PairError Host CompatUser := do
  require ((validateUserDisplayName name).mapError .name)
  let host ← read
  let users ← require (host.users.mapError .load)
  refuse (users.any (·.name == name)) .nameTaken
  let id ← require ((generateUserId env users).mapError fun _ => .noUnusedId)
  let user := configure (buildNewOperatorUser env id name none)
  let _ ← failingWith .users (applyUsersAndSave inst env.cfg users (users ++ [user]) a)
  pure user

/-- Take back the account of a bundle that could not be delivered. -/
def removeDedicatedUser (cfg : DeploymentConfig) (id : String) (a : SaveAnswers) :
    Prog UsersError Host Applied :=
  cmdUserMutation inst cfg (fun users => users.filter (·.id != id)) a

/-- What could not be handed over is taken back. -/
def deliverOrRevoke (cfg : DeploymentConfig) (id : String) (a : IssueAnswers) :
    Prog PairError Host Unit :=
  if a.delivered then pure ()
  else do
    let revoked ← attempt (removeDedicatedUser inst cfg id a.revoke)
    fail (.undelivered revoked.isOk)

def exitUser (cfg : DeploymentConfig) (vlessFlow : EndpointVlessFlow) (u : CompatUser) :
    CompatUser :=
  { u with visionOffExperiment := vlessFlow == .none, exitPrincipal := cfg.role == .relay }

/-- Create a dedicated account and hand out a bundle with its credential. -/
def issueExit (env : Env) (label flow : String) (a : IssueAnswers) :
    Prog PairError Host ExitPairingBundle := do
  refuse (env.cfg.role == .relay && !env.cfg.exitPrincipalsEnabled) .exitPrincipalsDisabled
  refuse (!validLabel label) .label
  let vlessFlow ← require ((readFlow (.str flow)).mapError fun _ => .flow)
  let host ← read
  let node ← require ((pairedNode inst env.cfg host).mapError .keys)
  refuse (!a.sinkReady) .sink
  let user ← createDedicatedUser inst env ("peer-" ++ label) (exitUser env.cfg vlessFlow) a.save
  deliverOrRevoke inst env.cfg user.id a
  pure ⟨EXIT_BUNDLE_SCHEMA, node, vlessFlow, ⟨user.vlessUuid⟩⟩

/-! ### Accepting -/

/-- The options of `pair accept-exit`. -/
structure AcceptExitArgs where
  userId : String
  endpointId : String
  tag : Option String
  pathId : Option String
  replaceCredential : Bool

structure AcceptAnswers where
  /-- the backup and the new deployment.toml -/
  written : Bool
  apply : Answers
  restored : Bool
  rollback : Answers
  saved : Bool

/-- The named relay path, or the only one. -/
def relayPathFor (cfg : DeploymentConfig) (pathId : Option String) : Except PairError String :=
  let relayPaths := (cfg.accessPaths.filter (·.kind == RELAY_ACCESS_PATH_KIND)).map (·.id)
  match pathId, relayPaths with
  | some p, _ => if relayPaths.contains p then .ok p else .error .path
  | none, [only] => .ok only
  | none, _ => .error .path

/-- Render and apply for the stored accounts. -/
def regenerateSingboxConfig (cfg : DeploymentConfig) (a : Answers) :
    Prog UsersError Host Applied := do
  let host ← read
  let users ← require (host.users.mapError .load)
  failingWith .apply (renderAndApplySingboxConfig inst cfg users true a)

/-- Puts the declared route into force, or the old file back. -/
def applyRoute (cfg candidate : DeploymentConfig) (original : String) (a : AcceptAnswers) :
    Prog PairError Host Unit := do
  match ← attempt (regenerateSingboxConfig inst candidate a.apply) with
  | .ok _ => pure ()
  | .error e =>
    refuse (!a.restored) (.apply e false)
    Killable.step (Host.setDeployment original)
    let _ ← attempt (regenerateSingboxConfig inst cfg a.rollback)
    fail (.apply e true)

def setPeerCredential (userId endpointId uuid : String) : Store → Except String Store :=
  modifyUser userId fun u => .ok { u with peerCredentials :=
    (endpointId, .vlessReality uuid) :: u.peerCredentials.filter fun p => p.1 != endpointId }

/-- Appends the route to deployment.toml, unless it is there, and puts it into force. -/
def declareRoute (toml : Toml) (cfg : DeploymentConfig) (wanted : PeerEndpointSection)
    (a : AcceptAnswers) : Prog PairError Host Unit := do
  let host ← read
  let declared := applyPeerEndpointToml toml inst.ext host.deployment wanted
  match ← require (declared.mapError .declare) with
  | .alreadyDeclared => pure ()
  | .declared text =>
    refuse (!a.written) .write
    Killable.step (Host.setDeployment text)
    let candidate ← require ((toml.load inst.ext text).mapError .candidate)
    applyRoute inst cfg candidate.config host.deployment a

def giveCredential (userId endpointId uuid : String) (saved : Bool) : Prog PairError Host Unit := do
  let host ← read
  let users ← require (host.users.mapError .load)
  let changed := setPeerCredential userId endpointId uuid users
  let next ← require (changed.mapError fun _ => .noSuchUser)
  failingWith (fun _ => .save) (saveUsersAtomic next saved)

def wantedRoute (cfg : DeploymentConfig) (args : AcceptExitArgs) (pathId : String)
    (bundle : ExitPairingBundle) : PeerEndpointSection :=
  peerEndpointFromExitBundle args.endpointId
    (args.tag.getD (bundle.exit.nodeId ++ " · via " ++ cfg.nodeId)) pathId bundle

/-- The route comes first: until its user has a credential, nobody can use it. -/
def acceptExit (toml : Toml) (cfg : DeploymentConfig) (args : AcceptExitArgs) (document : Json)
    (a : AcceptAnswers) : Prog PairError Host Unit := do
  refuse (cfg.role != .relay) .role
  let bundle ← require ((parseExitBundle inst.ext document).mapError .bundle)
  let pathId ← require (relayPathFor cfg args.pathId)
  let host ← read
  let users ← require (host.users.mapError .load)
  match users.find? (·.id == args.userId) with
  | none => fail .noSuchUser
  | some user =>
    refuse ((user.peerCredentials.lookup args.endpointId).isSome && !args.replaceCredential)
      .alreadyHeld
    declareRoute inst toml cfg (wantedRoute cfg args pathId bundle) a
    giveCredential args.userId args.endpointId bundle.credential.uuid a.saved

end

/-! ### What issuing leaves behind -/

section
variable {inst : Installation} {env : Env} {host : Host}

/-- One account more than before, new and under an id that nobody had. -/
structure Issued (env : Env) (configure : CompatUser → CompatUser) (host : Host) (user : CompatUser)
    (s : Host) : Prop where
  store : ∃ users, host.users = .ok users ∧ s.users = .ok (users ++ [user]) ∧
    ∀ v ∈ users, v.id ≠ user.id
  account : ∃ id name, Text.startsWith "cred_" id = false ∧
    user = configure (buildNewOperatorUser env id name none)

/-- What holds when issuing fails: no account is left, unless the error says so. -/
def Withdrawn (env : Env) (host : Host) (e : PairError) (s : Host) : Prop :=
  s.users = host.users ∨
    e = .undelivered false ∧ ∃ flow user, Issued env (exitUser env.cfg flow) host user s

theorem wpk_createDedicatedUser {vlessFlow : EndpointVlessFlow} {name : String} {a : SaveAnswers} :
    wpk (createDedicatedUser inst env name (exitUser env.cfg vlessFlow) a) host
      (Issued env (exitUser env.cfg vlessFlow) host) (fun _ s => s.users = host.users)
      fun s => s.users = host.users := by
  simp only [createDedicatedUser, wpk_bind, wpk_require, wpk_read, wpk_refuse, wpk_failingWith]
  refine ⟨fun _ _ => trivial, fun _ _ => ⟨fun _ _ => trivial, fun users husers => ⟨fun _ => trivial,
    fun _ => ⟨fun _ _ => trivial, fun id hdrawn => ?_⟩⟩⟩⟩
  have hnew : NewAccount users (buildNewOperatorUser env id name none) :=
    newAccount_of_generate (Check.mapError_eq_ok.mp hdrawn)
  refine wpk_applyUsersAndSave (fun _ node => ?_) (fun _ _ => rfl) fun _ => rfl
  refine wpk_pure.mpr ⟨⟨users, Check.mapError_eq_ok.mp husers, rfl, hnew.fresh⟩, id, name, ?_, rfl⟩
  obtain ⟨uuid, rfl⟩ := hnew.id
  simp [Text.startsWith, List.isPrefixOf]

theorem filter_issued {users : List CompatUser} {user : CompatUser}
    (h : ∀ v ∈ users, v.id ≠ user.id) : (users ++ [user]).filter (·.id != user.id) = users := by
  rw [List.filter_append, List.filter_eq_self.mpr fun v hv => bne_iff_ne.mpr (h v hv)]
  simp

theorem wpk_deliverOrRevoke {vlessFlow : EndpointVlessFlow} {user : CompatUser} {a : IssueAnswers}
    {s : Host} (h : Issued env (exitUser env.cfg vlessFlow) host user s) :
    wpk (deliverOrRevoke inst env.cfg user.id a) s
      (fun _ => Issued env (exitUser env.cfg vlessFlow) host user) (Withdrawn env host)
      (Issued env (exitUser env.cfg vlessFlow) host user) := by
  obtain ⟨users, husers, hs, hfresh⟩ := h.store
  have hkept : ∀ node, Issued env (exitUser env.cfg vlessFlow) host user { s with node := node } :=
    fun _ => ⟨h.store, h.account⟩
  unfold deliverOrRevoke
  split
  · exact wpk_pure.mpr h
  · simp only [removeDedicatedUser, cmdUserMutation, wpk_bind, wpk_attempt, wpk_read, wpk_require,
      wpk_fail]
    have hleft : ∀ node, Withdrawn env host (.undelivered false) { s with node := node } :=
      fun node => .inr ⟨rfl, vlessFlow, user, hkept node⟩
    refine ⟨fun _ _ => hleft s.node, fun current hcurrent => ?_⟩
    rw [hs] at hcurrent
    cases hcurrent
    refine wpk_applyUsersAndSave (fun _ node => .inl ?_) (fun _ => hleft) hkept
    show Except.ok _ = host.users
    rw [filter_issued hfresh, husers]

/-- The bundle describes this node and the account that was added. -/
structure IssuedExit (inst : Installation) (env : Env) (host s : Host) (bundle : ExitPairingBundle)
    (user : CompatUser) : Prop
    extends Issued env (exitUser env.cfg bundle.vlessFlow) host user s where
  node : pairedNode inst env.cfg host = .ok bundle.exit
  uuid : bundle.credential.uuid = user.vlessUuid

theorem wpk_issueExit {label flow : String} {a : IssueAnswers} :
    wpk (issueExit inst env label flow a) host
      (fun bundle s => ∃ user, IssuedExit inst env host s bundle user) (Withdrawn env host)
      fun s => s.users = host.users ∨
        ∃ flow user, Issued env (exitUser env.cfg flow) host user s := by
  simp only [issueExit, wpk_bind, wpk_refuse, wpk_require, wpk_read]
  refine ⟨fun _ => .inl rfl, fun _ => ⟨fun _ => .inl rfl, fun _ => ⟨fun _ _ => .inl rfl,
    fun vlessFlow _ => ⟨fun _ _ => .inl rfl, fun node hnode => ⟨fun _ => .inl rfl, fun _ => ?_⟩⟩⟩⟩⟩
  refine wpk_createDedicatedUser.mono (fun user s hissued => ?_) (fun _ _ h => .inl h)
    fun _ h => .inl h
  refine (wpk_deliverOrRevoke hissued).mono (fun _ t ht => ?_) (fun _ _ h => h)
    fun _ h => .inr ⟨vlessFlow, user, h⟩
  exact wpk_pure.mpr ⟨user, ht, Check.mapError_eq_ok.mp hnode, rfl⟩

/-- The accounts after `pair issue-exit`: one more if it was stopped late, the one of the bundle if
    it succeeds, and the old ones if it fails, unless the error says that the new one is left. -/
theorem issue_exit_no_orphan (label flow : String) (a : IssueAnswers) (stopped : Option Nat) :
    let command := issueExit inst env label flow a
    let s := after command stopped host
    (s.users = host.users ∨ ∃ flow user, Issued env (exitUser env.cfg flow) host user s) ∧
      (∀ bundle s, Returns command host bundle s →
        ∃ user, IssuedExit inst env host s bundle user) ∧
      ∀ e, result command host = .error e → Withdrawn env host e (final command host) := by
  refine ⟨?_, fun bundle s h => wpk_issueExit.1.returns h, fun e he => wpk_issueExit.1.error he⟩
  exact (wpk_issueExit.mono (fun _ _ h => .inr ⟨_, h.imp fun _ h => h.toIssued⟩)
    (fun _ _ h => h.imp_right And.right) fun _ h => h).after stopped

/-! ### What accepting leaves behind -/

/-- The new text of deployment.toml, if the route is declared by it. -/
def RouteDeclared (toml : Toml) (ext : External) (wanted : PeerEndpointSection)
    (before after : String) : Prop :=
  ∃ outcome, applyPeerEndpointToml toml ext before wanted = .ok outcome ∧
    after = outcome.text before

/-- The accounts are the old ones, and so is deployment.toml unless the route was added. -/
structure NotYetHeld (toml : Toml) (ext : External) (endpointId : String) (host s : Host) :
    Prop where
  users : s.users = host.users
  deployment : s.deployment = host.deployment ∨
    ∃ wanted, wanted.id = endpointId ∧ RouteDeclared toml ext wanted host.deployment s.deployment

/-- What holds when the command fails: an error of applying says whether the old file is back. -/
def Refused (toml : Toml) (ext : External) (endpointId : String) (host : Host) (e : PairError)
    (s : Host) : Prop :=
  NotYetHeld toml ext endpointId host s ∧ ∀ e', e = .apply e' true → s.deployment = host.deployment

theorem mapError_ne_apply {ε α : Type} {f : ε → PairError} {r : Except ε α} {e : PairError}
    (hf : ∀ e e', f e ≠ .apply e' true) (h : r.mapError f = .error e) :
    ∀ e', e ≠ .apply e' true := by
  cases r with
  | ok a => cases h
  | error e₀ =>
    cases h
    exact hf e₀

theorem wpk_regenerate {cfg : DeploymentConfig} {a : Answers} {ok : Applied → Host → Prop}
    {failed : UsersError → Host → Prop} {killed : Host → Prop} {s : Host}
    (hok : ∀ a node, ok a { s with node := node })
    (hfailed : ∀ e node, failed e { s with node := node })
    (hkilled : ∀ node, killed { s with node := node }) :
    wpk (regenerateSingboxConfig inst cfg a) s ok failed killed := by
  simp only [regenerateSingboxConfig, wpk_bind, wpk_read, wpk_require, wpk_failingWith]
  exact ⟨fun e _ => hfailed e s.node, fun _ _ =>
    wpk_renderAndApply inst cfg hok (fun _ => hfailed _) hkilled⟩

variable {toml : Toml} {cfg : DeploymentConfig}

/-- If the route cannot be put into force, the old file comes back. -/
theorem wpk_declareRoute {wanted : PeerEndpointSection} {a : AcceptAnswers} :
    wpk (declareRoute inst toml cfg wanted a) host
      (fun _ s => s.users = host.users ∧
        RouteDeclared toml inst.ext wanted host.deployment s.deployment)
      (Refused toml inst.ext wanted.id host) (NotYetHeld toml inst.ext wanted.id host) := by
  have hold : ∀ node, NotYetHeld toml inst.ext wanted.id host { host with node := node } :=
    fun _ => ⟨rfl, .inl rfl⟩
  rw [declareRoute, wpk_bind, wpk_read, wpk_bind, wpk_require]
  refine ⟨fun _ _ => ⟨hold _, fun _ _ => rfl⟩, fun outcome houtcome => ?_⟩
  replace houtcome := Check.mapError_eq_ok.mp houtcome
  cases outcome with
  | alreadyDeclared => exact wpk_pure.mpr ⟨rfl, _, houtcome, rfl⟩
  | declared text =>
    have hnew : ∀ node, NotYetHeld toml inst.ext wanted.id host
        { host with deployment := text, node := node } :=
      fun _ => ⟨rfl, .inr ⟨wanted, rfl, _, houtcome, rfl⟩⟩
    have hlater : ∀ e : PairError, (∀ e', e ≠ .apply e' true) → ∀ node,
        Refused toml inst.ext wanted.id host e { host with deployment := text, node := node } :=
      fun _ he node => ⟨hnew node, fun e' h => absurd h (he e')⟩
    have hback : ∀ (e : PairError) node,
        Refused toml inst.ext wanted.id host e { host with node := node } :=
      fun _ node => ⟨hold node, fun _ _ => rfl⟩
    simp only [applyRoute, wpk_bind, wpk_refuse, wpk_step, wpk_require, wpk_attempt]
    refine ⟨fun _ => hback _ _, fun _ => ⟨hold _, fun e he => hlater e (mapError_ne_apply
      (fun _ _ h => (by cases h)) he) _, fun candidate _ => ?_⟩⟩
    refine wpk_regenerate (fun _ node => wpk_pure.mpr ⟨rfl, _, houtcome, rfl⟩) (fun e node => ?_)
      hnew
    refine ⟨fun _ => hlater (.apply e false) (fun _ h => (by cases h)) node,
      fun _ => ⟨hnew node, ?_⟩⟩
    exact wpk_regenerate (fun _ node => wpk_fail.mpr (hback _ node))
      (fun _ node => wpk_fail.mpr (hback _ node)) hold

structure Accepted (inst : Installation) (toml : Toml) (cfg : DeploymentConfig)
    (args : AcceptExitArgs) (document : Json) (host s : Host) (bundle : ExitPairingBundle)
    (pathId : String) : Prop where
  parsed : parseExitBundle inst.ext document = .ok bundle
  path : relayPathFor cfg args.pathId = .ok pathId
  declared : RouteDeclared toml inst.ext (wantedRoute cfg args pathId bundle) host.deployment
    s.deployment
  store : ∃ users next, host.users = .ok users ∧ s.users = .ok next ∧
    setPeerCredential args.userId args.endpointId bundle.credential.uuid users = .ok next

theorem wpk_acceptExit {args : AcceptExitArgs} {document : Json} {a : AcceptAnswers} :
    wpk (acceptExit inst toml cfg args document a) host
      (fun _ s => ∃ bundle pathId, Accepted inst toml cfg args document host s bundle pathId)
      (Refused toml inst.ext args.endpointId host)
      (NotYetHeld toml inst.ext args.endpointId host) := by
  have hold : ∀ e, Refused toml inst.ext args.endpointId host e host :=
    fun _ => ⟨⟨rfl, .inl rfl⟩, fun _ _ => rfl⟩
  rw [acceptExit, wpk_bind, wpk_refuse]
  refine ⟨fun _ => hold _, fun _ => ?_⟩
  rw [wpk_bind, wpk_require]
  refine ⟨fun _ _ => hold _, fun bundle hbundle => ?_⟩
  rw [wpk_bind, wpk_require]
  refine ⟨fun _ _ => hold _, fun pathId hpath => ?_⟩
  rw [wpk_bind, wpk_read, wpk_bind, wpk_require]
  refine ⟨fun _ _ => hold _, fun users husers => ?_⟩
  replace husers := Check.mapError_eq_ok.mp husers
  split
  · exact wpk_fail.mpr (hold _)
  rw [wpk_bind, wpk_refuse]
  refine ⟨fun _ => hold _, fun _ => wpk_bind.mpr ?_⟩
  refine wpk_declareRoute.mono ?_ (fun _ _ h => h) fun _ h => h
  rintro _ s ⟨hs, hroute⟩
  have hkept : NotYetHeld toml inst.ext args.endpointId host s := ⟨hs, .inr ⟨_, rfl, hroute⟩⟩
  simp only [giveCredential, saveUsersAtomic, wpk_bind, wpk_read, wpk_require, wpk_failingWith,
    wpk_refuse, wpk_step]
  refine ⟨fun _ h => ?_, fun current hcurrent => ⟨fun e he => ⟨hkept, fun e' h =>
    absurd h (mapError_ne_apply (fun _ _ h => (by cases h)) he e')⟩, fun next hnext => ⟨fun _ =>
    ⟨hkept, fun _ h => (by cases h)⟩, fun _ => ⟨hkept, bundle, pathId,
      Check.mapError_eq_ok.mp hbundle, hpath, hroute, users, next, husers, rfl, ?_⟩⟩⟩⟩
  · rw [hs, husers] at h
    cases h
  · rw [hs, husers] at hcurrent
    cases hcurrent
    exact Check.mapError_eq_ok.mp hnext

/-- Wherever `pair accept-exit` ends: deployment.toml is the old one, or the old one with other
    peers; the accounts are the old ones, or the route is declared and its user has the credential.
    If the error says so, the old file is back. -/
theorem accept_exit_fail_closed (args : AcceptExitArgs) (document : Json) (a : AcceptAnswers)
    (stopped : Option Nat) :
    let command := acceptExit inst toml cfg args document a
    let s := after command stopped host
    (s.deployment = host.deployment ∨ ∃ old new, toml.load inst.ext host.deployment = .ok old ∧
        toml.load inst.ext s.deployment = .ok new ∧ new = old.withPeers new.config.peerEndpoints) ∧
      (s.users = host.users ∨
        ∃ bundle pathId, Accepted inst toml cfg args document host s bundle pathId) ∧
      ∀ e, result command host = .error (.apply e true) →
        (final command host).deployment = host.deployment := by
  have hpeers : ∀ {wanted : PeerEndpointSection} {text : String},
      RouteDeclared toml inst.ext wanted host.deployment text →
      ∃ old new, toml.load inst.ext host.deployment = .ok old ∧ toml.load inst.ext text = .ok new ∧
        new = old.withPeers new.config.peerEndpoints := by
    rintro wanted text ⟨outcome, houtcome, rfl⟩
    exact applyPeerEndpointToml_keeps houtcome
  have hrun : wpk (acceptExit inst toml cfg args document a) host _ _ _ := wpk_acceptExit
  have hs := wpk.after (hrun.mono (fun _ _ => Or.inr) (fun _ _ h => Or.inl h.1) fun _ => Or.inl)
    stopped
  refine ⟨?_, hs.imp_left NotYetHeld.users, fun e he => (hrun.1.error he).2 e rfl⟩
  rcases hs with h | ⟨bundle, pathId, h⟩
  · refine h.deployment.imp_right fun hdeclared => ?_
    obtain ⟨wanted, -, hroute⟩ := hdeclared
    exact hpeers hroute
  · exact .inr (hpeers h.declared)

/-! ### Both nodes -/

variable {args : AcceptExitArgs} {bundle : ExitPairingBundle}

/-- On a route of an accepted file, a client of a user who holds the credential is given the
    parameters of the bundle. -/
theorem contract_of_held {ext : External} {peer : PeerEndpointSection} {pathId : String}
    {user : CompatUser} (hvalid : peer.validate ext = .ok ()) (hid : peer.id = args.endpointId)
    (hroute : sameRoute peer (wantedRoute cfg args pathId bundle) = true)
    (hheld : user.peerCredentials.lookup args.endpointId =
      some (.vlessReality bundle.credential.uuid)) :
    (peer.host = bundle.exit.host ∧ peer.port = bundle.exit.port) ∧
      ∃ ep, peer.toCompatEndpoint ext = .ok ep ∧
        ∃ built, contractEndpointOpt user ep .vision none = .ok (some built) ∧
        built.host = bundle.exit.host ∧ built.port = bundle.exit.port ∧
        built.serverName = bundle.exit.serverName ∧
        ∃ reality, built.params = .vlessReality bundle.credential.uuid
          (if bundle.vlessFlow = .none then none else some VLESS_FLOW_VISION) reality := by
  simp only [sameRoute, wantedRoute, peerEndpointFromExitBundle, Bool.and_eq_true, beq_iff_eq]
    at hroute
  obtain ⟨⟨⟨⟨⟨⟨⟨⟨hhost, hport⟩, htransport⟩, hname⟩, -⟩, -⟩, -⟩, hflow⟩, href⟩ := hroute
  simp only [PeerEndpointSection.toCompatEndpoint, hvalid, htransport, hname, href, hflow]
  refine ⟨⟨hhost, hport⟩, _, rfl, ?_⟩
  simp only [contractEndpointOpt, Option.getD_none, hid, hheld, resolveCredential,
    PeerCredential.transport, transportParams, ne_eq, not_true_eq_false, if_false, bind,
    Except.bind]
  refine ⟨_, rfl, hhost, hport, rfl, ?_⟩
  split <;> exact ⟨_, rfl⟩

theorem exists_holder {userId endpointId uuid : String} {users next : List CompatUser}
    (h : setPeerCredential userId endpointId uuid users = .ok next) :
    ∃ user ∈ next, user.id = userId ∧
      user.peerCredentials.lookup endpointId = some (.vlessReality uuid) := by
  obtain ⟨before, u, after, user, -, hid, hmade, rfl⟩ := modifyUser_ok h
  cases hmade
  exact ⟨_, List.mem_append_right _ List.mem_cons_self, hid, List.lookup_cons_self⟩

/-- The exit's document lists the account, with the flow that the bundle names. -/
theorem account_accepted {s : Host} {account : CompatUser} {users : List CompatUser}
    {reality : RealityServerParams} {hysteria : Hysteria2ServerParams} {now : Int} {doc : Json}
    {params : RealityParams} (h : IssuedExit inst env host s bundle account)
    (husers : s.users = .ok users) (htime : CompatUser.LegacyTime now)
    (hdoc : renderServerConfigForDeployment inst.ext env.cfg users reality hysteria now = .ok doc) :
    Accepts doc (.vlessReality bundle.credential.uuid
      (if bundle.vlessFlow = .none then none else some VLESS_FLOW_VISION) params) := by
  obtain ⟨old, -, hs, -⟩ := h.store
  obtain ⟨id, name, hown, haccount⟩ := h.account
  obtain rfl : old ++ [account] = users := Except.ok.inj (hs.symm.trans husers)
  refine (accepts_vless_iff hdoc).mpr ⟨(account, account.legacyGrant), ?_, ?_, ?_⟩
  · refine legacy_listed (List.mem_append_right _ (List.mem_singleton_self _)) ?_ ?_ htime
    · rw [haccount]
      rfl
    · simp [haccount, CompatUser.isActive, exitUser, buildNewOperatorUser, newUser, hown]
  · exact h.uuid.symm
  · rw [haccount]
    show (if bundle.vlessFlow == .none then "" else "xtls-rprx-vision") = _
    cases bundle.vlessFlow <;> rfl

/-- After both commands the relay's file declares the exit that issued the bundle, the relay
    forwards to it, and what the clients of its user present there is accepted. -/
theorem paired_route_accepted {inst' : Installation} {label flow : String} {ia : IssueAnswers}
    {exitHost exitHost' relayHost relayHost' : Host} {aa : AcceptAnswers}
    {exitUsers : List CompatUser} {reality : RealityServerParams}
    {hysteria : Hysteria2ServerParams} {now : Int} {doc : Json}
    (hport : env.cfg.reality.listenPort < 2 ^ 16)
    (hreads : ∀ pathId, relayPathFor cfg args.pathId = .ok pathId →
      toml.ReadsPeer inst'.ext (wantedRoute cfg args pathId bundle))
    (hissue : Returns (issueExit inst env label flow ia) exitHost bundle exitHost')
    (haccept : Returns (acceptExit inst' toml cfg args bundle.toValue aa) relayHost () relayHost')
    (husers : exitHost'.users = .ok exitUsers)
    (hdoc : renderServerConfigForDeployment inst.ext env.cfg exitUsers reality hysteria now =
      .ok doc) (htime : CompatUser.LegacyTime now) :
    ∃ file peer ep relayUsers, toml.load inst'.ext relayHost'.deployment = .ok file ∧
      peer ∈ file.config.peerEndpoints ∧ peer.id = args.endpointId ∧
      (file.config.role = .relay → file.config.viaOwnListener peer = true →
        ⟨Text.toAsciiLowercase env.cfg.publicHost, env.cfg.reality.listenPort⟩ ∈
          file.config.relayTargets) ∧
      peer.toCompatEndpoint inst'.ext = .ok ep ∧ relayHost'.users = .ok relayUsers ∧
      ∃ user ∈ relayUsers, user.id = args.userId ∧
        ∃ built, contractEndpointOpt user ep .vision none = .ok (some built) ∧
          built.host = Text.toAsciiLowercase env.cfg.publicHost ∧
          built.port = env.cfg.reality.listenPort ∧
          built.serverName = env.cfg.reality.handshakeServer ∧ Accepts doc built.params := by
  obtain ⟨account, hissued⟩ := wpk_issueExit.1.returns hissue
  obtain ⟨b, pathId, haccepted⟩ := wpk_acceptExit.1.returns haccept
  obtain ⟨reality₀, -, hnode⟩ := Check.bind_eq_ok.mp hissued.node
  split at hnode
  · cases hnode
  replace hnode := (Except.ok.inj hnode).symm
  -- the relay has read the bundle that the exit wrote
  obtain ⟨-, -, -, rfl⟩ :=
    (parseExitBundle_toValue (by rw [hnode]; exact hport)).mp haccepted.parsed
  obtain ⟨outcome, houtcome, htext⟩ := haccepted.declared
  obtain ⟨file, peer, hfile, hfind, hroute⟩ := applyPeerEndpointToml_route
    (hreads pathId haccepted.path) houtcome
  have hmem := List.mem_of_find?_eq_some hfind
  have hid : peer.id = args.endpointId := by
    simpa [wantedRoute, peerEndpointFromExitBundle] using List.find?_some hfind
  obtain ⟨users, next, -, hnext, hset⟩ := haccepted.store
  obtain ⟨user, huser, hown, hheld⟩ := exists_holder hset
  have hvalid := ((DeploymentConfig.peers_of_validate (Toml.load_valid hfile)).1 peer hmem).valid
  obtain ⟨⟨hto, hat⟩, ep, hep, built, hbuilt, hhost, hport, hname, params, hparams⟩ :=
    contract_of_held hvalid hid hroute hheld
  refine ⟨file, peer, ep, next, htext ▸ hfile, hmem, hid, fun hrole hvia => ?_, hep, hnext, user,
    huser, hown, built, hbuilt, ?_, ?_, ?_, ?_⟩
  · exact DeploymentConfig.mem_relayTargets.mpr ⟨hrole, peer, hmem, hvia, by rw [hto, hnode],
      by rw [hat, hnode]⟩
  · rw [hhost, hnode]
  · rw [hport, hnode]
  · rw [hname, hnode]
  · rw [hparams]
    exact account_accepted hissued husers htime hdoc

end

def sampleBundle : ExitPairingBundle where
  schema := EXIT_BUNDLE_SCHEMA
  exit := ⟨"exit-1", "exit.example.net", 443, "www.example.org", samplePublicKey, "ab"⟩
  vlessFlow := .vision
  credential := ⟨"00000000-0000-4000-8000-000000000002"⟩

def sampleAccept : AcceptExitArgs := ⟨"user_1", "exit-1-via", none, none, false⟩

/-- A relay that declares no exit yet. -/
def firstRelay : DeploymentConfig := { sampleRelay with peerEndpoints := [] }

def sampleWanted : PeerEndpointSection :=
  wantedRoute firstRelay sampleAccept "via-relay" sampleBundle

@[irreducible] def relayText : String :=
  "schema_version = 2\nnode_id = \"relay-1\"\nrole = \"relay\"\n" ++
    "public_host = \"relay.example.net\"\nsubscription_host = \"relay.example.net\"\n\n" ++
    "[reality]\nlisten_port = 443\nhandshake_server = \"www.example.org\"\n\n" ++
    "[hysteria2]\nlisten_port = 8443\n\n[subscription]\nlisten_port = 8080\n" ++
    "profile_title = \"Example\"\n\n[exit_principals]\nenabled = true\n\n" ++
    "[[access_paths]]\nid = \"via-relay\"\nkind = \"relay\"\n" ++
    "via_endpoint_id = \"reality-1\"\ncapabilities = [\"tcp\"]\n"

@[irreducible] def pairedText : String := appendPeer relayText sampleWanted

def relayTable (peers : List Json) : Table :=
  [("hysteria2", .obj [("listen_port", .num 8443)]), ("node_id", .str "relay-1"),
    ("peer_endpoints", .arr peers), ("public_host", .str "relay.example.net"),
    ("reality", .obj [("handshake_server", .str "www.example.org"), ("listen_port", .num 443)])]

def wantedValue : Json :=
  .object [("id", .str "exit-1-via"), ("tag", .str "exit-1 · via relay-1"),
    ("host", .str "exit.example.net"), ("port", .num 443), ("transport", .str "vless_reality"),
    ("server_name", .str "www.example.org"), ("reality_public_key", .str samplePublicKey),
    ("reality_short_id", .str "ab"), ("failure_domain", .str "exit:exit-1"),
    ("path", .str "via-relay")]

/-- The crate on the file of that relay, and on the one with the block of the route. -/
def pairedToml : Toml where
  parse text :=
    if text = relayText then .ok (relayTable [])
    else if text = pairedText then .ok (relayTable [wantedValue])
    else .error "expected a table"
  print _ := .error "unsupported table"
  others view :=
    if view ["peer_endpoints"] = some (.arr []) then .ok ⟨firstRelay, none, .null⟩
    else if view ["peer_endpoints"] = some (.arr [wantedValue]) then
      .ok ⟨{ firstRelay with peerEndpoints := [sampleWanted] }, none, .null⟩
    else .error "unknown peers"

/-- Only blanks are taken from the text, and a table is added. -/
theorem count_appendPeer (original : String) (wanted : PeerEndpointSection) :
    original.toList.count '[' < (appendPeer original wanted).toList.count '[' := by
  have htrim : (Lines.trimEnd original.toList).count '[' = original.toList.count '[' := by
    have hblank : (original.toList.reverse.takeWhile Text.isWhitespace).count '[' = 0 := by
      refine List.count_eq_zero.mpr fun hmem => ?_
      exact absurd (List.mem_takeWhile_imp hmem) (by decide)
    have hsplit := congrArg (List.count '[')
      (List.takeWhile_append_dropWhile (p := Text.isWhitespace) (l := original.toList.reverse))
    rw [List.count_append, hblank, Nat.zero_add, List.count_reverse] at hsplit
    rw [Lines.trimEnd, List.count_reverse, hsplit]
  have hle : ∀ x y : String, x.toList.count '[' ≤ (x ++ y).toList.count '[' := by
    intro x y
    rw [String.toList_append, List.count_append]
    exact Nat.le_add_right _ _
  have hblock : 2 ≤ (peerEndpointBlock wanted).toList.count '[' := by
    unfold peerEndpointBlock
    iterate 12 refine le_trans ?_ (hle _ _)
    decide
  rw [appendPeer, String.toList_append, String.toList_append, String.toList_ofList,
    List.count_append, List.count_append, htrim]
  omega

theorem count_pairedText : relayText.toList.count '[' < pairedText.toList.count '[' := by
  rw [pairedText]
  exact count_appendPeer relayText sampleWanted

theorem relayText_loads : pairedToml.load sampleExternal relayText = .ok ⟨firstRelay, none, .null⟩ := by
  have hparse : pairedToml.parse relayText = .ok (relayTable []) := if_pos rfl
  rw [Toml.load, hparse]
  decide +kernel

theorem pairedText_loads : pairedToml.load sampleExternal pairedText =
    .ok ⟨{ firstRelay with peerEndpoints := [sampleWanted] }, none, .null⟩ := by
  have hne : pairedText ≠ relayText := fun h => by
    have hcount := count_pairedText
    rw [h] at hcount
    exact absurd hcount (lt_irrefl _)
  have hparse : pairedToml.parse pairedText = .ok (relayTable [wantedValue]) :=
    (if_neg hne).trans (if_pos rfl)
  rw [Toml.load, hparse]
  decide +kernel

theorem pairedToml_reads : pairedToml.ReadsPeer sampleExternal sampleWanted := by
  intro original old new hold hnew
  have hknown : ∀ {text file}, pairedToml.load sampleExternal text = .ok file →
      text = relayText ∨ text = pairedText := by
    intro text file hload
    obtain ⟨t, ht, -⟩ := Toml.load_ok hload
    by_contra! hne
    simp [pairedToml, hne.1, hne.2] at ht
  rcases hknown hold with rfl | rfl
  · rw [← pairedText] at hnew
    rw [Except.ok.inj (hold.symm.trans relayText_loads),
      Except.ok.inj (hnew.symm.trans pairedText_loads)]
    rfl
  · -- the file with the block twice is unknown
    have hfirst := count_pairedText
    have hsecond := count_appendPeer pairedText sampleWanted
    rcases hknown hnew with h | h
    · rw [h] at hsecond
      exact absurd (hfirst.trans hsecond) (lt_irrefl _)
    · rw [h] at hsecond
      exact absurd hsecond (lt_irrefl _)

def sampleSave : SaveAnswers := ⟨⟨0, smooth⟩, true, ⟨0, smooth⟩⟩

def sampleIssue : Prog PairError Host ExitPairingBundle :=
  issueExit sampleInstallation (sampleExitEnv otherDraws) "relay" "vision"
    ⟨true, sampleSave, true, sampleSave⟩

def samplePairing : Prog PairError Host Unit :=
  acceptExit sampleInstallation pairedToml firstRelay sampleAccept sampleBundle.toValue
    ⟨true, ⟨0, smooth⟩, true, ⟨0, smooth⟩, true⟩

def sampleRelayHost : Host := { sampleHost with users := .ok [sampleUser], deployment := relayText }

def samplePeer : CompatUser :=
  exitUser sampleExit .vision
    (buildNewOperatorUser (sampleExitEnv otherDraws) "user_2" "peer-relay" none)

theorem sampleWanted_declared :
    applyPeerEndpointToml pairedToml sampleExternal relayText sampleWanted =
      .ok (.declared pairedText) := by
  have hnew := pairedText_loads
  rw [pairedText] at hnew ⊢
  exact applyPeerEndpointToml_declared relayText_loads rfl hnew rfl rfl

/-- The route is appended to the file, the candidate goes live, and the user gets the credential. -/
theorem samplePairing_returns : ∃ host, Returns samplePairing sampleRelayHost () host ∧
    host.deployment = pairedText := by
  let placed : Host := { sampleRelayHost with deployment := pairedText }
  let live := final (regenerateSingboxConfig sampleInstallation
    { firstRelay with peerEndpoints := [sampleWanted] } ⟨0, smooth⟩) placed
  have happly : result (regenerateSingboxConfig sampleInstallation
      { firstRelay with peerEndpoints := [sampleWanted] } ⟨0, smooth⟩) placed = .ok .live := by
    decide +kernel
  have hdeclare : Returns (declareRoute sampleInstallation pairedToml firstRelay sampleWanted
      ⟨true, ⟨0, smooth⟩, true, ⟨0, smooth⟩, true⟩) sampleRelayHost () live := by
    rw [declareRoute, returns_bind_read, returns_bind_require]
    refine ⟨.declared pairedText, Check.mapError_eq_ok.mpr sampleWanted_declared, ?_⟩
    refine returns_bind_refuse.mpr ⟨rfl, returns_bind.mpr ⟨(), placed, returns_step.mpr rfl, ?_⟩⟩
    refine returns_bind_require.mpr ⟨_, Check.mapError_eq_ok.mpr pairedText_loads, ?_⟩
    exact returns_bind.mpr ⟨.ok .live, live, returns_attempt.mpr ⟨happly, rfl⟩,
      returns_pure.mpr ⟨rfl, rfl⟩⟩
  have hgive : result (giveCredential "user_1" "exit-1-via"
      "00000000-0000-4000-8000-000000000002" true) live = .ok () := by
    decide +kernel
  refine ⟨final (giveCredential "user_1" "exit-1-via" "00000000-0000-4000-8000-000000000002" true)
    live, ?_, rfl⟩
  refine returns_bind_refuse.mpr ⟨rfl, returns_bind_require.mpr ⟨sampleBundle, rfl, ?_⟩⟩
  refine returns_bind_require.mpr ⟨"via-relay", rfl, returns_bind_read.mpr ?_⟩
  refine returns_bind_require.mpr ⟨[sampleUser], rfl, ?_⟩
  exact returns_bind_refuse.mpr ⟨rfl, returns_bind.mpr ⟨(), live, hdeclare, hgive, rfl⟩⟩

/-- The route is appended to the relay's file. -/
theorem first_pairing_accepted :
    result sampleIssue sampleHost = .ok sampleBundle ∧
      (∃ host, Returns samplePairing sampleRelayHost () host ∧ host.deployment = pairedText) ∧
      ∃ (doc : Json) (built : Endpoint), built.host = "exit.example.net" ∧
        Accepts doc built.params := by
  have hissued : result sampleIssue sampleHost = .ok sampleBundle := by decide +kernel
  obtain ⟨relayHost, hpaired, htext⟩ := samplePairing_returns
  have husers : (final sampleIssue sampleHost).users = .ok [samplePeer] := by decide +kernel
  obtain ⟨doc, hdoc⟩ := sampleExit_renders [samplePeer] sampleReality 0 rfl
  have hreads : ∀ pathId, relayPathFor firstRelay sampleAccept.pathId = .ok pathId →
      pairedToml.ReadsPeer sampleInstallation.ext
        (wantedRoute firstRelay sampleAccept pathId sampleBundle) := by
    intro pathId hpath
    obtain rfl : "via-relay" = pathId := Except.ok.inj hpath
    exact pairedToml_reads
  obtain ⟨_, _, _, _, _, _, _, _, _, _, _, _, _, built, _, hhost, _, _, haccepts⟩ :=
    paired_route_accepted (by decide) hreads ⟨hissued, rfl⟩ hpaired husers hdoc (by decide)
  exact ⟨hissued, ⟨relayHost, hpaired, htext⟩, doc, built, hhost.trans (by decide +kernel), haccepts⟩

end SingboxVpn.Apply
