import SingboxVpn.Server.Render

namespace SingboxVpn

open Text (debug)

/-!
# The user commands of `vpn-admin`

Every command loads the account store, changes it, and saves it, most of them only after the
server document of the new store has been rendered and applied.  A command that fails leaves
the store as it was, so a run is a sequence of successful commands.

* `StoreChange`, `step_change` — the four things a command can do to the store.
* `Reachable`, `Reachable.invariant`, `Reachable.forall_account` — runs from the empty store,
  and what holds after each.
-/

/-! ### Invocations -/

/-- The random values of one invocation; of the account ids, the first unused one is taken. -/
structure Draws where
  userIds : List String
  uuid : String
  hysteria2Password : String
  tokenHash : String
  principalHex : String

structure Env where
  ext : External
  cfg : DeploymentConfig
  reality : Except String RealityServerParams
  hysteria : Hysteria2ServerParams
  offlineMutationAllowed : Bool
  /-- The clock when the command reads it, and again when the document is rendered. -/
  now : Int
  applyNow : Int
  /-- Validating and loading the rendered document into the live service. -/
  applied : Except String Unit
  /-- Writing the store. -/
  saved : Except String Unit
  draws : Draws

inductive UserCommand where
  | create (name : String) (expiresAt : Option Int)
  | createProbe (name : Option String)
  | setEnabled (userId : String) (enabled : Bool)
  | setExpiry (userId : String) (expiresAt : Option Int)
  | rotateToken (userId : String)
  | rotateVless (userId : String)
  | rotateHysteria (userId : String)
  | rotateCredentials (userId : String)
  | renewNative (userId : String)
  | remove (userId : String)
  | peerSet (userId endpointId : String) (uuid password : Option String) (requireExisting : Bool)
  | peerRemove (userId endpointId : String)
  | visionOffExperiment (userId : String) (on : Bool)
  | googleEgressHairpin (userId : String) (on : Bool)
deriving DecidableEq, Repr

abbrev Store := List CompatUser

/-! ### Saving and applying -/

/-- The text of an error, as the command line prints its outermost context. -/
def renderContext : String := "rendering the role-aware sing-box server config"

def saveUsers (env : Env) (users : Store) : Except String Store := do
  env.saved
  .ok users

/-- Render and load the proposed store, then publish it.  Without keys nothing is rendered,
    and the change is refused unless offline changes are allowed. -/
def applyUsersAndSave (env : Env) (users : Store) : Except String Store :=
  match env.reality with
  | .error _ =>
    if env.offlineMutationAllowed then saveUsers env users
    else .error ("refusing to commit an authorization mutation without a complete, coherent " ++
      "REALITY keyset; run `vpn-admin init` first")
  | .ok reality =>
    match renderServerConfigForDeployment env.ext env.cfg users reality env.hysteria
        env.applyNow with
    -- a store that does not render is never saved
    | .error _ => .error renderContext
    | .ok _ => do
      env.applied
      saveUsers env users

def modifyUser (id : String) (f : CompatUser → Except String CompatUser) :
    Store → Except String Store
  | [] => .error ("no such user: " ++ id)
  | u :: users =>
    if u.id = id then do .ok ((← f u) :: users)
    else do .ok (u :: (← modifyUser id f users))

/-- Change one account, apply and save. -/
def rotateAndApply (env : Env) (id : String) (mutate : CompatUser → Except String CompatUser)
    (users : Store) : Except String Store := do
  applyUsersAndSave env (← modifyUser id mutate users)

/-- Change one account and save, without touching the server document. -/
def changeAndSave (env : Env) (id : String) (mutate : CompatUser → Except String CompatUser)
    (users : Store) : Except String Store := do
  saveUsers env (← modifyUser id mutate users)

/-! ### New accounts -/

/-- The longest display name, in characters. -/
def MAX_USER_DISPLAY_NAME_CHARS : Nat := 128

/-- The name of a probe account unless another is given. -/
def PROBE_USER_NAME : String := "arcana-probe"

/-- The name of the account for the node's own self-test. -/
def RESERVED_SELFTEST_USER_NAME : String := "arcana-selftest"

/-- No control characters, and not too long. -/
def validateUserDisplayName (name : String) : Except String Unit := do
  Check.refuseIf (name.toList.any Text.isControl)
    "--name must not contain control characters (newline, tab, escape, ...)"
  Check.refuseIf (MAX_USER_DISPLAY_NAME_CHARS < name.toList.length)
    ("--name must be at most " ++ toString MAX_USER_DISPLAY_NAME_CHARS ++ " characters")

/-- The first drawn id that no account has. -/
def generateUserId (env : Env) (users : Store) : Except String String :=
  match (env.draws.userIds.map ("user_" ++ ·)).find? fun id => !users.any (·.id == id) with
  | some id => .ok id
  | none => .error "no unused user id drawn"

def newUser (env : Env) (id name : String) (expiresAt : Option Int) (isReservedProbe : Bool) :
    CompatUser where
  id := id
  name := name
  enabled := true
  vlessUuid := env.draws.uuid
  hysteria2Password := env.draws.hysteria2Password
  subscriptionTokenHashHex := env.draws.tokenHash
  createdAt := env.now
  expiresAt := expiresAt
  visionOffExperiment := false
  googleEgressHairpin := false
  exitPrincipal := false
  peerCredentials := []
  isReservedProbe := isReservedProbe
  credentials := []

/-- The record of `user create`: no grant, so that the account's own secrets stay in force. -/
def buildNewOperatorUser (env : Env) (id name : String) (expiresAt : Option Int) : CompatUser :=
  newUser env id name expiresAt false

/-- Add an account with fresh credentials. -/
def cmdUserCreate (env : Env) (name : String) (expiresAt : Option Int) (users : Store) :
    Except String Store := do
  validateUserDisplayName name
  let id ← generateUserId env users
  applyUsersAndSave env (users ++ [buildNewOperatorUser env id name expiresAt])

/-- Ensure that a reserved probe account exists; an ordinary account is never promoted. -/
def cmdUserCreateProbe (env : Env) (name : Option String) (users : Store) :
    Except String Store := do
  let name := name.getD RESERVED_SELFTEST_USER_NAME
  Check.refuseIf (name != PROBE_USER_NAME && name != RESERVED_SELFTEST_USER_NAME)
    ("--name must be " ++ debug PROBE_USER_NAME ++ " or " ++ debug RESERVED_SELFTEST_USER_NAME ++
      ": those are the only reserved internal probe principals")
  match users.find? (·.name == name) with
  | some existing =>
    -- creating it twice changes nothing
    if existing.isReservedProbe then .ok users
    else .error ("a user named " ++ debug name ++ " already exists and is NOT a reserved probe " ++
      "principal — refusing to silently upgrade it. Rename/remove that user first if this " ++
      "name must become the reserved probe.")
  | none => do
    let id ← generateUserId env users
    applyUsersAndSave env (users ++ [newUser env id name none true])

/-! ### Changes of one account -/

/-- Enable or disable an account. -/
def cmdUserSetEnabled (env : Env) (id : String) (enabled : Bool) : Store → Except String Store :=
  rotateAndApply env id fun u => .ok { u with enabled := enabled }

/-- Moving the expiry of an account that stays active, or stays inactive, does not touch the
    server document. -/
def cmdUserSetExpiry (env : Env) (id : String) (expiresAt : Option Int) (users : Store) :
    Except String Store := do
  let next ← modifyUser id (fun u => .ok { u with expiresAt := expiresAt }) users
  -- the document is only touched when the account starts or stops being active now
  let activeIn (s : Store) := (s.find? (·.id == id)).map (·.isActive env.now)
  if activeIn users = activeIn next then saveUsers env next
  else applyUsersAndSave env next

/-- Set or clear the flag of the Vision-off experiment. -/
def cmdUserVisionOffExperiment (env : Env) (id : String) (on : Bool) :
    Store → Except String Store :=
  rotateAndApply env id fun u => .ok { u with visionOffExperiment := on }

/-- Set or clear the hairpin flag. -/
def cmdUserGoogleEgressHairpin (env : Env) (id : String) (on : Bool) :
    Store → Except String Store :=
  rotateAndApply env id fun u => .ok { u with googleEgressHairpin := on }

/-- Give an account a new subscription token. -/
def cmdUserRotateToken (env : Env) (id : String) : Store → Except String Store :=
  changeAndSave env id fun u => .ok { u with subscriptionTokenHashHex := env.draws.tokenHash }

/-- Give an account a new VLESS id. -/
def cmdUserRotateVless (env : Env) (id : String) : Store → Except String Store :=
  rotateAndApply env id fun u => .ok { u with vlessUuid := env.draws.uuid }

/-- Give an account a new Hysteria2 password. -/
def cmdUserRotateHysteria (env : Env) (id : String) : Store → Except String Store :=
  rotateAndApply env id fun u => .ok { u with hysteria2Password := env.draws.hysteria2Password }

/-- Give an account both new credentials. -/
def cmdUserRotateCredentials (env : Env) (id : String) : Store → Except String Store :=
  rotateAndApply env id fun u =>
    .ok { u with vlessUuid := env.draws.uuid, hysteria2Password := env.draws.hysteria2Password }

/-! ### Native grants -/

/-- The window of a native grant, in seconds. -/
def NATIVE_LEASE_SECS : Int := 30 * 60

/-- The stored grants of a class that authorize at an instant. -/
def liveGrants (user : CompatUser) (cls : CredentialClass) (nowUnix : Int) :
    List CredentialGrant :=
  user.credentials.filter fun g => decide (g.cls = cls) && grantIsAuthorized g nowUnix

/-- Of these the one with the greatest generation, the last of several. -/
def currentGrant (user : CompatUser) (cls : CredentialClass) (nowUnix : Int) :
    Option CredentialGrant :=
  (liveGrants user cls nowUnix).foldl
    (fun best g => match best with
      | none => some g
      | some b => if b.generation ≤ g.generation then some g else some b) none

/-- A grant's end may move forward while the grant is in force. -/
def CredentialGrant.renewUntil (g : CredentialGrant) (newValidUntil nowUnix : Int) :
    Except String CredentialGrant := do
  let label := "credential " ++ g.principalId
  Check.refuseIf (g.isRevokedAt nowUnix)
    (label ++ " was revoked and cannot be renewed; mint a new one")
  Check.refuseIf (decide (g.validUntil ≤ nowUnix))
    (label ++ " expired at " ++ toString g.validUntil ++ " (now " ++ toString nowUnix ++
      ") and cannot be renewed; mint a new one")
  Check.refuseIf (decide (newValidUntil < g.validUntil))
    (label ++ " cannot be shortened from " ++ toString g.validUntil ++ " to " ++
      toString newValidUntil ++ "; mint a superseding credential instead")
  .ok { g with validUntil := newValidUntil }

def renewFirst (principalId : String) (newValidUntil nowUnix : Int) :
    List CredentialGrant → Except String (List CredentialGrant)
  | [] => .ok []
  | g :: gs =>
    if g.principalId = principalId then do
      .ok ((← g.renewUntil newValidUntil nowUnix) :: gs)
    else do .ok (g :: (← renewFirst principalId newValidUntil nowUnix gs))

def nativePrincipal (env : Env) : String := "native_" ++ env.draws.principalHex

def mintNative (env : Env) : CredentialGrant where
  principalId := nativePrincipal env
  cls := .native
  vlessUuid := env.draws.uuid
  hysteria2Password := env.draws.hysteria2Password
  validFrom := env.now
  validUntil := wrap64 (env.now + NATIVE_LEASE_SECS)
  revokedAt := none
  generation := 1

/-- Extend the current native grant, or mint one. -/
def renewNative (env : Env) (u : CompatUser) : Except String CompatUser :=
  match currentGrant u .native env.now with
  | some g => do
    let credentials ← renewFirst g.principalId (wrap64 (env.now + NATIVE_LEASE_SECS)) env.now
      u.credentials
    .ok { u with credentials := credentials }
  -- from here on the account's own secrets are out of force
  | none => .ok { u with credentials := u.credentials ++ [mintNative env] }

/-- Renew the native grant of one account. -/
def cmdUserRenewNative (env : Env) (id : String) : Store → Except String Store :=
  rotateAndApply env id (renewNative env)

/-! ### Peer credentials -/

/-- The declared peer with this id. -/
def findPeerEndpoint (cfg : DeploymentConfig) (endpointId : String) :
    Except String PeerEndpointSection :=
  match cfg.peerEndpoints.find? (·.id == endpointId) with
  | some peer => .ok peer
  | none => .error ("no [[peer_endpoints]] entry with id " ++ debug endpointId ++
      " in deployment.toml (declared: " ++ Text.debugList (cfg.peerEndpoints.map (·.id)) ++
      "). Declare the endpoint before giving anyone a credential for it, so a typo cannot " ++
      "create a credential nothing will ever read.")

/-- A credential for the endpoint's own transport. -/
def peerCredentialFromFlags (peer : PeerEndpointSection) (uuid password : Option String) :
    Except String PeerCredential :=
  let label := "peer endpoint " ++ debug peer.id
  match peer.transport, uuid, password with
  | .vlessReality, some uuid, none =>
    let uuid := Text.trim uuid
    if isUuidV4Shaped uuid then .ok (.vlessReality uuid)
    else .error (label ++ " is vless-reality, and the supplied value (" ++
      toString uuid.toList.length ++ " characters, not shown) is not an 8-4-4-4-12 hex UUID. " ++
      "Paste the client id the PEER server issued for this user.")
  | .hysteria2, none, some password =>
    if Text.isBlank password then .error (label ++ ": password must not be empty")
    else .ok (.hysteria2 password)
  | .vlessReality, _, some _ => .error (label ++ " is vless-reality: pass --uuid, not " ++
      "--password. A credential is never coerced across transports.")
  | .hysteria2, some _, _ => .error (label ++ " is hysteria2: pass --password, not --uuid.")
  | transport, none, none => .error (label ++ ": supply the credential the PEER server issued " ++
      "for this user (" ++ (if transport = .vlessReality then "--uuid" else "--password") ++
      "). This server cannot generate one — it does not administer that machine.")

/-- Store an account's credential for a peer. -/
def cmdUserPeerSet (env : Env) (id endpointId : String) (uuid password : Option String)
    (requireExisting : Bool) (users : Store) : Except String Store := do
  let peer ← findPeerEndpoint env.cfg endpointId
  let credential ← peerCredentialFromFlags peer uuid password
  changeAndSave env id (fun u =>
    if requireExisting && (u.peerCredentials.lookup endpointId).isNone then
      .error (id ++ " has no credential for peer endpoint " ++ debug endpointId ++
        " to rotate. Use `vpn-admin user peer set` to add one — rotate refuses so a mistyped " ++
        "endpoint id cannot quietly create a second, unused entry.")
    else .ok { u with peerCredentials :=
      (endpointId, credential) :: u.peerCredentials.filter fun p => p.1 != endpointId }) users

/-- Remove an account's credential for a peer. -/
def cmdUserPeerRemove (env : Env) (id endpointId : String) : Store → Except String Store :=
  changeAndSave env id fun u =>
    if (u.peerCredentials.lookup endpointId).isNone then
      .error (id ++ " has no credential for peer endpoint " ++ debug endpointId)
    else .ok { u with peerCredentials := u.peerCredentials.filter fun p => p.1 != endpointId }

/-! ### One command -/

/-- Remove an account. -/
def cmdUserRemove (env : Env) (id : String) (users : Store) : Except String Store := do
  let next := users.filter fun u => u.id != id
  Check.refuseIf (next.length == users.length) ("no such user: " ++ id)
  applyUsersAndSave env next

def step (env : Env) (users : Store) : UserCommand → Except String Store
  | .create name expiresAt => cmdUserCreate env name expiresAt users
  | .createProbe name => cmdUserCreateProbe env name users
  | .setEnabled id enabled => cmdUserSetEnabled env id enabled users
  | .setExpiry id expiresAt => cmdUserSetExpiry env id expiresAt users
  | .rotateToken id => cmdUserRotateToken env id users
  | .rotateVless id => cmdUserRotateVless env id users
  | .rotateHysteria id => cmdUserRotateHysteria env id users
  | .rotateCredentials id => cmdUserRotateCredentials env id users
  | .renewNative id => cmdUserRenewNative env id users
  | .remove id => cmdUserRemove env id users
  | .peerSet id endpointId uuid password requireExisting =>
    cmdUserPeerSet env id endpointId uuid password requireExisting users
  | .peerRemove id endpointId => cmdUserPeerRemove env id endpointId users
  | .visionOffExperiment id on => cmdUserVisionOffExperiment env id on users
  | .googleEgressHairpin id on => cmdUserGoogleEgressHairpin env id on users

/-! ### What a command can do -/

/-- What a command changes about one account.  Only two commands touch the hairpin flag or
    the stored grants, and none touches the identity or the other flags. -/
structure Edit (env : Env) (cmd : UserCommand) (u u' : CompatUser) : Prop where
  id : u'.id = u.id
  exitPrincipal : u'.exitPrincipal = u.exitPrincipal
  isReservedProbe : u'.isReservedProbe = u.isReservedProbe
  hairpin : u'.googleEgressHairpin = u.googleEgressHairpin ∨
    cmd = .googleEgressHairpin u.id u'.googleEgressHairpin
  credentials : u'.credentials = u.credentials ∨
    (cmd = .renewNative u.id ∧ renewNative env u = .ok u')

/-- A new account: an unused drawn id, no hairpin or exit flag, no stored grant. -/
structure NewAccount (users : Store) (u : CompatUser) : Prop where
  id : ∃ uuid, u.id = "user_" ++ uuid
  fresh : ∀ v ∈ users, v.id ≠ u.id
  exitPrincipal : u.exitPrincipal = false
  hairpin : u.googleEgressHairpin = false
  credentials : u.credentials = []

inductive StoreChange (env : Env) (cmd : UserCommand) (users : Store) : Store → Prop
  | same : StoreChange env cmd users users
  | added {u : CompatUser} (new : NewAccount users u) : StoreChange env cmd users (users ++ [u])
  | edited {before after : Store} {u u' : CompatUser} (split : users = before ++ u :: after)
      (edit : Edit env cmd u u') : StoreChange env cmd users (before ++ u' :: after)
  | removed (keep : CompatUser → Bool) : StoreChange env cmd users (users.filter keep)

section Changes

variable {env : Env} {users users' : Store} {id : String}
  {f : CompatUser → Except String CompatUser}

theorem saveUsers_ok (h : saveUsers env users = .ok users') : users' = users := by
  unfold saveUsers at h
  rw [Check.bind_ok] at h
  exact (Except.ok.inj h.2).symm

theorem applyUsersAndSave_ok (h : applyUsersAndSave env users = .ok users') :
    users' = users := by
  unfold applyUsersAndSave at h
  split at h
  · split at h
    · exact saveUsers_ok h
    · cases h
  · split at h
    · cases h
    · rw [Check.bind_ok] at h
      exact saveUsers_ok h.2

theorem modifyUser_ok (h : modifyUser id f users = .ok users') :
    ∃ before u after u', users = before ++ u :: after ∧ u.id = id ∧ f u = .ok u' ∧
      users' = before ++ u' :: after := by
  induction users generalizing users' with
  | nil => cases h
  | cons v users ih =>
    unfold modifyUser at h
    split at h
    · next hid =>
      obtain ⟨u', hf, hok⟩ := Check.bind_eq_ok.mp h
      exact ⟨[], v, users, u', rfl, hid, hf, (Except.ok.inj hok).symm⟩
    · obtain ⟨rest, hrest, hok⟩ := Check.bind_eq_ok.mp h
      obtain ⟨before, u, after, u', rfl, hid, hf, rfl⟩ := ih hrest
      exact ⟨v :: before, u, after, u', rfl, hid, hf, (Except.ok.inj hok).symm⟩

theorem rotateAndApply_ok (h : rotateAndApply env id f users = .ok users') :
    modifyUser id f users = .ok users' := by
  obtain ⟨next, hnext, happly⟩ := Check.bind_eq_ok.mp h
  rw [applyUsersAndSave_ok happly]
  exact hnext

theorem changeAndSave_ok (h : changeAndSave env id f users = .ok users') :
    modifyUser id f users = .ok users' := by
  obtain ⟨next, hnext, hsave⟩ := Check.bind_eq_ok.mp h
  rw [saveUsers_ok hsave]
  exact hnext

theorem newAccount_of_generate {name : String} {expiresAt : Option Int} {probe : Bool}
    (h : generateUserId env users = .ok id) :
    NewAccount users (newUser env id name expiresAt probe) := by
  unfold generateUserId at h
  split at h
  -- the drawn id is the first that no account has
  · next id' hfind =>
    cases h
    have hmem := List.mem_of_find?_eq_some hfind
    have hfresh := List.find?_some hfind
    obtain ⟨uuid, -, huuid⟩ := List.mem_map.mp hmem
    refine ⟨⟨uuid, huuid.symm⟩, ?_, rfl, rfl, rfl⟩
    intro v hv heq
    simp only [Bool.not_eq_true', List.any_eq_false] at hfresh
    exact hfresh v hv (beq_iff_eq.mpr heq)
  · cases h

variable {cmd : UserCommand}

theorem change_of_modify (h : modifyUser id f users = .ok users')
    (hedit : ∀ u u', u.id = id → f u = .ok u' → Edit env cmd u u') :
    StoreChange env cmd users users' := by
  obtain ⟨before, u, after, u', hsplit, hid, hf, rfl⟩ := modifyUser_ok h
  exact .edited hsplit (hedit u u' hid hf)

theorem change_of_set {set : CompatUser → CompatUser}
    (h : modifyUser id (fun u => .ok (set u)) users = .ok users')
    (hedit : ∀ u, Edit env cmd u (set u)) : StoreChange env cmd users users' :=
  change_of_modify h fun u _ _ hf => Except.ok.inj hf ▸ hedit u

theorem step_change (h : step env users cmd = .ok users') : StoreChange env cmd users users' := by
  cases cmd with
  | create name expiresAt =>
    simp only [step, cmdUserCreate, Check.bind_eq_ok] at h
    obtain ⟨-, -, id, hid, happly⟩ := h
    rw [applyUsersAndSave_ok happly]
    exact .added (newAccount_of_generate hid)
  | createProbe name =>
    simp only [step, cmdUserCreateProbe, Check.bind_ok] at h
    obtain ⟨-, h⟩ := h
    split at h
    · split at h
      · cases h
        exact .same
      · cases h
    · obtain ⟨id, hid, happly⟩ := Check.bind_eq_ok.mp h
      rw [applyUsersAndSave_ok happly]
      exact .added (newAccount_of_generate hid)
  | setEnabled id enabled =>
    exact change_of_set (rotateAndApply_ok h) fun u => ⟨rfl, rfl, rfl, .inl rfl, .inl rfl⟩
  | setExpiry id expiresAt =>
    -- saved with or without applying, the store is the same
    obtain ⟨next, hnext, hsave⟩ := Check.bind_eq_ok.mp h
    have hnext' : users' = next := by
      dsimp only at hsave
      split at hsave
      · exact saveUsers_ok hsave
      · exact applyUsersAndSave_ok hsave
    rw [hnext']
    exact change_of_set hnext fun u => ⟨rfl, rfl, rfl, .inl rfl, .inl rfl⟩
  | rotateToken id =>
    exact change_of_set (changeAndSave_ok h) fun u => ⟨rfl, rfl, rfl, .inl rfl, .inl rfl⟩
  | rotateVless id =>
    exact change_of_set (rotateAndApply_ok h) fun u => ⟨rfl, rfl, rfl, .inl rfl, .inl rfl⟩
  | rotateHysteria id =>
    exact change_of_set (rotateAndApply_ok h) fun u => ⟨rfl, rfl, rfl, .inl rfl, .inl rfl⟩
  | rotateCredentials id =>
    exact change_of_set (rotateAndApply_ok h) fun u => ⟨rfl, rfl, rfl, .inl rfl, .inl rfl⟩
  | renewNative id =>
    refine change_of_modify (rotateAndApply_ok h) fun u u' hid hf => ?_
    subst hid
    obtain ⟨credentials, rfl⟩ : ∃ credentials, u' = { u with credentials := credentials } := by
      unfold renewNative at hf
      split at hf
      · obtain ⟨credentials, -, hok⟩ := Check.bind_eq_ok.mp hf
        exact ⟨credentials, (Except.ok.inj hok).symm⟩
      · exact ⟨_, (Except.ok.inj hf).symm⟩
    exact ⟨rfl, rfl, rfl, .inl rfl, .inr ⟨rfl, hf⟩⟩
  | remove id =>
    simp only [step, cmdUserRemove, Check.bind_ok] at h
    rw [applyUsersAndSave_ok h.2]
    exact .removed _
  | peerSet id endpointId uuid password requireExisting =>
    simp only [step, cmdUserPeerSet, Check.bind_eq_ok] at h
    obtain ⟨peer, -, credential, -, h⟩ := h
    refine change_of_modify (changeAndSave_ok h) fun u u' _ hf => ?_
    split at hf
    · cases hf
    · cases hf
      exact ⟨rfl, rfl, rfl, .inl rfl, .inl rfl⟩
  | peerRemove id endpointId =>
    refine change_of_modify (changeAndSave_ok h) fun u u' _ hf => ?_
    split at hf
    · cases hf
    · cases hf
      exact ⟨rfl, rfl, rfl, .inl rfl, .inl rfl⟩
  | visionOffExperiment id on =>
    exact change_of_set (rotateAndApply_ok h) fun u => ⟨rfl, rfl, rfl, .inl rfl, .inl rfl⟩
  | googleEgressHairpin id on =>
    refine change_of_modify (rotateAndApply_ok h) fun u u' hid hf => ?_
    cases hf
    exact ⟨rfl, rfl, rfl, .inr (by rw [hid]), .inl rfl⟩

theorem Edit.refl (cmd : UserCommand) (u : CompatUser) : Edit env cmd u u :=
  ⟨rfl, rfl, rfl, .inl rfl, .inl rfl⟩

theorem StoreChange.origin (h : StoreChange env cmd users users') {u' : CompatUser}
    (hu' : u' ∈ users') : (∃ u ∈ users, Edit env cmd u u') ∨ NewAccount users u' := by
  cases h with
  | same => exact .inl ⟨u', hu', Edit.refl cmd u'⟩
  | added new =>
    rcases List.mem_append.mp hu' with hold | hnew
    · exact .inl ⟨u', hold, Edit.refl cmd u'⟩
    · rw [List.mem_singleton.mp hnew]
      exact .inr new
  | @edited before after v v' split edit =>
    left
    rw [split]
    rcases List.mem_append.mp hu' with hbefore | hafter
    · exact ⟨u', List.mem_append_left _ hbefore, Edit.refl cmd u'⟩
    · rcases List.mem_cons.mp hafter with rfl | hafter
      · exact ⟨v, List.mem_append_right _ List.mem_cons_self, edit⟩
      · exact ⟨u', List.mem_append_right _ (List.mem_cons_of_mem _ hafter), Edit.refl cmd u'⟩
  | removed keep => exact .inl ⟨u', (List.mem_filter.mp hu').1, Edit.refl cmd u'⟩

end Changes

/-! ### Runs -/

/-- One successful command that meets a condition on the store it finds. -/
def StepsTo (cond : Store → Env → UserCommand → Prop) (users users' : Store) : Prop :=
  ∃ env cmd, cond users env cmd ∧ step env users cmd = .ok users'

/-- The stores that commands meeting a condition lead to, from the empty one. -/
def Reachable (cond : Store → Env → UserCommand → Prop) (users : Store) : Prop :=
  Relation.ReflTransGen (StepsTo cond) [] users

variable {users : Store}

theorem Reachable.invariant {cond : Store → Env → UserCommand → Prop} {inv : Store → Prop}
    (hempty : inv [])
    (hkeep : ∀ {users users' env cmd}, inv users → cond users env cmd →
      StoreChange env cmd users users' → inv users')
    (h : Reachable cond users) : inv users := by
  -- along the run, one command at a time
  induction h with
  | refl => exact hempty
  | tail _ hstep ih =>
    obtain ⟨env, cmd, hcond, hok⟩ := hstep
    exact hkeep ih hcond (step_change hok)

theorem Reachable.forall_account {cond : Store → Env → UserCommand → Prop}
    {inv : CompatUser → Prop} (h : Reachable cond users)
    (hnew : ∀ {users u}, NewAccount users u → inv u)
    (hedit : ∀ {users env cmd u u'}, cond users env cmd → u ∈ users → Edit env cmd u u' → inv u →
      inv u') :
    ∀ u ∈ users, inv u := by
  refine @Reachable.invariant users cond (fun users => ∀ u ∈ users, inv u)
    (fun u hu => absurd hu List.not_mem_nil) ?_ h
  intro users users' env cmd hinv hcond hchange u' hu'
  rcases hchange.origin hu' with ⟨u, hu, edit⟩ | new
  · exact hedit hcond hu edit (hinv u hu)
  · exact hnew new

/-! ### One invocation -/

def sampleEnv : Env where
  ext := sampleExternal
  cfg := sampleRelay
  reality := .ok sampleReality
  hysteria := sampleHysteria
  offlineMutationAllowed := false
  now := 0
  applyNow := 0
  applied := .ok ()
  saved := .ok ()
  draws := ⟨["1"], "00000000-0000-4000-8000-000000000001", "0123456789abcdef", "hash", "00"⟩

end SingboxVpn
