import SingboxVpn.Admin.Host
import SingboxVpn.Admin.Recovery

/-!
# vpn-admin: rotating the keys of a node

`cmd_reality_rotate` and `cmd_hysteria_obfs_rotate` (`apps/admin/src/main.rs`): the candidate
document is rendered with the new material and checked before anything is touched, then the key
files and the config file are replaced and both services restarted; a failure on the way puts
everything back.

* `returns_realityRotate`, `returns_obfsRotate` — what a rotation that went live leaves behind.
-/

namespace SingboxVpn.Apply

open Json Killable

inductive RotateStep where
  | install (file : KeyFile)
  | owner
  | apply
  | reload
  | subscription
  | handshake
  deriving DecidableEq

inductive RotateError where
  | binaryMissing
  | generate (e : String)
  | keys (e : String)
  | users (e : String)
  | render
  | stage
  | check
  | services
  | staleBackup (file : KeyFile)
  | backup (file : KeyFile)
  | install (file : KeyFile)
  | failed (at_ : RotateStep) (restored : Bool)
  deriving DecidableEq

structure RotateAnswers where
  now : Int
  /-- the answers about sing-box and its config file -/
  outcomes : Outcomes
  /-- the output of `sing-box generate reality-keypair` -/
  keypairOutput : Except String String
  shortId : String
  obfsPassword : String
  /-- writing the candidate for `sing-box check`, and the check -/
  staged : Bool
  validated : Bool
  /-- vpn-subscription can be controlled: at first, after sing-box, and in a rollback -/
  subscription : Bool
  subscriptionAfter : Bool
  subscriptionAtRollback : Bool
  singboxAtRollback : Bool
  backedUp : KeyFile → Copy
  installed : KeyFile → Bool
  ownerSet : Bool
  restored : KeyFile → Bool
  backupRemoved : KeyFile → Bool
  subscriptionRestarted : Bool
  subscriptionRecovered : Bool

/-! ### New material -/

/-- A field of the tool's output, one a line. -/
def extractField (text field : String) : Option String :=
  (Text.split '\n' text).findSome? fun line =>
    ((Text.afterStart (field ++ ":") (Text.trim line)).orElse fun _ =>
      Text.afterStart (field ++ " ") (Text.trim line)).map Text.trim

/-- A key pair as the tool prints it, checked to belong together. -/
def generateRealityKeypair (ext : External) (a : RotateAnswers) :
    Except String (String × String × String) := do
  let text ← a.keypairOutput
  let privateKey ← ((extractField text "PrivateKey").elim
    (.error "could not parse PrivateKey from sing-box output") .ok)
  let publicKey ← ((extractField text "PublicKey").elim
    (.error "could not parse PublicKey from sing-box output") .ok)
  (validateRealityKeypair ext privateKey publicKey).mapError fun _ =>
    "sing-box generated an incoherent REALITY keypair"
  .ok (privateKey, publicKey, a.shortId)

/-! ### Backups of the key files -/

def Host.setKey (file : KeyFile) (text : Option String) (host : Host) : Host :=
  { host with keys := Function.update host.keys file text }

def Host.setKeyBackup (file : KeyFile) (text : Option String) (host : Host) : Host :=
  { host with keyBackups := Function.update host.keyBackups file text }

/-- Whether there was a file to back up.  A copy that fails may leave a partial backup. -/
def backupForRotate (a : RotateAnswers) (file : KeyFile) : Prog RotateError Host Bool := do
  let host ← read
  refuse (host.keyBackups file).isSome (.staleBackup file)
  match host.keys file with
  | none => pure false
  | some text =>
    runIf (a.backedUp file == .done) (Killable.step (Host.setKeyBackup file (some text)))
    runIf (a.backedUp file == .torn) (Killable.step (Host.setKeyBackup file (some "")))
    refuse (a.backedUp file != .done) (.backup file)
    pure true

/-- Remove a backup; a failure is ignored. -/
def removeRotateBackup (a : RotateAnswers) (file : KeyFile) : Prog RotateError Host Unit :=
  runIf (a.backupRemoved file) (Killable.step (Host.setKeyBackup file none))

def removeRotateBackups (a : RotateAnswers) : List KeyFile → Prog RotateError Host Unit
  | [] => pure ()
  | file :: files => do
    removeRotateBackup a file
    removeRotateBackups a files

def prepareBackups (a : RotateAnswers) (prepared : List KeyFile) :
    List KeyFile → Prog RotateError Host (List (KeyFile × Bool))
  | [] => pure []
  | file :: files => do
    match ← attempt (backupForRotate a file) with
    | .error e =>
      removeRotateBackups a prepared
      fail e
    | .ok existed =>
      let rest ← prepareBackups a (if existed then prepared ++ [file] else prepared) files
      pure ((file, existed) :: rest)

def restoreKeyFile (a : RotateAnswers) (file : KeyFile) (existed : Bool) :
    Prog RotateError Host Bool := do
  let host ← read
  if existed then
    match host.keyBackups file with
    | none => pure true
    | some text =>
      runIf (a.restored file) (Killable.step fun host =>
        (host.setKey file (some text)).setKeyBackup file none)
      pure (a.restored file)
  else if (host.keys file).isNone then pure true
  else
    runIf (a.restored file) (Killable.step (Host.setKey file none))
    pure (a.restored file)

def restoreKeyFiles (a : RotateAnswers) : List (KeyFile × Bool) → Prog RotateError Host Bool
  | [] => pure true
  | (file, existed) :: files => do
    let first ← restoreKeyFile a file existed
    let rest ← restoreKeyFiles a files
    pure (first && rest)

/-- Puts the key files and, once it was swapped, the config file back and restarts both services;
    whether all of that worked. -/
def rollback (a : RotateAnswers) (existed : List (KeyFile × Bool)) (configApplied : Bool) :
    Prog RotateError Host Bool := do
  let keysRestored ← restoreKeyFiles a existed
  let host ← read
  runIf (configApplied && host.node.backup.isSome) (Killable.step fun host =>
    { host with node := { host.node with
      target := a.outcomes.restoreCopy.onto host.node.backup host.node.target } })
  let configRestored := !configApplied ||
    (host.node.backup.isSome && a.outcomes.restoreCopy == .done)
  let singboxRecovered ←
    if a.singboxAtRollback then
      let reloaded ← attempt (onNode (reloadAndVerify a.outcomes.recoveryReload))
      pure reloaded.isOk
    else pure true
  let subRecovered := !a.subscriptionAtRollback || a.subscriptionRecovered
  pure (keysRestored && configRestored && singboxRecovered && subRecovered)

def orRollback {ε α : Type} (a : RotateAnswers) (existed : List (KeyFile × Bool))
    (configApplied : Bool) (at_ : RotateStep) (p : Prog ε Host α) : Prog RotateError Host α := do
  match ← attempt p with
  | .ok x => pure x
  | .error _ =>
    let restored ← rollback a existed configApplied
    fail (.failed at_ restored)

/-- Overwrite a key file that is installed. -/
def installRotatedKeyFile (a : RotateAnswers) (file : KeyFile) (text : String) :
    Prog Unit Host Unit := do
  refuse (!a.installed file) ()
  Killable.step (Host.setKey file (some text))

/-! ### The commands -/

/-- Checks the candidate with the real binary, and that both services can be controlled, before
    anything is touched. -/
def checkRotation (a : RotateAnswers) : Prog RotateError Host Unit := do
  refuse (!a.staged) .stage
  refuse (!a.validated) .check
  refuse (!a.outcomes.offlineMutationAllowed &&
    !(a.outcomes.isAvailable && a.outcomes.isUnitInstalled && a.subscription)) .services

/-- Swaps the config file and restarts sing-box and then vpn-subscription, each if it can be
    controlled; whether both were. -/
def applyRotation (a : RotateAnswers) (existed : List (KeyFile × Bool)) (doc : Json) :
    Prog RotateError Host Bool := do
  orRollback a existed false .apply (onNode (applyConfigAtomically doc a.outcomes))
  let singboxReloadedLive := a.outcomes.availableAfter && a.outcomes.installedAfter
  runIf singboxReloadedLive
    (orRollback a existed true .reload (onNode (reloadAndVerify a.outcomes.reload)))
  runIf a.subscriptionAfter
    (orRollback a existed true .subscription
      (refuse (!a.subscriptionRestarted) () : Prog Unit Host Unit))
  pure (singboxReloadedLive && a.subscriptionAfter)

section
variable (inst : Installation) (cfg : DeploymentConfig)

/-- The parameters with new key material; the hairpin credential is carried over. -/
def candidateReality (keypair : String × String × String) : RealityServerParams where
  privateKeyHex := keypair.1
  publicKeyHex := keypair.2.1
  shortIds := [keypair.2.2]
  handshakeServer := cfg.reality.handshakeServer
  handshakePort := cfg.reality.handshakePort
  googleEgressHairpinUuid := inst.googleEgressHairpinUuid.toOption.map Text.trim

def realityDocument (host : Host) (keypair : String × String × String) (users : List CompatUser)
    (now : Int) : Except Unrendered Json :=
  rendered inst cfg users (candidateReality inst cfg keypair) (host.loadHysteriaParams inst cfg) now

/-- Back up the keys, try the new ones, install them, apply, and restore on failure. -/
def cmdRealityRotate (a : RotateAnswers) : Prog RotateError Host Bool := do
  refuse (!a.outcomes.binaryExists) .binaryMissing
  let host ← read
  let keypair ← require ((generateRealityKeypair inst.ext a).mapError .generate)
  let users ← require (host.users.mapError .users)
  let doc ← require ((realityDocument inst cfg host keypair users a.now).mapError fun _ => .render)
  checkRotation a
  let existed ← prepareBackups a [] [.privateKey, .publicKey, .shortId]
  orRollback a existed false (.install .privateKey)
    (installRotatedKeyFile a .privateKey keypair.1)
  orRollback a existed false (.install .publicKey)
    (installRotatedKeyFile a .publicKey keypair.2.1)
  orRollback a existed false (.install .shortId) (installRotatedKeyFile a .shortId keypair.2.2)
  let live ← applyRotation a existed doc
  -- the self-test is run only against two restarted services
  orRollback a existed true .handshake
    (refuse (live && decide (a.outcomes.handshake = .ran .handshakeRejected)) () :
      Prog Unit Host Unit)
  removeRotateBackups a [.privateKey, .publicKey, .shortId]
  pure live

def obfsDocument (host : Host) (password : String) (users : List CompatUser) (now : Int)
    (reality : RealityServerParams) : Except Unrendered Json :=
  rendered inst cfg users reality
    { host.loadHysteriaParams inst cfg with obfsPassword := some password } now

/-- Without a previous password file a failed installation is not rolled back, and the new file
    needs its owner set. -/
def cmdHysteriaObfsRotate (a : RotateAnswers) : Prog RotateError Host Bool := do
  refuse (!a.outcomes.binaryExists) .binaryMissing
  let host ← read
  let reality ← require ((loadRealityParams inst.ext cfg (host.keyDirectory inst)).mapError .keys)
  let users ← require (host.users.mapError .users)
  let doc ← require
    ((obfsDocument inst cfg host a.obfsPassword users a.now reality).mapError fun _ => .render)
  checkRotation a
  let existed ← backupForRotate a .obfsPassword
  match ← attempt (installRotatedKeyFile a .obfsPassword a.obfsPassword) with
  | .error _ =>
    runIf existed (removeRotateBackup a .obfsPassword)
    fail (.install .obfsPassword)
  | .ok _ =>
    runIf (!existed)
      (orRollback a [(.obfsPassword, existed)] false .owner
        (refuse (!a.ownerSet) () : Prog Unit Host Unit))
    let live ← applyRotation a [(.obfsPassword, existed)] doc
    removeRotateBackup a .obfsPassword
    pure live

end

/-! ### What a rotation that went live leaves behind -/

section
variable {a : RotateAnswers} {host host' : Host}

structure Host.SameFiles (host host' : Host) : Prop where
  node : host'.node = host.node
  users : host'.users = host.users
  keys : host'.keys = host.keys

theorem Host.SameFiles.refl (host : Host) : host.SameFiles host := ⟨rfl, rfl, rfl⟩

theorem Host.SameFiles.trans {host'' : Host} (h : host.SameFiles host')
    (h' : host'.SameFiles host'') : host.SameFiles host'' :=
  ⟨h'.node.trans h.node, h'.users.trans h.users, h'.keys.trans h.keys⟩

theorem sameFiles_setKeyBackup (file : KeyFile) (text : Option String) (host : Host) :
    host.SameFiles (host.setKeyBackup file text) := ⟨rfl, rfl, rfl⟩

variable {existed : List (KeyFile × Bool)} {c : Bool} {file : KeyFile} {u : Unit}
  {files : List KeyFile} {keypair : String × String × String}

theorem returns_orRollback {ε α : Type} {applied : Bool} {at_ : RotateStep} {p : Prog ε Host α}
    {x : α} :
    Returns (orRollback a existed applied at_ p) host x host' ↔ Returns p host x host' := by
  unfold orRollback
  rw [returns_bind]
  constructor
  · rintro ⟨r, t, hattempt, hrest⟩
    rw [returns_attempt] at hattempt
    cases r with
    | ok y =>
      obtain ⟨rfl, rfl⟩ := returns_pure.mp hrest
      exact hattempt
    | error e =>
      obtain ⟨_, _, _, hfail⟩ := returns_bind.mp hrest
      exact (returns_fail hfail).elim
  · intro h
    exact ⟨.ok x, host', returns_attempt.mpr h, returns_pure.mpr ⟨rfl, rfl⟩⟩

theorem returns_runIf_backup {text : Option String}
    (h : Returns (runIf c (Killable.step (Host.setKeyBackup file text)) : Prog RotateError Host
      Unit) host u host') :
    host.SameFiles host' := by
  rw [returns_runIf] at h
  split at h
  · rw [← returns_step.mp h]
    exact sameFiles_setKeyBackup _ _ _
  · rw [← h]
    exact .refl _

theorem returns_backupForRotate {existed : Bool}
    (h : Returns (backupForRotate a file) host existed host') : host.SameFiles host' := by
  unfold backupForRotate at h
  replace h := returns_bind_read.mp h
  replace h := (returns_bind_refuse.mp h).2
  cases hkey : host.keys file with
  | none =>
    simp only [hkey] at h
    obtain ⟨_, rfl⟩ := returns_pure.mp h
    exact .refl _
  | some text =>
    simp only [hkey] at h
    obtain ⟨_, _, hdone, h⟩ := returns_bind.mp h
    obtain ⟨_, _, htorn, h⟩ := returns_bind.mp h
    replace h := (returns_bind_refuse.mp h).2
    obtain ⟨_, rfl⟩ := returns_pure.mp h
    exact (returns_runIf_backup hdone).trans (returns_runIf_backup htorn)

theorem returns_prepareBackups {prepared : List KeyFile}
    (h : Returns (prepareBackups a prepared files) host existed host') : host.SameFiles host' := by
  induction files generalizing prepared host existed with
  | nil =>
    obtain ⟨_, rfl⟩ := returns_pure.mp h
    exact .refl _
  | cons file files ih =>
    unfold prepareBackups at h
    obtain ⟨r, t, hattempt, hrest⟩ := returns_bind.mp h
    cases r with
    | error e =>
      obtain ⟨_, _, _, hfail⟩ := returns_bind.mp hrest
      exact (returns_fail hfail).elim
    | ok first =>
      obtain ⟨_, _, hothers, hpure⟩ := returns_bind.mp hrest
      obtain ⟨_, rfl⟩ := returns_pure.mp hpure
      exact (returns_backupForRotate (returns_attempt.mp hattempt)).trans (ih hothers)

theorem returns_removeRotateBackups (h : Returns (removeRotateBackups a files) host u host') :
    host.SameFiles host' := by
  induction files generalizing host with
  | nil =>
    obtain ⟨_, rfl⟩ := returns_pure.mp h
    exact .refl _
  | cons file files ih =>
    obtain ⟨_, _, hfirst, hrest⟩ := returns_bind.mp h
    exact (returns_runIf_backup hfirst).trans (ih hrest)

theorem returns_checkRotation (h : Returns (checkRotation a) host u host') : host = host' := by
  unfold checkRotation at h
  replace h := (returns_bind_refuse.mp h).2
  replace h := (returns_bind_refuse.mp h).2
  exact (returns_refuse.mp h).2

theorem returns_install {text : String}
    (h : Returns (installRotatedKeyFile a file text) host u host') :
    host.setKey file (some text) = host' := by
  unfold installRotatedKeyFile at h
  replace h := (returns_bind_refuse.mp h).2
  exact returns_step.mp h

theorem returns_applyRotation {doc : Json}
    (h : Returns (applyRotation a existed doc) host true host') :
    host' = { host with node := (host.node.placed doc).restart a.outcomes.reload } ∧
      (a.outcomes.reload.loads (host.node.placed doc)).isSome := by
  unfold applyRotation at h
  obtain ⟨_, _, hplace, h⟩ := returns_bind.mp h
  obtain ⟨node, hplaced, rfl⟩ := returns_within.mp (returns_orRollback.mp hplace)
  obtain rfl := returns_place hplaced
  obtain ⟨_, _, hreload, h⟩ := returns_bind.mp h
  obtain ⟨_, _, hsub, h⟩ := returns_bind.mp h
  obtain ⟨hlive, rfl⟩ := returns_pure.mp h
  simp only [Bool.and_eq_true] at hlive
  rw [returns_runIf, if_pos (by simpa using hlive.1)] at hreload
  obtain ⟨node, hreloaded, rfl⟩ := returns_within.mp (returns_orRollback.mp hreload)
  obtain ⟨rfl, hloads⟩ := returns_reload hreloaded
  rw [returns_runIf, if_pos hlive.2] at hsub
  obtain ⟨_, rfl⟩ := returns_refuse.mp (returns_orRollback.mp hsub)
  exact ⟨rfl, hloads⟩

variable {inst : Installation} {cfg : DeploymentConfig}

/-- A REALITY rotation that went live has installed the new key material and loaded the document
    rendered with it. -/
theorem returns_realityRotate (h : Returns (cmdRealityRotate inst cfg a) host true host') :
    ∃ keypair users doc, generateRealityKeypair inst.ext a = .ok keypair ∧
      host.users = .ok users ∧ realityDocument inst cfg host keypair users a.now = .ok doc ∧
      (a.outcomes.reload.loads (host.node.placed doc)).isSome ∧
      host'.users = host.users ∧ host'.node = (host.node.placed doc).restart a.outcomes.reload ∧
      host'.keys = Function.update (Function.update (Function.update host.keys .privateKey
        (some keypair.1)) .publicKey (some keypair.2.1)) .shortId (some keypair.2.2) := by
  simp only [cmdRealityRotate, returns_bind_refuse, returns_bind_read, returns_bind_require,
    Check.mapError_eq_ok] at h
  simp only [returns_bind, returns_orRollback, returns_refuse, returns_pure] at h
  obtain ⟨-, keypair, hkeypair, users, husers, doc, hdoc, _, _, hcheck, existed, _, hbackups,
    _, _, hpriv, _, _, hpub, _, _, hshort, live, _, happly, _, _, ⟨-, rfl⟩, _, _, hremove, rfl,
    rfl⟩ := h
  obtain rfl := returns_checkRotation hcheck
  obtain rfl := returns_install hpriv
  obtain rfl := returns_install hpub
  obtain rfl := returns_install hshort
  obtain ⟨rfl, hloads⟩ := returns_applyRotation happly
  have hbacked := returns_prepareBackups hbackups
  have hremoved := returns_removeRotateBackups hremove
  refine ⟨keypair, users, doc, hkeypair, husers, hdoc, hbacked.node ▸ hloads,
    hremoved.users.trans hbacked.users, ?_, ?_⟩
  · rw [hremoved.node, ← hbacked.node]
    rfl
  · rw [hremoved.keys, ← hbacked.keys]
    rfl

theorem returns_owner
    (h : Returns (runIf c (orRollback a existed false .owner (refuse (!a.ownerSet) () : Prog Unit
      Host Unit))) host u host') :
    host = host' := by
  rw [returns_runIf] at h
  split at h
  · exact (returns_refuse.mp (returns_orRollback.mp h)).2
  · exact h

theorem returns_obfsRotate (h : Returns (cmdHysteriaObfsRotate inst cfg a) host true host') :
    ∃ reality users doc, loadRealityParams inst.ext cfg (host.keyDirectory inst) = .ok reality ∧
      host.users = .ok users ∧
      obfsDocument inst cfg host a.obfsPassword users a.now reality = .ok doc ∧
      (a.outcomes.reload.loads (host.node.placed doc)).isSome ∧
      host'.users = host.users ∧ host'.node = (host.node.placed doc).restart a.outcomes.reload ∧
      host'.keys = Function.update host.keys .obfsPassword (some a.obfsPassword) := by
  simp only [cmdHysteriaObfsRotate, returns_bind_refuse, returns_bind_read, returns_bind_require,
    Check.mapError_eq_ok] at h
  simp only [returns_bind, returns_attempt] at h
  obtain ⟨-, reality, hreality, users, husers, doc, hdoc, _, _, hcheck, existed, _, hbackup, r, _,
    hinstall, h⟩ := h
  obtain rfl := returns_checkRotation hcheck
  have hbacked := returns_backupForRotate hbackup
  cases r with
  | error e =>
    obtain ⟨_, _, _, hfail⟩ := returns_bind.mp h
    exact (returns_fail hfail).elim
  | ok _ =>
    simp only [returns_bind, returns_pure] at h
    obtain ⟨_, _, howner, live, _, happly, _, _, hremove, rfl, rfl⟩ := h
    obtain rfl := returns_install hinstall
    obtain rfl := returns_owner howner
    obtain ⟨rfl, hloads⟩ := returns_applyRotation happly
    have hremoved := returns_runIf_backup hremove
    refine ⟨reality, users, doc, hreality, husers, hdoc, hbacked.node ▸ hloads,
      hremoved.users.trans hbacked.users, ?_, ?_⟩
    · rw [hremoved.node, ← hbacked.node]
      rfl
    · rw [hremoved.keys, ← hbacked.keys]
      rfl

/-! ### The document of the new files -/

structure RotateAnswers.Drawn (a : RotateAnswers) : Prop where
  shortId : ∀ c ∈ a.shortId.toList, Text.isAsciiHexdigit c = true
  obfsPassword : ∀ c ∈ a.obfsPassword.toList, Text.isAsciiHexdigit c = true
  nonempty : a.obfsPassword.isEmpty = false

theorem trim_extractField {text field value : String} (h : extractField text field = some value) :
    Text.trim value = value := by
  obtain ⟨line, _, hline⟩ := List.exists_of_findSome?_eq_some h
  obtain ⟨rest, _, rfl⟩ := Option.map_eq_some_iff.mp hline
  exact Text.trim_trim rest

theorem generated {ext : External} (h : generateRealityKeypair ext a = .ok keypair) :
    Text.trim keypair.1 = keypair.1 ∧ Text.trim keypair.2.1 = keypair.2.1 ∧
      keypair.2.2 = a.shortId ∧ validateRealityKeypair ext keypair.1 keypair.2.1 = .ok () := by
  simp only [generateRealityKeypair, Check.bind_eq_ok, Check.mapError_eq_ok] at h
  obtain ⟨text, -, priv, hpriv, pub, hpub, _, hvalid, h⟩ := h
  cases h
  have hfound : ∀ {field e value : String},
      (extractField text field).elim (Except.error e) Except.ok = Except.ok value →
        Text.trim value = value := by
    intro field e value h
    cases hfield : extractField text field with
    | none => simp [hfield] at h
    | some value =>
      rw [hfield] at h
      cases h
      exact trim_extractField hfield
  exact ⟨hfound hpriv, hfound hpub, rfl, hvalid⟩

theorem load_rotated (hdrawn : a.Drawn)
    (hgenerated : generateRealityKeypair inst.ext a = .ok keypair)
    (hpriv : host'.keys .privateKey = some keypair.1)
    (hpub : host'.keys .publicKey = some keypair.2.1)
    (hshort : host'.keys .shortId = some keypair.2.2) :
    loadRealityParams inst.ext cfg (host'.keyDirectory inst) =
      .ok (candidateReality inst cfg keypair) := by
  obtain ⟨htrimPriv, htrimPub, hid, hvalid⟩ := generated hgenerated
  have htrimId : Text.trim keypair.2.2 = keypair.2.2 := by
    rw [hid]
    exact Text.trim_of_hex hdrawn.shortId
  simp only [loadRealityParams, Host.keyDirectory, readFile, hpriv, hpub, hshort, Except.mapError,
    bind, Except.bind, htrimPriv, htrimPub, htrimId, hvalid]
  rfl

/-- The store renders to the document that the service was restarted on. -/
structure Rotated (inst : Installation) (cfg : DeploymentConfig) (a : RotateAnswers)
    (host host' : Host) (users : List CompatUser) (doc : Json) : Prop where
  before : host.users = .ok users
  after : host'.users = .ok users
  candidate : candidate inst cfg users host' a.now = .ok doc
  loads : (a.outcomes.reload.loads (host.node.placed doc)).isSome
  node : host'.node = (host.node.placed doc).restart a.outcomes.reload

theorem rotated_realityRotate (hdrawn : a.Drawn)
    (h : Returns (cmdRealityRotate inst cfg a) host true host') :
    ∃ keypair users doc, generateRealityKeypair inst.ext a = .ok keypair ∧
      realityDocument inst cfg host keypair users a.now = .ok doc ∧
      Rotated inst cfg a host host' users doc := by
  obtain ⟨keypair, users, doc, hgenerated, husers, hdoc, hloads, husers', hnode, hkeys⟩ :=
    returns_realityRotate h
  refine ⟨keypair, users, doc, hgenerated, hdoc, husers, husers'.trans husers, ?_, hloads, hnode⟩
  have hload : loadRealityParams inst.ext cfg (host'.keyDirectory inst) =
      .ok (candidateReality inst cfg keypair) :=
    load_rotated hdrawn hgenerated (by simp [hkeys]) (by simp [hkeys]) (by simp [hkeys])
  have hhysteria : host'.loadHysteriaParams inst cfg = host.loadHysteriaParams inst cfg := by
    simp [Host.loadHysteriaParams, hkeys]
  unfold candidate
  rw [hload, hhysteria]
  exact hdoc

theorem rotated_obfsRotate (hdrawn : a.Drawn)
    (h : Returns (cmdHysteriaObfsRotate inst cfg a) host true host') :
    ∃ reality users doc, loadRealityParams inst.ext cfg (host.keyDirectory inst) = .ok reality ∧
      obfsDocument inst cfg host a.obfsPassword users a.now reality = .ok doc ∧
      Rotated inst cfg a host host' users doc := by
  obtain ⟨reality, users, doc, hreality, husers, hdoc, hloads, husers', hnode, hkeys⟩ :=
    returns_obfsRotate h
  refine ⟨reality, users, doc, hreality, hdoc, husers, husers'.trans husers, ?_, hloads, hnode⟩
  have hload : host'.keyDirectory inst = host.keyDirectory inst := by
    simp [Host.keyDirectory, hkeys]
  have hhysteria : host'.loadHysteriaParams inst cfg =
      { host.loadHysteriaParams inst cfg with obfsPassword := some a.obfsPassword } := by
    simp [Host.loadHysteriaParams, hkeys, Text.trim_of_hex hdrawn.obfsPassword, hdrawn.nonempty]
  unfold candidate
  rw [hload, hreality, hhysteria]
  exact hdoc

end

/-! ### A render-config that follows -/

section
variable {inst : Installation} {cfg : DeploymentConfig} {host host' : Host}
  {users : List CompatUser} {doc : Json} {now : Int} {a : Answers}

theorem candidate_of_keys (h : host'.keys = host.keys) (users : List CompatUser) (now : Int) :
    candidate inst cfg users host' now = candidate inst cfg users host now := by
  simp only [candidate, Host.keyDirectory, Host.loadHysteriaParams, h]

variable {applied : Applied}

theorem returns_renderAndApply {requireLiveApply : Bool} :
    Returns (renderAndApplySingboxConfig inst cfg users requireLiveApply a) host applied host' ↔
      ∃ node', Returns (renderAndApplySingboxConfigWith inst.renderedConfigFingerprint
          (applyCall inst cfg users requireLiveApply host a)) host.node applied node' ∧
        { host with node := node' } = host' := by
  unfold renderAndApplySingboxConfig
  rw [returns_bind_read]
  exact returns_within

theorem returns_renderConfig (husers : host.users = .ok users) :
    Returns (cmdRenderConfig inst cfg a) host applied host' ↔
      ∃ node', Returns (renderAndApplySingboxConfigWith inst.renderedConfigFingerprint
          (applyCall inst cfg users false host a)) host.node applied node' ∧
        { host with node := node' } = host' := by
  unfold cmdRenderConfig
  rw [returns_bind_read, returns_bind_require]
  constructor
  · rintro ⟨users', huser', h⟩
    obtain rfl : users = users' :=
      Except.ok.inj (husers.symm.trans (Check.mapError_eq_ok.mp huser'))
    exact returns_renderAndApply.mp (returns_failingWith.mp h)
  · intro h
    exact ⟨users, Check.mapError_eq_ok.mpr husers,
      returns_failingWith.mpr (returns_renderAndApply.mpr h)⟩

/-- Where the config file and the service have the document of the store, a render-config restarts
    nothing exactly if the stamp names that document. -/
theorem renderConfig_idle_iff (husers : host.users = .ok users)
    (hdoc : candidate inst cfg users host now = .ok doc) (halike : AuthorizedAlike users now a.now)
    (hsmooth : a.outcomes.Smooth)
    (hcaps : (applyCall inst cfg users false host a).capabilityRestart host.node = false)
    (htarget : host.node.target = some (.doc doc)) (hrunning : host.node.running.isSome = true) :
    (final (cmdRenderConfig inst cfg a) host).node.reloads = host.node.reloads ↔
      host.node.stamp = some (inst.renderedConfigFingerprint doc) := by
  have hcandidate : (applyCall inst cfg users false host a).candidate = .ok doc :=
    candidate_congr halike hdoc
  constructor
  · intro hidle
    by_contra hstamp
    have hnot : host.node.alreadyCurrent inst.renderedConfigFingerprint doc = false := by
      rw [Bool.eq_false_iff]
      exact fun h => hstamp (alreadyCurrent_iff.mp h).2
    obtain ⟨node', hlive, hreloads⟩ := apply_reloads (c := applyCall inst cfg users false host a)
      hsmooth hcandidate rfl hnot
    have hreturns := (returns_renderConfig husers).mpr ⟨node', hlive, rfl⟩
    rw [hreturns.2] at hidle
    change node'.reloads = _ at hidle
    omega
  · intro hstamp
    have hcurrent := alreadyCurrent_iff.mpr ⟨htarget, hstamp⟩
    have hidle := apply_current (c := applyCall inst cfg users false host a) hsmooth hcandidate rfl
      hcaps hcurrent hrunning
    rw [((returns_renderConfig husers).mpr ⟨_, hidle, rfl⟩).2]

theorem returns_userMutation {change : List CompatUser → List CompatUser} {a : SaveAnswers}
    (hlive : applied.wentLive = true)
    (h : Returns (cmdUserMutation inst cfg change a) host applied host') :
    ∃ users doc, host'.users = .ok users ∧ candidate inst cfg users host' a.apply.now = .ok doc ∧
      host'.node.target = some (.doc doc) ∧ host'.node.running.isSome = true ∧
      host'.node.stamp = some (inst.renderedConfigFingerprint doc) := by
  unfold cmdUserMutation applyUsersAndSave at h
  rw [returns_bind_read] at h
  obtain ⟨previous, _, h⟩ := returns_bind_require.mp h
  obtain ⟨wentLive, t, happlied, h⟩ := returns_bind.mp h
  obtain ⟨node', hpipeline, rfl⟩ := returns_renderAndApply.mp (returns_failingWith.mp happlied)
  obtain ⟨r, _, hsave, h⟩ := returns_bind.mp h
  cases r with
  | error e =>
    obtain ⟨_, _, _, hfail⟩ := returns_bind.mp h
    exact (returns_fail hfail).elim
  | ok _ =>
    obtain ⟨rfl, rfl⟩ := returns_pure.mp h
    have hsaved := returns_step.mp (returns_bind_refuse.mp (returns_attempt.mp hsave)).2
    subst hsaved
    have hend := (apply_ends inst.renderedConfigFingerprint _ host.node).returns hpipeline
    refine ⟨change previous, ?_⟩
    cases hend with
    | skipped => cases hlive
    | placed => cases hlive
    | @current doc hdoc hcurrent hrunning =>
      obtain ⟨htarget, hstamp⟩ := alreadyCurrent_iff.mp hcurrent
      exact ⟨doc, rfl, (candidate_of_keys rfl _ _).trans hdoc, htarget, hrunning, hstamp⟩
    | @live doc _ hdoc hloads =>
      refine ⟨doc, rfl, (candidate_of_keys rfl _ _).trans hdoc, rfl, ?_, rfl⟩
      rw [Option.isSome_iff_exists]
      exact ⟨doc, running_restart hloads⟩

end

/-! ### Which commands leave nothing to do -/

inductive Command where
  | userMutation (change : List CompatUser → List CompatUser) (a : SaveAnswers)
  | realityRotate (a : RotateAnswers)
  | hysteriaObfsRotate (a : RotateAnswers)

namespace Command

section
variable (inst : Installation) (cfg : DeploymentConfig)

/-- The command; says whether it went live. -/
def run : Command → Prog Unit Host Bool
  | .userMutation change a => failingWith (fun _ => ()) do
    let applied ← cmdUserMutation inst cfg change a
    pure applied.wentLive
  | .realityRotate a => failingWith (fun _ => ()) (cmdRealityRotate inst cfg a)
  | .hysteriaObfsRotate a => failingWith (fun _ => ()) (cmdHysteriaObfsRotate inst cfg a)

/-- The clock at which the command renders. -/
def now : Command → Int
  | .userMutation _ a => a.apply.now
  | .realityRotate a => a.now
  | .hysteriaObfsRotate a => a.now

def Drawn : Command → Prop
  | .userMutation _ _ => True
  | .realityRotate a => a.Drawn
  | .hysteriaObfsRotate a => a.Drawn

def Stamps (host : Host) : Command → Prop
  | .userMutation _ _ => True
  | .realityRotate a => ∃ keypair users doc, generateRealityKeypair inst.ext a = .ok keypair ∧
      host.users = .ok users ∧ realityDocument inst cfg host keypair users a.now = .ok doc ∧
      host.node.stamp = some (inst.renderedConfigFingerprint doc)
  | .hysteriaObfsRotate a => ∃ reality users doc,
      loadRealityParams inst.ext cfg (host.keyDirectory inst) = .ok reality ∧
      host.users = .ok users ∧
      obfsDocument inst cfg host a.obfsPassword users a.now reality = .ok doc ∧
      host.node.stamp = some (inst.renderedConfigFingerprint doc)

end

variable {inst : Installation} {cfg : DeploymentConfig} {host host' : Host} {c : Command}

/-- What a command that went live leaves behind: the document of its store in the file and in the
    service, and the stamp of a mutation. -/
theorem returns_live (hdrawn : c.Drawn) (h : Returns (c.run inst cfg) host true host') :
    ∃ users doc, host'.users = .ok users ∧ candidate inst cfg users host' c.now = .ok doc ∧
      host'.node.target = some (.doc doc) ∧ host'.node.running.isSome = true ∧
      (host'.node.stamp = some (inst.renderedConfigFingerprint doc) ↔ c.Stamps inst cfg host) := by
  -- a rotation restarts the service on the new document and leaves the stamp alone
  have hrestarted : ∀ {a : RotateAnswers} {users : List CompatUser} {doc : Json},
      Rotated inst cfg a host host' users doc → host'.node.target = some (.doc doc) ∧
        host'.node.running.isSome = true ∧ host'.node.stamp = host.node.stamp := by
    intro a users doc hrotated
    obtain ⟨d, hd⟩ := Option.isSome_iff_exists.mp hrotated.loads
    rw [hrotated.node]
    exact ⟨rfl, by rw [running_restart hd]; rfl, rfl⟩
  cases c with
  | userMutation change a =>
    obtain ⟨applied, _, hmutation, hpure⟩ := returns_bind.mp (returns_failingWith.mp h)
    obtain ⟨hlive, rfl⟩ := returns_pure.mp hpure
    obtain ⟨users, doc, husers, hdoc, htarget, hrunning, hstamp⟩ :=
      returns_userMutation hlive hmutation
    exact ⟨users, doc, husers, hdoc, htarget, hrunning, iff_of_true hstamp trivial⟩
  | realityRotate a =>
    obtain ⟨keypair, users, doc, hkeypair, hrendered, hrotated⟩ :=
      rotated_realityRotate hdrawn (returns_failingWith.mp h)
    obtain ⟨htarget, hrunning, hstamp⟩ := hrestarted hrotated
    refine ⟨users, doc, hrotated.after, hrotated.candidate, htarget, hrunning, ?_⟩
    -- the stamp names the one document that the rotation can render
    simp [hstamp, Stamps, hkeypair, hrotated.before, hrendered]
  | hysteriaObfsRotate a =>
    obtain ⟨reality, users, doc, hreality, hrendered, hrotated⟩ :=
      rotated_obfsRotate hdrawn (returns_failingWith.mp h)
    obtain ⟨htarget, hrunning, hstamp⟩ := hrestarted hrotated
    refine ⟨users, doc, hrotated.after, hrotated.candidate, htarget, hrunning, ?_⟩
    simp [hstamp, Stamps, hreality, hrotated.before, hrendered]

/-- After a command that went live, a render-config on the same files, with the same credentials
    authorized and no drop-in to restart for, restarts nothing exactly if the command is a user
    mutation or the stamp had named its document before. -/
theorem restart_free_iff (hdrawn : c.Drawn) (h : Returns (c.run inst cfg) host true host')
    {users : List CompatUser} (husers : host'.users = .ok users) {a : Answers}
    (halike : AuthorizedAlike users c.now a.now) (hsmooth : a.outcomes.Smooth)
    (hcaps : (applyCall inst cfg users false host' a).capabilityRestart host'.node = false) :
    (final (cmdRenderConfig inst cfg a) host').node.reloads = host'.node.reloads ↔
      c.Stamps inst cfg host := by
  obtain ⟨users', doc, husers', hdoc, htarget, hrunning, hstamp⟩ := returns_live hdrawn h
  cases husers.symm.trans husers'
  rw [renderConfig_idle_iff husers hdoc halike hsmooth hcaps htarget hrunning]
  exact hstamp

end Command

def sampleRotate : RotateAnswers where
  now := 0
  outcomes := smooth
  keypairOutput := .ok ("PrivateKey: " ++ samplePrivateKey ++ "\nPublicKey: " ++ samplePublicKey)
  shortId := "cd"
  obfsPassword := "ef"
  staged := true
  validated := true
  subscription := true
  subscriptionAfter := true
  subscriptionAtRollback := true
  singboxAtRollback := true
  backedUp := fun _ => .done
  installed := fun _ => true
  ownerSet := true
  restored := fun _ => true
  backupRemoved := fun _ => true
  subscriptionRestarted := true
  subscriptionRecovered := true

def sampleMutation : Command :=
  .userMutation (fun _ => [sampleUser]) ⟨⟨0, smooth⟩, true, ⟨0, smooth⟩⟩

/-- Rendering again after a smooth change. -/
theorem restart_free_iff_sample :
    (final (cmdRenderConfig sampleInstallation sampleExit ⟨60, smooth⟩)
        (final (sampleMutation.run sampleInstallation sampleExit) sampleHost)).node.reloads =
      (final (sampleMutation.run sampleInstallation sampleExit) sampleHost).node.reloads ↔
      sampleMutation.Stamps sampleInstallation sampleExit sampleHost := by
  have halike : AuthorizedAlike [sampleUser] 0 60 := by
    have hsame : sampleUser.inForce 0 = sampleUser.inForce 60 := by decide +kernel
    intro u hu g
    rw [List.mem_singleton.mp hu, hsame]
  have hsmooth : smooth.Smooth :=
    ⟨rfl, rfl, rfl, rfl, rfl, rfl, rfl, rfl, ⟨_, rfl, rfl⟩, by decide, rfl⟩
  exact Command.restart_free_iff (c := sampleMutation) trivial
    ⟨by decide +kernel, rfl⟩ rfl halike hsmooth (by decide +kernel)

/-- A REALITY rotation goes live and leaves the stamp as it was: the next render-config restarts
    sing-box on the document that it is running already. -/
theorem restart_after_realityRotate :
    let host := final (cmdRealityRotate sampleInstallation sampleExit sampleRotate) sampleHost
    let host' := final (cmdRenderConfig sampleInstallation sampleExit ⟨60, smooth⟩) host
    result (cmdRealityRotate sampleInstallation sampleExit sampleRotate) sampleHost = .ok true ∧
      result (cmdRenderConfig sampleInstallation sampleExit ⟨60, smooth⟩) host = .ok .live ∧
      host'.node.running = host.node.running ∧ host'.node.reloads = host.node.reloads + 1 := by
  decide +kernel

end SingboxVpn.Apply
