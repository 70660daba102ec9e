import SingboxVpn.Admin.Host
import SingboxVpn.Lib.Run
import SingboxVpn.StaticRevision

/-!
# vpn-admin: static revisions across interrupted calls

`apps/admin/src/static_apply.rs`: a revision of deployment.toml is planned, the old text is kept in
a backup file while the candidate is put into force, and the revision stamp is written before the
backup is removed.  A call that finds a backup restores it first.

* `Deployed`, `StaticCall.next` — runs of calls, with the text in force and what was committed.
-/

namespace SingboxVpn.Apply

open Json Killable

/-! ### The command -/

inductive StaticError where
  | document (e : CompatError)
  | backupUnreadable
  | backupInvalid (e : CompatError)
  | backupNotRestored
  | users (e : String)
  | reconverge (e : ApplyError)
  | subscription
  | backupNotRemoved
  | load (e : CompatError)
  | plan (e : CompatError)
  | preflightRender (e : Unrendered)
  | preflight (name : String)
  | resolution
  | backup
  | candidate
  | apply (e : ApplyError)
  | subscriptionUncontrollable
  | stamp
  | failed (e : StaticError) (tomlRestored singboxRestored subscriptionRestored : Bool)
  deriving DecidableEq

inductive StaticOutcome where
  | unchanged
  | applied
  deriving DecidableEq

/-- What the machine answers during the recovery of an interrupted call. -/
structure RecoveryAnswers where
  backupReadable : Bool
  restored : Bool
  apply : Answers
  subscriptionControllable : Bool
  subscriptionRestarted : Bool
  backupRemoved : Bool

structure StaticAnswers where
  recovery : RecoveryAnswers
  stampWritten : Bool
  preflightNow : Int
  offlineMutationAllowed : Bool
  /-- the candidate's handshake server resolves to public addresses only -/
  resolved : Bool
  backupWritten : Bool
  candidateWritten : Bool
  unusedBackupRemoved : Bool
  apply : Answers
  subscriptionControllable : Bool
  subscriptionRestarted : Bool
  backupRemoved : Bool
  originalWritten : Bool
  rollback : Answers
  subscriptionRestored : Bool
  rolledBackBackupRemoved : Bool

def Host.setDeployment (text : String) (host : Host) : Host := { host with deployment := text }

def Host.setDeploymentBackup (text : Option String) (host : Host) : Host :=
  { host with deploymentBackup := text }

/-- Writes applied_revision.json beside itself and renames. -/
def commitAppliedRevisionStamp {ε : Type} (revision : Nat) (written : Bool) (e : ε) :
    Prog ε Host Unit := do
  refuse (!written) e
  Killable.step fun host => { host with revision := .present revision }

section
variable (inst : Installation) (toml : Toml)

/-- A backup that is there is what a stopped call has left: it is restored and put into force. -/
def recoverInterruptedApply (a : RecoveryAnswers) : Prog StaticError Host Unit := do
  let host ← read
  match host.deploymentBackup with
  | none => pure ()
  | some text =>
    refuse (!a.backupReadable) .backupUnreadable
    let restored ← require ((toml.load inst.ext text).mapError .backupInvalid)
    refuse (!a.restored) .backupNotRestored
    Killable.step (Host.setDeployment text)
    let users ← require (host.users.mapError .users)
    let _ ← failingWith .reconverge
      (renderAndApplySingboxConfig inst restored.config users true a.apply)
    refuse (a.subscriptionControllable && !a.subscriptionRestarted) .subscription
    refuse (!a.backupRemoved) .backupNotRemoved
    Killable.step (Host.setDeploymentBackup none)

/-- The rendered route, outbounds and DNS sections must be what the node renders today. -/
def preflightSecurityPolicyUnchanged (original candidateCfg : DeploymentConfig)
    (users : List CompatUser) (host : Host) (now : Int) : Except StaticError Unit := do
  let current ← (candidate inst original users host now).mapError .preflightRender
  let proposed ← (candidate inst candidateCfg users host now).mapError .preflightRender
  Check.each (fun name => Check.refuseIf (decide (current.idx name ≠ proposed.idx name))
    (.preflight name)) ["route", "outbounds", "dns"]

/-- Whether clients are served other values now. -/
def servedEndpointInputsChanged (original candidateCfg : DeploymentConfig) (rev : StaticRevision) :
    Bool :=
  rev.touchesServedEndpoints &&
    (decide (original.reality.handshakeServer ≠ candidateCfg.reality.handshakeServer) ||
      decide (original.hysteria2.upMbps ≠ candidateCfg.hysteria2.upMbps) ||
      decide (original.hysteria2.downMbps ≠ candidateCfg.hysteria2.downMbps))

/-- Puts the candidate into force, for the clients as well if they are served other values. -/
def applyStaticCandidate (original candidateCfg : DeploymentConfig) (rev : StaticRevision)
    (users : List CompatUser) (a : StaticAnswers) : Prog StaticError Host Unit := do
  let _ ← failingWith .apply (renderAndApplySingboxConfig inst candidateCfg users true a.apply)
  runIf (servedEndpointInputsChanged original candidateCfg rev) do
    refuse (a.subscriptionControllable && !a.subscriptionRestarted) .subscription
    refuse (!a.subscriptionControllable && !a.offlineMutationAllowed) .subscriptionUncontrollable

/-- The restart of vpn-subscription with the candidate was tried. -/
def StaticError.subscriptionTouched : StaticError → Bool
  | .subscription => true
  | _ => false

def reapplyOriginal (original : DeploymentConfig) (users : List CompatUser) (a : StaticAnswers) :
    Prog StaticError Host Bool :=
  if a.originalWritten then do
    let applied ← attempt (renderAndApplySingboxConfig inst original users true a.rollback)
    pure applied.isOk
  else pure false

def rollbackStatic (original : DeploymentConfig) (originalText : String) (users : List CompatUser)
    (a : StaticAnswers) (e : StaticError) : Prog StaticError Host StaticOutcome := do
  runIf a.originalWritten (Killable.step (Host.setDeployment originalText))
  let singboxRestored ← reapplyOriginal inst original users a
  runIf (a.originalWritten && a.rolledBackBackupRemoved) (Killable.step (Host.setDeploymentBackup none))
  fail (.failed e a.originalWritten singboxRestored
    (!e.subscriptionTouched || a.subscriptionRestored))

def untilCommit (revision : Nat) (document : Except CompatError StaticRevision)
    (a : StaticAnswers) : Prog StaticError Host StaticOutcome := do
  let rev ← require (document.mapError .document)
  recoverInterruptedApply inst toml a.recovery
  let host ← read
  let original ← require ((toml.load inst.ext host.deployment).mapError .load)
  match ← require ((planStaticRevision toml inst.ext host.deployment rev).mapError .plan) with
  | .unchanged =>
    commitAppliedRevisionStamp revision a.stampWritten .stamp
    pure .unchanged
  | .changed candidateText planned =>
    let users ← require (host.users.mapError .users)
    require (preflightSecurityPolicyUnchanged inst original.config planned.config users host
      a.preflightNow)
    refuse (!a.offlineMutationAllowed && !a.resolved) .resolution
    refuse (!a.backupWritten) .backup
    Killable.step (Host.setDeploymentBackup (some host.deployment))
    if a.candidateWritten then do
      Killable.step (Host.setDeployment candidateText)
      match ← attempt (applyStaticCandidate inst original.config planned.config rev users a) with
      | .ok _ =>
        commitAppliedRevisionStamp revision a.stampWritten .stamp
        pure .applied
      | .error e => rollbackStatic inst original.config host.deployment users a e
    else do
      runIf a.unusedBackupRemoved (Killable.step (Host.setDeploymentBackup none))
      fail .candidate

/-- Plan, write the candidate, put it into force, and restore the file on failure. -/
def cmdApplyStaticRevision (revision : Nat) (document : Except CompatError StaticRevision)
    (a : StaticAnswers) : Prog StaticError Host StaticOutcome := do
  let outcome ← untilCommit inst toml revision document a
  runIf (outcome == .applied && a.backupRemoved) (Killable.step (Host.setDeploymentBackup none))
  pure outcome

end

/-! ### What a call leaves behind -/

/-- The text of deployment.toml once an interrupted call is recovered. -/
def Host.recovered (host : Host) : String := host.deploymentBackup.getD host.deployment

structure Kept (host₀ host : Host) : Prop where
  recovered : host.recovered = host₀.recovered
  revision : host.revision = host₀.revision

structure Backed (host₀ host : Host) : Prop where
  backup : host.deploymentBackup = some host₀.recovered
  revision : host.revision = host₀.revision

section
variable {inst : Installation} {toml : Toml} {host₀ : Host}

theorem Backed.kept {host : Host} (h : Backed host₀ host) : Kept host₀ host :=
  ⟨by rw [Host.recovered, h.backup]; rfl, h.revision⟩

theorem wpk_recover {host : Host} (h : Kept host₀ host) (a : RecoveryAnswers) :
    wpk (recoverInterruptedApply inst toml a) host
      (fun _ s => Kept host₀ s ∧ s.deployment = host₀.recovered ∧ s.deploymentBackup = none)
      (fun _ => Kept host₀) (Kept host₀) := by
  rw [recoverInterruptedApply, wpk_bind, wpk_read]
  have htext : host.deploymentBackup.getD host.deployment = host₀.recovered := h.recovered
  cases hbackup : host.deploymentBackup with
  | none => exact wpk_pure.mpr ⟨h, by rw [← htext, hbackup]; rfl, hbackup⟩
  | some text =>
    rw [hbackup, Option.getD_some] at htext
    subst htext
    -- the backup stays where it is up to the last step
    have hkept : ∀ node, Kept host₀ { host with deployment := host₀.recovered, node := node } :=
      fun node => ⟨by simp [Host.recovered, hbackup], h.revision⟩
    simp only [wpk_bind, wpk_refuse, wpk_require, wpk_step, wpk_failingWith]
    refine ⟨fun _ => h, fun _ => ⟨fun _ _ => h, fun restored _ => ⟨fun _ => h, fun _ => ⟨h,
      fun _ _ => hkept _, fun users _ => ?_⟩⟩⟩⟩
    refine wpk_renderAndApply inst _ (fun _ node => ?_) (fun _ => hkept) hkept
    exact ⟨fun _ => hkept node, fun _ => ⟨fun _ => hkept node, fun _ =>
      ⟨hkept node, ⟨rfl, h.revision⟩, rfl, rfl⟩⟩⟩

theorem wpk_commit {ε : Type} {revision : Nat} {written : Bool} {e : ε} {host : Host}
    {ok : Unit → Host → Prop} {failed : ε → Host → Prop} {killed : Host → Prop} :
    wpk (commitAppliedRevisionStamp revision written e) host ok failed killed ↔
      (written = false → failed e host) ∧
        (written = true → killed host ∧ ok () { host with revision := .present revision }) := by
  simp [commitAppliedRevisionStamp, wpk_refuse]

theorem wpk_applyStaticCandidate {original candidateCfg : DeploymentConfig} {rev : StaticRevision}
    {users : List CompatUser} {a : StaticAnswers} {host : Host} {ok : Unit → Host → Prop}
    {failed : StaticError → Host → Prop} {killed : Host → Prop}
    (hok : ∀ node, ok () { host with node := node })
    (hfailed : ∀ e node, failed e { host with node := node })
    (hkilled : ∀ node, killed { host with node := node }) :
    wpk (applyStaticCandidate inst original candidateCfg rev users a) host ok failed killed := by
  rw [applyStaticCandidate, wpk_bind, wpk_failingWith]
  refine wpk_renderAndApply inst _ (fun _ node => ?_) (fun _ => hfailed _) hkilled
  simp only [wpk_runIf, wpk_bind, wpk_refuse]
  exact ⟨fun _ => hok node, fun _ => ⟨fun _ => hfailed _ node, fun _ =>
    ⟨fun _ => hfailed _ node, fun _ => hok node⟩⟩⟩

theorem wpk_rollbackStatic {host : Host} (h : Backed host₀ host) (original : DeploymentConfig)
    (users : List CompatUser) (a : StaticAnswers) (e : StaticError) :
    wpk (rollbackStatic inst original host₀.recovered users a e) host (fun _ _ => False)
      (fun _ => Kept host₀) (Kept host₀) := by
  simp only [rollbackStatic, reapplyOriginal, wpk_bind, wpk_runIf, wpk_step, wpk_fail]
  cases a.originalWritten with
  | false => simpa using h.kept
  | true =>
    refine ⟨fun h => (by cases h), fun _ => ⟨h.kept, ?_⟩⟩
    have hbacked : ∀ node, Backed host₀ { host with deployment := host₀.recovered, node := node } :=
      fun _ => ⟨h.backup, h.revision⟩
    simp only [if_true, wpk_bind, wpk_attempt, wpk_pure]
    have hend : ∀ node, Kept host₀ { host with
        deployment := host₀.recovered, node := node, deploymentBackup := none } :=
      fun _ => ⟨rfl, h.revision⟩
    refine wpk_renderAndApply inst _ ?_ ?_ fun node => (hbacked node).kept
    all_goals exact fun _ node => ⟨fun _ => (hbacked node).kept, fun _ => ⟨(hbacked node).kept,
      hend node⟩⟩

def plannedText (toml : Toml) (ext : External) (text : String) (rev : StaticRevision) : String :=
  match planStaticRevision toml ext text rev with
  | .ok (.changed candidateText _) => candidateText
  | _ => text

structure Commits (inst : Installation) (toml : Toml) (host₀ : Host) (revision : Nat)
    (rev : StaticRevision) (outcome : StaticOutcome) (host : Host) : Prop where
  stamp : host.revision = .present revision
  plan : ∃ plan, planStaticRevision toml inst.ext host₀.recovered rev = .ok plan
  deployment : host.deployment = plannedText toml inst.ext host₀.recovered rev
  backup : outcome = .unchanged → host.deploymentBackup = none

/-- Wherever the command ends or is stopped before its commit, the recovered text and the stamp are
    the old ones. -/
theorem wpk_untilCommit {host : Host} (h : Kept host₀ host) (revision : Nat)
    (document : Except CompatError StaticRevision) (a : StaticAnswers) :
    wpk (untilCommit inst toml revision document a) host
      (fun outcome s => ∃ rev, document = .ok rev ∧
        Commits inst toml host₀ revision rev outcome s)
      (fun _ => Kept host₀) (Kept host₀) := by
  rw [untilCommit, wpk_bind, wpk_require]
  refine ⟨fun _ _ => h, fun rev hrev => ?_⟩
  replace hrev := Check.mapError_eq_ok.mp hrev
  rw [wpk_bind]
  refine (wpk_recover h a.recovery).mono ?_ (fun _ _ h => h) fun _ h => h
  rintro _ host ⟨hkept, hdeployment, hbackup⟩
  simp only [wpk_bind, wpk_read, wpk_require, hdeployment]
  refine ⟨fun _ _ => hkept, fun original _ => ⟨fun _ _ => hkept, fun plan hplan => ?_⟩⟩
  replace hplan := Check.mapError_eq_ok.mp hplan
  cases plan with
  | unchanged =>
    simp only [wpk_bind, wpk_commit, wpk_pure]
    refine ⟨fun _ => hkept, fun _ => ⟨hkept, rev, hrev, rfl, ⟨_, hplan⟩, ?_, fun _ => hbackup⟩⟩
    rw [plannedText, hplan]
    exact hdeployment
  | changed candidateText planned =>
    simp only [wpk_bind, wpk_require, wpk_refuse, wpk_step]
    refine ⟨fun _ _ => hkept, fun users _ => ⟨fun _ _ => hkept, fun _ _ => ⟨fun _ => hkept, fun _ =>
      ⟨fun _ => hkept, fun _ => ⟨hkept, ?_⟩⟩⟩⟩⟩
    have hbacked : ∀ text node, Backed host₀ { host with
        deploymentBackup := some host₀.recovered, deployment := text, node := node } :=
      fun _ _ => ⟨rfl, hkept.revision⟩
    split
    · -- the candidate is in deployment.toml while the backup holds the recovered text
      simp only [wpk_bind, wpk_step, wpk_attempt]
      refine ⟨(hbacked _ _).kept, wpk_applyStaticCandidate (fun node => ?_) (fun e node => ?_)
        fun node => (hbacked _ node).kept⟩
      · simp only [wpk_commit, wpk_pure]
        refine ⟨fun _ => (hbacked _ node).kept, fun _ => ⟨(hbacked _ node).kept, rev, hrev, rfl,
          ⟨_, hplan⟩, ?_, fun h => by cases h⟩⟩
        rw [plannedText, hplan]
        rfl
      · exact (wpk_rollbackStatic (hbacked _ node) original.config users a e).mono
          (fun _ _ h => h.elim) (fun _ _ h => h) fun _ h => h
    · simp only [wpk_bind, wpk_runIf, wpk_step, wpk_fail]
      exact ⟨fun _ => (hbacked _ _).kept, fun _ => ⟨(hbacked _ _).kept, hdeployment, hkept.revision⟩⟩

end

/-! ### Runs of calls -/

structure StaticCall where
  revision : Nat
  document : Except CompatError StaticRevision
  answers : StaticAnswers
  stopped : Option Nat

/-- The node in a run of calls: the last revision number issued, the text committed last, and the
    committed revisions. -/
structure Deployed where
  host : Host
  issued : Nat
  inForce : String
  committed : List (Nat × StaticRevision)

/-- The values that committed revisions ask for, the later of two for one field. -/
def requested (committed : List (Nat × StaticRevision)) : StaticRevision :=
  (committed.map Prod.snd).foldl StaticRevision.merge {}

section
variable (inst : Installation) (toml : Toml)

def StaticCall.command (call : StaticCall) : Prog StaticError Host StaticOutcome :=
  cmdApplyStaticRevision inst toml call.revision call.document call.answers

def StaticCall.next (s : Deployed) (call : StaticCall) : Deployed :=
  let host := after (call.command inst toml) call.stopped s.host
  match call.document with
  | .ok rev =>
    if host.revision = .present call.revision then
      { host := host
        issued := call.revision
        inForce := plannedText toml inst.ext s.inForce rev
        committed := s.committed ++ [(call.revision, rev)] }
    else { s with host := host, issued := call.revision }
  | .error _ => { s with host := host, issued := call.revision }

/-- The number is new, and once the stamp is written the backup is removed. -/
structure StaticCall.Clean (s : Deployed) (call : StaticCall) : Prop where
  increasing : s.issued < call.revision
  removed : call.answers.backupRemoved = true
  stopped : ∀ n, call.stopped = some n →
    n < (stops (untilCommit inst toml call.revision call.document call.answers) s.host).length

end

section
variable {inst : Installation} {toml : Toml} {host₀ : Host}

structure Installed (inst : Installation) (toml : Toml) (host₀ : Host) (revision : Nat)
    (rev : StaticRevision) (host : Host) : Prop where
  stamp : host.revision = .present revision
  plan : ∃ plan, planStaticRevision toml inst.ext host₀.recovered rev = .ok plan
  recovered : host.recovered = plannedText toml inst.ext host₀.recovered rev

/-- A call that returns an error keeps the recovered text and the stamp. -/
theorem wp_command {host : Host} (h : Kept host₀ host) (call : StaticCall) :
    wp (call.command inst toml) host
      (fun _ s => call.answers.backupRemoved = true → ∃ rev, call.document = .ok rev ∧
        Installed inst toml host₀ call.revision rev s)
      (fun _ => Kept host₀) := by
  rw [StaticCall.command, cmdApplyStaticRevision, wp_bind]
  refine (wpk_untilCommit h call.revision call.document call.answers).1.mono ?_ fun _ _ h => h
  rintro outcome s ⟨rev, hrev, hcommits⟩
  rw [wp_bind, wp_runIf]
  split
  · exact fun _ => ⟨rev, hrev, hcommits.stamp, hcommits.plan, hcommits.deployment⟩
  · next hskip =>
    intro hremoved
    have hunchanged : outcome = .unchanged := by
      cases outcome with
      | unchanged => rfl
      | applied => simp [hremoved] at hskip
    refine ⟨rev, hrev, hcommits.stamp, hcommits.plan, ?_⟩
    show s.recovered = _
    rw [Host.recovered, hcommits.backup hunchanged]
    exact hcommits.deployment

theorem StaticCall.Clean.leaves {s : Deployed} {call : StaticCall} (h : call.Clean inst toml s) :
    Kept s.host (after (call.command inst toml) call.stopped s.host) ∨
    ∃ rev, call.document = .ok rev ∧ Installed inst toml s.host call.revision rev
      (after (call.command inst toml) call.stopped s.host) := by
  have hself : Kept s.host s.host := ⟨rfl, rfl⟩
  cases hstopped : call.stopped with
  | none =>
    show Kept _ (final _ _) ∨ _
    cases hresult : result (call.command inst toml) s.host with
    | ok outcome => exact .inr ((wp_command hself call).returns ⟨hresult, rfl⟩ h.removed)
    | error e => exact .inl ((wp_command hself call).error hresult)
  | some n =>
    have hn := h.stopped n hstopped
    left
    unfold command cmdApplyStaticRevision
    rw [after_bind_of_lt s.host _ hn]
    show Kept _ ((stops _ _)[n]?.getD _)
    rw [List.getElem?_eq_getElem hn]
    exact (wpk_untilCommit hself call.revision call.document call.answers).2 _ (List.getElem_mem hn)

/-! ### The committed text -/

/-- What holds after every clean call: `file₀` is the deployment.toml at the start. -/
structure Deployed.Sound (inst : Installation) (toml : Toml) (host₀ : Host) (file₀ : DeploymentFile)
    (s : Deployed) : Prop where
  recovered : s.host.recovered = s.inForce
  loads : toml.load inst.ext s.inForce = .ok (file₀.override (requested s.committed))
  issued : ∀ n, s.host.revision = .present n → n ≤ s.issued
  stamp : ∀ n, s.host.revision = .present n →
    s.committed = [] ∧ host₀.revision = .present n ∨ ∃ rev, s.committed.getLast? = some (n, rev)

theorem requested_append (committed : List (Nat × StaticRevision)) (n : Nat) (rev : StaticRevision) :
    requested (committed ++ [(n, rev)]) = (requested committed).merge rev := by
  simp [requested]

theorem plannedText_loads (hround : toml.RoundTrips) {text : String} {file : DeploymentFile}
    {rev : StaticRevision} (hfile : toml.load inst.ext text = .ok file)
    (hplan : ∃ plan, planStaticRevision toml inst.ext text rev = .ok plan) :
    toml.load inst.ext (plannedText toml inst.ext text rev) = .ok (file.override rev) := by
  obtain ⟨plan, hplan⟩ := hplan
  obtain ⟨original, horiginal, hspec⟩ := plan_spec hround hplan
  rw [hfile] at horiginal
  cases horiginal
  rw [plannedText, hplan]
  cases plan with
  | unchanged => exact hfile.trans (congrArg _ hspec.symm)
  | changed candidateText planned => exact hspec.1.trans (congrArg _ hspec.2)

theorem Deployed.Sound.next (hround : toml.RoundTrips) {file₀ : DeploymentFile} {s : Deployed}
    {call : StaticCall} (h : s.Sound inst toml host₀ file₀) (hclean : call.Clean inst toml s) :
    (call.next inst toml s).Sound inst toml host₀ file₀ := by
  -- a number that is new is in the stamp only if this call has written it
  have hnew : ∀ host, Kept s.host host → host.revision ≠ .present call.revision := by
    intro host hkept heq
    exact absurd (h.issued _ (hkept.revision.symm.trans heq)) (not_le.mpr hclean.increasing)
  have hkeep : ∀ host, Kept s.host host →
      ({ s with host := host, issued := call.revision } : Deployed).Sound inst toml host₀ file₀ := by
    intro host hkept
    refine ⟨hkept.recovered.trans h.recovered, h.loads, ?_, ?_⟩
    · intro n hn
      exact (h.issued n (hkept.revision ▸ hn)).trans hclean.increasing.le
    · intro n hn
      exact h.stamp n (hkept.revision ▸ hn)
  unfold StaticCall.next
  rcases hclean.leaves with hkept | ⟨rev, hrev, hinstalled⟩
  · cases call.document with
    | ok rev =>
      simp only [hnew _ hkept, if_false]
      exact hkeep _ hkept
    | error e => exact hkeep _ hkept
  · simp only [hrev, hinstalled.stamp, if_true]
    have hplan := h.recovered ▸ hinstalled.plan
    refine ⟨h.recovered ▸ hinstalled.recovered, ?_, ?_, ?_⟩
    · rw [plannedText_loads hround h.loads hplan, requested_append, DeploymentFile.override_merge]
    · intro n hn
      cases hinstalled.stamp.symm.trans hn
      exact le_rfl
    · intro n hn
      cases hinstalled.stamp.symm.trans hn
      exact .inr ⟨rev, by simp⟩

/-- In a run of calls with increasing numbers, each of which removes its backup once its stamp is
    written, the text that the next call finds after its recovery is the one committed last.  It
    loads, and holds every value that a committed revision asks for and none since has replaced.
    Each revision is planned against that text, and a call that fails leaves it. -/
theorem static_revisions_committed (hround : toml.RoundTrips) {file₀ : DeploymentFile}
    {issued₀ : Nat} (hload : toml.load inst.ext host₀.recovered = .ok file₀)
    (hissued : ∀ n, host₀.revision = .present n → n ≤ issued₀) {s : Deployed}
    (hrun : Runs.Leads (Runs.total (StaticCall.next inst toml))
      (fun s call => call.Clean inst toml s) ⟨host₀, issued₀, host₀.recovered, []⟩ s) :
    s.host.recovered = s.inForce ∧
    (∃ file, toml.load inst.ext s.inForce = .ok file ∧ file.Contains (requested s.committed)) ∧
    (∀ n, s.host.revision = .present n → s.committed = [] ∧ host₀.revision = .present n ∨
      ∃ rev, s.committed.getLast? = some (n, rev)) ∧
    (∀ a u host, Returns (recoverInterruptedApply inst toml a) s.host u host →
      host.deployment = s.inForce) ∧
    ∀ (call : StaticCall) (e : StaticError), result (call.command inst toml) s.host = .error e →
      (final (call.command inst toml) s.host).recovered = s.inForce := by
  have hsound : s.Sound inst toml host₀ file₀ := by
    refine hrun.invariant (Deployed.Sound inst toml host₀ file₀) ?_ ?_
    · intro s call s' hs hclean hnext
      cases hnext
      exact hs.next hround hclean
    · exact ⟨rfl, hload, hissued, fun n hn => .inl ⟨rfl, hn⟩⟩
  have hself : Kept s.host s.host := ⟨rfl, rfl⟩
  refine ⟨hsound.recovered, ⟨_, hsound.loads, DeploymentFile.contains_override ..⟩, hsound.stamp,
    ?_, ?_⟩
  · rintro a u host ⟨hresult, rfl⟩
    exact ((wpk_recover hself a).1.returns ⟨hresult, rfl⟩).2.1.trans hsound.recovered
  · intro call e he
    exact ((wp_command hself call).error he).recovered.trans hsound.recovered

end

/-! ### A node with one revision -/

def plainExit : DeploymentConfig := { sampleExit with googleEgressHairpin := none }

def deploymentText (server : String) : String :=
  "node_id = \"exit-1\"\npublic_host = \"exit.example.net\"\nrole = \"exit\"\n" ++
    "schema_version = 2\nsubscription_host = \"exit.example.net\"\n\n[hysteria2]\n" ++
    "listen_port = 8443\n\n[reality]\nhandshake_port = 443\nhandshake_server = \"" ++ server ++
    "\"\nlisten_port = 443\n\n[subscription]\nlisten_port = 8080\nprofile_title = \"Example\"\n"

def sampleTable (server : String) : Table :=
  [("hysteria2", .obj [("listen_port", .num 8443)]), ("node_id", .str "exit-1"),
    ("public_host", .str "exit.example.net"),
    ("reality", .obj [("handshake_port", .num 443), ("handshake_server", .str server),
      ("listen_port", .num 443)]),
    ("role", .str "exit"), ("schema_version", .num 2),
    ("subscription", .obj [("listen_port", .num 8080), ("profile_title", .str "Example")]),
    ("subscription_host", .str "exit.example.net")]

/-- The crate on the file of one exit, with either of two handshake servers. -/
def sampleToml : Toml where
  parse text :=
    if text = deploymentText "www.example.org" then .ok (sampleTable "www.example.org")
    else if text = deploymentText "www.example.com" then .ok (sampleTable "www.example.com")
    else .error "expected a table"
  print t :=
    if t = sampleTable "www.example.org" then .ok (deploymentText "www.example.org")
    else if t = sampleTable "www.example.com" then .ok (deploymentText "www.example.com")
    else .error "unsupported table"
  others view := do
    let schemaVersion ← readOr (readUnsigned 32) 0 (view ["schema_version"])
    let nodeId ← readOr readStr "" (view ["node_id"])
    let publicHost ← readRequired readStr "public_host" (view ["public_host"])
    let reality ← readRequired (readUnsigned 16) "listen_port" (view ["reality", "listen_port"])
    let handshake ← readOr (readUnsigned 16) 443 (view ["reality", "handshake_port"])
    let hysteria ← readRequired (readUnsigned 16) "listen_port" (view ["hysteria2", "listen_port"])
    .ok ⟨{ plainExit with
      schemaVersion, nodeId, publicHost
      reality := ⟨reality, "", handshake⟩
      hysteria2 := ⟨hysteria, none, none⟩ }, none, .null⟩

theorem sampleToml_parse (server : String)
    (h : server = "www.example.org" ∨ server = "www.example.com") :
    sampleToml.parse (deploymentText server) = .ok (sampleTable server) := by
  rcases h with rfl | rfl <;> decide +kernel

theorem sampleToml_roundTrips : sampleToml.RoundTrips := by
  intro t text h
  unfold sampleToml at h
  dsimp only at h
  split at h
  · next ht =>
    cases h
    rw [ht]
    exact sampleToml_parse _ (.inl rfl)
  · split at h
    · next ht =>
      cases h
      rw [ht]
      exact sampleToml_parse _ (.inr rfl)
    · cases h

def sampleAnswers : StaticAnswers where
  recovery := ⟨true, true, ⟨0, smooth⟩, true, true, true⟩
  stampWritten := true
  preflightNow := 0
  offlineMutationAllowed := false
  resolved := true
  backupWritten := true
  candidateWritten := true
  unusedBackupRemoved := true
  apply := ⟨0, smooth⟩
  subscriptionControllable := true
  subscriptionRestarted := true
  backupRemoved := true
  originalWritten := true
  rollback := ⟨0, smooth⟩
  subscriptionRestored := true
  rolledBackBackupRemoved := true

def sampleStaticCall (stopped : Option Nat) : StaticCall where
  revision := 1
  document := .ok { handshakeServer := some "www.example.com" }
  answers := sampleAnswers
  stopped := stopped

def sampleDeployed : Deployed where
  host := { sampleHost with deployment := deploymentText "www.example.org" }
  issued := 0
  inForce := deploymentText "www.example.org"
  committed := []

/-- The first revision of a fresh node. -/
theorem static_revisions_committed_first :
    let s := (sampleStaticCall none).next sampleInstallation sampleToml sampleDeployed
    s.host.revision = .present 1 ∧ s.host.recovered = s.inForce ∧
      ∃ file, sampleToml.load sampleExternal s.inForce = .ok file ∧
        file.Contains (requested s.committed) := by
  have hload : sampleToml.load sampleInstallation.ext sampleDeployed.host.recovered =
      .ok (DeploymentFile.mk plainExit none .null) := by decide +kernel
  have hrun : Runs.Leads (Runs.total (StaticCall.next sampleInstallation sampleToml))
      (fun s call => call.Clean sampleInstallation sampleToml s) sampleDeployed
      ((sampleStaticCall none).next sampleInstallation sampleToml sampleDeployed) :=
    Runs.Leads.snoc (Runs.Leads.refl _) (e := sampleStaticCall none)
      ⟨by decide, rfl, fun n hn => by cases hn⟩ rfl
  have hcommitted := static_revisions_committed sampleToml_roundTrips hload
    (fun n hn => by cases hn) hrun
  exact ⟨by decide +kernel, hcommitted.1, hcommitted.2.1⟩

/-- A process that is stopped between the commit and the removal of the backup: the stamp says 1,
    and the recovery of the next call puts the text before revision 1 back into force. -/
theorem static_revision_undone :
    let s := (sampleStaticCall (some 6)).next sampleInstallation sampleToml sampleDeployed
    let p := recoverInterruptedApply sampleInstallation sampleToml sampleAnswers.recovery
    s.host.revision = .present 1 ∧ result p s.host = .ok () ∧
      (final p s.host).revision = .present 1 ∧
      (final p s.host).deployment = deploymentText "www.example.org" ∧
      ((sampleToml.load sampleExternal (final p s.host).deployment).toOption.map
        (·.config.reality.handshakeServer)) = some "www.example.org" ∧
      (requested s.committed).handshakeServer = some "www.example.com" := by
  decide +kernel

end SingboxVpn.Apply
