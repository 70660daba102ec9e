import SingboxVpn.Lib.Json
import SingboxVpn.Lib.Killable

/-!
# vpn-admin: putting a sing-box config into force

`render_and_apply_singbox_config_with` (`apps/admin/src/main.rs`), with
`apply_config_atomically` (`compat-config/src/server.rs`) and `reload_and_verify`
(`apps/admin/src/service.rs`), as a program on the node: the config file, its `.bak` copy, the
fingerprint of the last config verified live, and the document the running service has loaded.
What the machine answers on the way is data of the call (`Outcomes`).
-/

namespace SingboxVpn.Apply

open Json Killable

/-! ### The node -/

/-- What a config file holds: a document, or text that does not parse as one. -/
inductive Content where
  | doc (d : Json)
  | damaged
  deriving DecidableEq

structure Node where
  /-- `cfg.singbox_config_file()` -/
  target : Option Content
  /-- `config_backup_path(&target)` -/
  backup : Option Content
  /-- `applied_config_stamp_path(&target)`, trimmed -/
  stamp : Option String
  /-- `tls-spoof-restarted-for.sha256`, trimmed -/
  spoofStamp : Option String
  /-- the document the running sing-box has loaded, if it runs -/
  running : Option Json
  /-- how often the service was restarted -/
  reloads : Nat
  deriving DecidableEq

/-! ### What the machine answers -/

/-- `std::fs::copy` and other writes in place: a failed one may leave a damaged file. -/
inductive Copy where
  | done
  | untouched
  | torn
  deriving DecidableEq

def Copy.onto (c : Copy) (source target : Option Content) : Option Content :=
  match source, c with
  | some content, .done => some content
  | some _, .torn => some .damaged
  | _, _ => target

/-- `systemctl reload-or-restart`: a new process that reads the config file, with the answers of
    `is-active` after it, or a refusal that leaves the old process running or not. -/
inductive Restart where
  | restarted (polls : List Bool)
  | refused (alive : Bool)
  deriving DecidableEq

/-- What came of writing the capability drop-in. -/
inductive DropinSync where
  | unchanged
  | changed
  | skipped
  | failed
  deriving DecidableEq

inductive RealitySelfTestOutcome where
  | pass
  | handshakeRejected
  | inconclusive
  deriving DecidableEq

inductive HandshakeVerification where
  | ran (outcome : RealitySelfTestOutcome)
  | notRun (reason : String)
  deriving DecidableEq

structure Outcomes where
  /-- `SINGBOX_VPN_ALLOW_OFFLINE_MUTATION=1` -/
  offlineMutationAllowed : Bool
  binaryExists : Bool
  isAvailable : Bool
  isUnitInstalled : Bool
  /-- whether `is-active` could be asked -/
  activeAsked : Bool
  dropin : DropinSync
  lacksCapabilities : Option Bool
  tmpWritten : Bool
  /-- `sing-box check` -/
  checked : Bool
  backupCopy : Copy
  renamed : Bool
  availableAfter : Bool
  installedAfter : Bool
  reload : Restart
  lacksAfter : Option Bool
  handshake : HandshakeVerification
  restoreCopy : Copy
  recoveryReload : Restart
  stampWritten : Bool
  spoofStampWrite : Copy
  deriving DecidableEq

/-- Why there is no candidate document: the key files, or the renderer. -/
inductive Unrendered where
  | keys (e : String)
  | refused (e : String)
  deriving DecidableEq

structure Call where
  candidate : Except Unrendered Json
  requireLiveApply : Bool
  strictSpoofCapabilities : Bool
  /-- the hash of the drop-in that the configuration wants -/
  spoofContentHash : Option String
  outcomes : Outcomes

/-! ### What the pipeline reports -/

/-- The last sentence of a failure after a reload. -/
inductive Recovery where
  | restored
  | broken
  deriving DecidableEq

inductive ReloadError where
  | notRestarted
  | notActive
  deriving DecidableEq

inductive ApplyError where
  | keys (e : String)
  | render (e : String)
  | binaryMissing
  | serviceUnavailable
  | dropin
  | write
  | check
  | backupCopy
  | rename
  | reload (e : ReloadError) (recovery : Recovery)
  | capabilities
  | handshake (recovery : Recovery)
  | stamp
  deriving DecidableEq

/-- What an error says about the config that was in force before. -/
def ApplyError.recovery : ApplyError → Option Recovery
  | .reload _ r => some r
  | .handshake r => some r
  | _ => none

/-- `Ok(false)`, and the two ways to `Ok(true)`. -/
inductive Applied where
  | notLive
  | current
  | live
  deriving DecidableEq

def Applied.wentLive (a : Applied) : Bool := a != .notLive

/-! ### Restarting the service -/

def MAX_POLLS : Nat := 10

/-- Three healthy observations in a row. -/
def remainsActive : Nat → List Bool → Bool
  | _, [] => false
  | consecutiveActive, active :: polls =>
    if active then
      if consecutiveActive + 1 = 3 then true else remainsActive (consecutiveActive + 1) polls
    else remainsActive 0 polls

def Restart.loads (r : Restart) (node : Node) : Option Json :=
  match r, node.target with
  | .restarted polls, some (.doc d) =>
    if remainsActive 0 (polls.take MAX_POLLS) then some d else none
  | _, _ => none

def Restart.error (r : Restart) : ReloadError :=
  match r with
  | .restarted _ => .notActive
  | .refused _ => .notRestarted

def Node.restart (r : Restart) (node : Node) : Node :=
  { node with
    running := if r = .refused true then node.running else r.loads node
    reloads := node.reloads + 1 }

def reloadAndVerify (r : Restart) : Prog ReloadError Node Unit := do
  let node ← read
  Killable.step (Node.restart r)
  refuse (r.loads node).isNone r.error

/-! ### The pipeline -/

/-- Write the candidate, have it checked, keep the old file as backup, and swap. -/
def applyConfigAtomically (doc : Json) (o : Outcomes) : Prog ApplyError Node Unit := do
  refuse (!o.tmpWritten) .write
  refuse (!o.checked) .check
  let node ← read
  runIf node.target.isSome do
    Killable.step fun node => { node with backup := o.backupCopy.onto node.target node.backup }
    refuse (o.backupCopy != .done) .backupCopy
  refuse (!o.renamed) .rename
  Killable.step fun node => { node with target := some (.doc doc) }

def restorePrevious (o : Outcomes) : Prog ApplyError Node Recovery := do
  let node ← read
  runIf node.backup.isSome do
    Killable.step fun node => { node with target := o.restoreCopy.onto node.backup node.target }
  if node.backup.isSome && o.restoreCopy == .done then
    match ← attempt (reloadAndVerify o.recoveryReload) with
    | .ok _ => pure .restored
    | .error _ => pure .broken
  else pure .broken

/-- Remember the document that is in force. -/
def commitAppliedConfigStamp (fingerprint : String) (written : Bool) :
    Prog ApplyError Node Unit := do
  refuse (!written) .stamp
  Killable.step fun node => { node with stamp := some fingerprint }

/-- Remembers which drop-in a restart was for; a failure is only warned about. -/
def recordSpoofRestart (spoofContentHash : Option String) (write : Copy) :
    Prog ApplyError Node Unit :=
  Killable.step fun node =>
    { node with
      spoofStamp :=
        match write, spoofContentHash with
        | .done, hash => hash
        | .torn, some _ => some ""
        | _, _ => node.spoofStamp }

/-- Whether the unit is active, as the manager answers. -/
def Outcomes.isActive (o : Outcomes) (node : Node) : Bool := o.activeAsked && node.running.isSome

def Outcomes.serviceAvailable (o : Outcomes) : Bool := o.isAvailable && o.isUnitInstalled

def Call.capsRestartDue (c : Call) (node : Node) : Bool :=
  c.outcomes.lacksCapabilities == some true && c.spoofContentHash != node.spoofStamp

def Call.capabilityRestart (c : Call) (node : Node) : Bool :=
  c.outcomes.dropin == .changed || c.capsRestartDue node

section
variable (fingerprint : Json → String)

/-- The config file and the stamp both say that the document is in force. -/
def Node.alreadyCurrent (doc : Json) (node : Node) : Bool :=
  node.target == some (.doc doc) && node.stamp == some (fingerprint doc)

def goLive (c : Call) (capabilityRestart : Bool) (doc : Json) : Prog ApplyError Node Applied := do
  match ← attempt (reloadAndVerify c.outcomes.reload) with
  | .error e =>
    let recovery ← restorePrevious c.outcomes
    fail (.reload e recovery)
  | .ok _ =>
    refuse (c.strictSpoofCapabilities && c.outcomes.lacksAfter == some true) .capabilities
    if c.outcomes.handshake = .ran .handshakeRejected then
      let recovery ← restorePrevious c.outcomes
      fail (.handshake recovery)
    else
      commitAppliedConfigStamp (fingerprint doc) c.outcomes.stampWritten
      runIf capabilityRestart (recordSpoofRestart c.spoofContentHash c.outcomes.spoofStampWrite)
      pure .live

/-- The part of the pipeline that has a document and a binary to check it with. -/
def applyDocument (c : Call) (doc : Json) : Prog ApplyError Node Applied := do
  refuse (c.requireLiveApply && !c.outcomes.serviceAvailable && !c.outcomes.offlineMutationAllowed)
    .serviceUnavailable
  refuse (c.strictSpoofCapabilities && c.outcomes.dropin == .failed) .dropin
  let node ← read
  if !c.capabilityRestart node && node.alreadyCurrent fingerprint doc &&
      c.outcomes.serviceAvailable && c.outcomes.isActive node then
    pure .current
  else
    applyConfigAtomically doc c.outcomes
    if !(c.outcomes.availableAfter && c.outcomes.installedAfter) then pure .notLive
    else goLive fingerprint c (c.capabilityRestart node) doc

/-- Without a live service or an explicit opt-out of it, a mutation is refused rather than
    written only. -/
def renderAndApplySingboxConfigWith (c : Call) : Prog ApplyError Node Applied :=
  let offline := c.outcomes.offlineMutationAllowed
  match c.candidate with
  | .error (.keys e) =>
    if c.requireLiveApply && !offline then fail (.keys e) else pure .notLive
  | .error (.refused e) => fail (.render e)
  | .ok doc =>
    if !c.outcomes.binaryExists then
      if c.requireLiveApply && !offline then fail .binaryMissing else pure .notLive
    else applyDocument fingerprint c doc

end

/-! ### Every way to end -/

def Node.placed (doc : Json) (node : Node) : Node :=
  { node with
    backup := if node.target.isSome then node.target else node.backup
    target := some (.doc doc) }

inductive Recovered (o : Outcomes) (node : Node) : Recovery → Node → Prop
  | missing : node.backup = none → Recovered o node .broken node
  | notCopied {content : Content} : node.backup = some content → o.restoreCopy ≠ .done →
      Recovered o node .broken { node with target := o.restoreCopy.onto node.backup node.target }
  | reloaded {content : Content} {d : Json} : node.backup = some content → o.restoreCopy = .done →
      o.recoveryReload.loads { node with target := some content } = some d →
      Recovered o node .restored
        (Node.restart o.recoveryReload { node with target := some content })
  | notReloaded {content : Content} : node.backup = some content → o.restoreCopy = .done →
      o.recoveryReload.loads { node with target := some content } = none →
      Recovered o node .broken
        (Node.restart o.recoveryReload { node with target := some content })

inductive Ended (fingerprint : Json → String) (c : Call) (node : Node) :
    Except ApplyError Applied → Node → Prop
  | notPlaced {e : ApplyError} {content : Option Content} : e.recovery = none →
      (node.target = none → content = node.backup) →
      Ended fingerprint c node (.error e) { node with backup := content }
  | skipped : Ended fingerprint c node (.ok .notLive) node
  | current {doc : Json} : c.candidate = .ok doc → node.alreadyCurrent fingerprint doc = true →
      node.running.isSome = true → Ended fingerprint c node (.ok .current) node
  | placed {doc : Json} : c.candidate = .ok doc →
      (c.outcomes.availableAfter && c.outcomes.installedAfter) = false →
      Ended fingerprint c node (.ok .notLive) (node.placed doc)
  | notLoaded {doc : Json} {r : Recovery} {node' : Node} : c.candidate = .ok doc →
      c.outcomes.reload.loads (node.placed doc) = none →
      (c.outcomes.availableAfter && c.outcomes.installedAfter) = true →
      Recovered c.outcomes ((node.placed doc).restart c.outcomes.reload) r node' →
      Ended fingerprint c node (.error (.reload c.outcomes.reload.error r)) node'
  | incapable {doc : Json} : c.candidate = .ok doc →
      c.outcomes.reload.loads (node.placed doc) = some doc →
      (c.strictSpoofCapabilities && c.outcomes.lacksAfter == some true) = true →
      Ended fingerprint c node (.error .capabilities) ((node.placed doc).restart c.outcomes.reload)
  | rejected {doc : Json} {r : Recovery} {node' : Node} : c.candidate = .ok doc →
      c.outcomes.reload.loads (node.placed doc) = some doc →
      c.outcomes.handshake = .ran .handshakeRejected →
      Recovered c.outcomes ((node.placed doc).restart c.outcomes.reload) r node' →
      Ended fingerprint c node (.error (.handshake r)) node'
  | notStamped {doc : Json} : c.candidate = .ok doc →
      c.outcomes.reload.loads (node.placed doc) = some doc →
      c.outcomes.stampWritten = false →
      Ended fingerprint c node (.error .stamp) ((node.placed doc).restart c.outcomes.reload)
  | live {doc : Json} {spoofStamp : Option String} : c.candidate = .ok doc →
      c.outcomes.reload.loads (node.placed doc) = some doc →
      c.outcomes.handshake ≠ .ran .handshakeRejected → c.outcomes.stampWritten = true →
      Ended fingerprint c node (.ok .live)
        { (node.placed doc).restart c.outcomes.reload with
          stamp := some (fingerprint doc)
          spoofStamp := spoofStamp }

variable {r : Restart} {node node' : Node} {d : Json} {u : Unit}

theorem loads_target (h : r.loads node = some d) : node.target = some (.doc d) := by
  unfold Restart.loads at h
  split at h
  · next polls d' htarget =>
    split at h
    · rw [htarget, Option.some.inj h]
    · cases h
  · cases h

theorem running_restart (h : r.loads node = some d) : (node.restart r).running = some d := by
  unfold Node.restart
  split
  · next hrefused =>
    rw [hrefused] at h
    cases h
  · exact h

theorem wp_reload {ok : Unit → Node → Prop} {failed : ReloadError → Node → Prop} :
    wp (reloadAndVerify r) node ok failed ↔
      if (r.loads node).isSome then ok () (node.restart r) else failed r.error (node.restart r) := by
  cases hloads : r.loads node <;> simp [reloadAndVerify, wp_refuse, hloads]

theorem wp_restorePrevious {o : Outcomes} {ok : Recovery → Node → Prop}
    {failed : ApplyError → Node → Prop} (h : ∀ r s, Recovered o node r s → ok r s) :
    wp (restorePrevious o) node ok failed := by
  rw [restorePrevious, wp_bind, wp_read, wp_bind, wp_runIf]
  obtain ⟨target, backup, stamp, spoofStamp, running, reloads⟩ := node
  cases backup with
  | none => exact h _ _ (.missing rfl)
  | some content =>
    by_cases hcopy : o.restoreCopy = .done
    · simp only [hcopy, Option.isSome_some, beq_self_eq_true, Bool.and_self, if_true, wp_bind,
        wp_step, wp_attempt, wp_reload, Copy.onto]
      split
      · next hloads =>
        obtain ⟨d, hd⟩ := Option.isSome_iff_exists.mp hloads
        exact h _ _ (.reloaded rfl hcopy hd)
      · next hloads => exact h _ _ (.notReloaded rfl hcopy (by simpa using hloads))
    · have hskip : (o.restoreCopy == .done) = false := by simpa using hcopy
      simp only [Option.isSome_some, hskip, Bool.and_false, Bool.false_eq_true, if_true, if_false,
        wp_step, wp_pure]
      exact h _ _ (.notCopied rfl hcopy)

theorem wp_applyConfigAtomically (doc : Json) (o : Outcomes) (node : Node) :
    wp (applyConfigAtomically doc o) node (fun _ s => s = node.placed doc) fun e s =>
      e.recovery = none ∧ ∃ content, (node.target = none → content = node.backup) ∧
        s = { node with backup := content } := by
  simp only [applyConfigAtomically, wp_bind, wp_refuse, wp_read, wp_runIf, wp_step]
  obtain ⟨target, backup, stamp, spoofStamp, running, reloads⟩ := node
  split
  · exact ⟨rfl, _, fun _ => rfl, rfl⟩
  split
  · exact ⟨rfl, _, fun _ => rfl, rfl⟩
  cases target with
  | none =>
    simp only [Option.isSome_none, Bool.false_eq_true, if_false]
    split
    · exact ⟨rfl, _, fun _ => rfl, rfl⟩
    · rfl
  | some content =>
    simp only [Option.isSome_some, if_true]
    split
    · exact ⟨rfl, _, fun h => (by cases h), rfl⟩
    split
    · exact ⟨rfl, _, fun h => (by cases h), rfl⟩
    · next hdone _ => simp_all [Node.placed, Copy.onto]

theorem returns_reload (h : Returns (reloadAndVerify r) node u node') :
    node' = node.restart r ∧ (r.loads node).isSome := by
  have hend : wp (reloadAndVerify r) node
      (fun _ s => s = node.restart r ∧ (r.loads node).isSome) fun _ _ => True := by
    rw [wp_reload]
    split
    · next hloads => exact ⟨rfl, hloads⟩
    · trivial
  exact hend.returns h

theorem returns_place {doc : Json} {o : Outcomes}
    (h : Returns (applyConfigAtomically doc o) node u node') : node' = node.placed doc :=
  (wp_applyConfigAtomically doc o node).returns h

section
variable {fingerprint : Json → String} {c : Call} {doc : Json}

theorem wp_goLive (capabilityRestart : Bool) (hdoc : c.candidate = .ok doc)
    (hserved : (c.outcomes.availableAfter && c.outcomes.installedAfter) = true) :
    wp (goLive fingerprint c capabilityRestart doc) (node.placed doc)
      (fun r => Ended fingerprint c node (.ok r)) fun e => Ended fingerprint c node (.error e) := by
  rw [goLive, wp_bind, wp_attempt, wp_reload]
  cases hload : c.outcomes.reload.loads (node.placed doc) with
  | none =>
    show wp (restorePrevious _ >>= _) _ _ _
    rw [wp_bind]
    exact wp_restorePrevious fun r s => .notLoaded hdoc hload hserved
  | some d =>
    -- a restart that loads at all loads the candidate
    obtain rfl : doc = d := Content.doc.inj (Option.some.inj (loads_target hload))
    show wp (refuse _ _ >>= _) _ _ _
    rw [wp_bind, wp_refuse]
    split
    · next hlacks => exact Ended.incapable hdoc hload hlacks
    split
    · next hrejected =>
      rw [wp_bind]
      exact wp_restorePrevious fun r s => .rejected hdoc hload hrejected
    · next haccepted =>
      cases hwritten : c.outcomes.stampWritten with
      | false => exact Ended.notStamped hdoc hload hwritten
      | true => cases capabilityRestart <;> exact Ended.live hdoc hload haccepted hwritten

/-- However the machine answers, the pipeline ends in one of the listed ways, unless it is
    stopped. -/
theorem apply_ends (fingerprint : Json → String) (c : Call) (node : Node) :
    wp (renderAndApplySingboxConfigWith fingerprint c) node
      (fun r => Ended fingerprint c node (.ok r)) fun e => Ended fingerprint c node (.error e) := by
  have hfail : ∀ {e : ApplyError}, e.recovery = none → Ended fingerprint c node (.error e) node :=
    fun he => .notPlaced he fun _ => rfl
  simp only [renderAndApplySingboxConfigWith]
  split
  · split
    · exact hfail rfl
    · exact Ended.skipped
  · exact hfail rfl
  · next doc hcandidate =>
    split
    · split
      · exact hfail rfl
      · exact Ended.skipped
    simp only [applyDocument, wp_bind, wp_refuse, wp_read]
    split
    · exact hfail rfl
    split
    · exact hfail rfl
    split
    · next hcurrent =>
      simp only [Bool.and_eq_true, Outcomes.isActive] at hcurrent
      exact Ended.current hcandidate hcurrent.1.1.2 hcurrent.2.2
    · rw [wp_bind]
      refine (wp_applyConfigAtomically doc c.outcomes node).mono ?_ ?_
      · rintro _ s rfl
        split
        · next hserved => exact Ended.placed hcandidate (by rwa [Bool.not_eq_true'] at hserved)
        · next hserved => exact wp_goLive _ hcandidate (by simpa using hserved)
      · rintro e s ⟨he, content, hcontent, rfl⟩
        exact .notPlaced he hcontent

end

/-- Answers of a machine on which everything works. -/
def smooth : Outcomes where
  offlineMutationAllowed := false
  binaryExists := true
  isAvailable := true
  isUnitInstalled := true
  activeAsked := true
  dropin := .unchanged
  lacksCapabilities := none
  tmpWritten := true
  checked := true
  backupCopy := .done
  renamed := true
  availableAfter := true
  installedAfter := true
  reload := .restarted [true, true, true]
  lacksAfter := none
  handshake := .ran .pass
  restoreCopy := .done
  recoveryReload := .restarted [true, true, true]
  stampWritten := true
  spoofStampWrite := .done

def installed : Node where
  target := none
  backup := none
  stamp := none
  spoofStamp := none
  running := none
  reloads := 0

end SingboxVpn.Apply
