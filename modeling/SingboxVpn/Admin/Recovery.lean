import SingboxVpn.Admin.Apply
import SingboxVpn.Lib.Run

/-!
# vpn-admin: what the config file, the stamp and the running service say about each other

Runs of `render_and_apply_singbox_config` calls, each with any candidate document and any answers
of the machine.
-/

namespace SingboxVpn.Apply

open Json Killable

section
variable (fingerprint : Json → String)

def next (node : Node) (c : Call) : Node :=
  final (renderAndApplySingboxConfigWith fingerprint c) node

def returned (node : Node) (c : Call) : Except ApplyError Applied :=
  result (renderAndApplySingboxConfigWith fingerprint c) node

theorem ended (node : Node) (c : Call) :
    Ended fingerprint c node (returned fingerprint node c) (next fingerprint node c) := by
  have hend := apply_ends fingerprint c node
  cases hresult : returned fingerprint node c with
  | ok a => exact hend.returns ⟨hresult, rfl⟩
  | error e => exact hend.error hresult

/-! ### The short-circuit -/

/-- A node as installed, or with its config verified live. -/
def Node.Begun (node : Node) : Prop :=
  (node.target = none ∧ node.backup = none ∧ node.running = none) ∨
    ∃ d, node.target = some (.doc d) ∧ node.running = some d

/-- What the file and the stamp say is true of the service, if it runs. -/
structure Node.Coherent (node : Node) : Prop where
  running : ∀ d r, node.alreadyCurrent fingerprint d = true → node.running = some r → r = d
  empty : node.target = none → node.backup = none ∧ node.running = none

/-- The self-test rejects the candidate, the file goes back to the document the stamp names, and
    the restart to it is refused while the rejected process runs on. -/
def LeavesRejected (node : Node) (c : Call) : Prop :=
  ∃ doc d, c.candidate = .ok doc ∧ d ≠ doc ∧ node.alreadyCurrent fingerprint d = true ∧
    c.outcomes.handshake = .ran .handshakeRejected ∧ c.outcomes.restoreCopy = .done ∧
    c.outcomes.recoveryReload = .refused true

/-- Another document runs than the one the stamp names, the candidate is the latter, and it stays
    in the file without a restart: no service to ask, or a refused restart and no copy back. -/
def LeavesUnloaded (node : Node) (c : Call) : Prop :=
  ∃ doc r, c.candidate = .ok doc ∧ node.stamp = some (fingerprint doc) ∧
    node.running = some r ∧ r ≠ doc ∧
    ((c.outcomes.availableAfter && c.outcomes.installedAfter) = false ∨
      (c.outcomes.reload = .refused true ∧ c.outcomes.restoreCopy = .untouched))

variable {fingerprint}

variable {node node' : Node} {d doc : Json} {r : Restart} {c : Call}

theorem alreadyCurrent_iff :
    node.alreadyCurrent fingerprint d = true ↔
      node.target = some (.doc d) ∧ node.stamp = some (fingerprint d) := by
  simp [Node.alreadyCurrent]

theorem Node.Begun.coherent (h : node.Begun) : node.Coherent fingerprint := by
  rcases h with ⟨htarget, hbackup, hrunning⟩ | ⟨d, htarget, hrunning⟩
  · refine ⟨fun d r hcurrent hr => ?_, fun _ => ⟨hbackup, hrunning⟩⟩
    rw [hrunning] at hr
    cases hr
  · refine ⟨fun d' r hcurrent hr => ?_, fun hnone => ?_⟩
    · rw [(alreadyCurrent_iff.mp hcurrent).1] at htarget
      rw [hrunning] at hr
      cases htarget
      exact (Option.some.inj hr).symm
    · rw [htarget] at hnone
      cases hnone

theorem running_of_not_loaded (h : r.loads node = none) :
    (node.restart r).running = if r = .refused true then node.running else none := by
  simp [Node.restart, h]

/-- Where the running document is the one in the file, nothing is claimed wrongly. -/
theorem coherent_of_running (htarget : node.target ≠ none)
    (h : ∀ d r, node.target = some (.doc d) → node.running = some r → r = d) :
    node.Coherent fingerprint :=
  ⟨fun d r hcurrent hr => h d r (alreadyCurrent_iff.mp hcurrent).1 hr,
    fun hnone => absurd hnone htarget⟩

theorem coherent_loaded (h : r.loads node = some d) : (node.restart r).Coherent fingerprint := by
  have htarget : (node.restart r).target = some (.doc d) := loads_target h
  refine coherent_of_running (by simp [htarget]) fun d' r' hd' hr' => ?_
  rw [htarget] at hd'
  rw [running_restart h] at hr'
  cases hd'
  exact (Option.some.inj hr').symm

theorem Node.Coherent.placed_backup (h : node.Coherent fingerprint) (doc : Json) :
    (node.placed doc).backup = node.target := by
  cases htarget : node.target with
  | none => simp [Node.placed, htarget, (h.empty htarget).1]
  | some content => simp [Node.placed, htarget]

theorem coherent_after_not_loaded {r : Recovery} (h : node.Coherent fingerprint)
    (hdoc : c.candidate = .ok doc) (hunloaded : ¬ LeavesUnloaded fingerprint node c)
    (hnone : c.outcomes.reload.loads (node.placed doc) = none)
    (hrecovered : Recovered c.outcomes ((node.placed doc).restart c.outcomes.reload) r node') :
    node'.Coherent fingerprint := by
  have hrunning := running_of_not_loaded hnone
  -- the old process runs on only after a refused restart
  have hold : ∀ x, ((node.placed doc).restart c.outcomes.reload).running = some x →
      c.outcomes.reload = .refused true ∧ node.running = some x := by
    intro x hx
    rw [hrunning] at hx
    split at hx
    · next hrefused => exact ⟨hrefused, hx⟩
    · cases hx
  cases hrecovered with
  | missing hbackup =>
    refine coherent_of_running (by simp [Node.restart, Node.placed]) fun d x _ hx => ?_
    have htarget : node.target = none := (h.placed_backup doc).symm.trans hbackup
    rw [(h.empty htarget).2] at hold
    cases (hold x hx).2
  | notCopied hbackup hcopy =>
    refine ⟨fun d x hcurrent hx => ?_, fun hempty => ?_⟩
    · obtain ⟨htarget, hstamp⟩ := alreadyCurrent_iff.mp hcurrent
      rw [hbackup] at htarget
      cases hcase : c.outcomes.restoreCopy with
      | done => exact absurd hcase hcopy
      | torn =>
        rw [hcase] at htarget
        cases htarget
      | untouched =>
        rw [hcase] at htarget
        cases htarget
        by_contra hne
        obtain ⟨hrefused, hx⟩ := hold x hx
        exact hunloaded ⟨doc, x, hdoc, hstamp, hx, hne, .inr ⟨hrefused, hcase⟩⟩
    · rw [hbackup] at hempty
      cases hcase : c.outcomes.restoreCopy <;> rw [hcase] at hempty <;> cases hempty
  | reloaded _ _ hloads => exact coherent_loaded hloads
  | @notReloaded content hbackup hcopy hloads =>
    have htarget : node.target = some content := (h.placed_backup doc).symm.trans hbackup
    refine ⟨fun d x hcurrent hx => ?_, fun hempty => by cases hempty⟩
    rw [running_of_not_loaded hloads] at hx
    split at hx
    · obtain ⟨_, hx⟩ := hold x hx
      refine h.running d x (alreadyCurrent_iff.mpr ?_) hx
      rw [htarget]
      exact alreadyCurrent_iff.mp hcurrent
    · cases hx

theorem coherent_after_rejected {r : Recovery} (h : node.Coherent fingerprint)
    (hdoc : c.candidate = .ok doc) (hrejected : ¬ LeavesRejected fingerprint node c)
    (hloads : c.outcomes.reload.loads (node.placed doc) = some doc)
    (hhandshake : c.outcomes.handshake = .ran .handshakeRejected)
    (hrecovered : Recovered c.outcomes ((node.placed doc).restart c.outcomes.reload) r node') :
    node'.Coherent fingerprint := by
  have hrunning : ((node.placed doc).restart c.outcomes.reload).running = some doc :=
    running_restart hloads
  cases hrecovered with
  | missing _ => exact coherent_loaded hloads
  | notCopied hbackup hcopy =>
    have htarget : ∀ d, c.outcomes.restoreCopy.onto
        ((node.placed doc).restart c.outcomes.reload).backup (some (.doc doc)) = some (.doc d) →
        doc = d := by
      intro d hd
      rw [hbackup] at hd
      cases hcase : c.outcomes.restoreCopy <;> rw [hcase] at hd <;> cases hd
      · exact absurd hcase hcopy
      · rfl
    refine coherent_of_running ?_ fun d x hd hx => ?_
    · show c.outcomes.restoreCopy.onto _ (some (.doc doc)) ≠ none
      rw [hbackup]
      cases c.outcomes.restoreCopy <;> simp [Copy.onto]
    · rw [← htarget d hd, ← Option.some.inj (hrunning.symm.trans hx)]
  | reloaded _ _ hloads' => exact coherent_loaded hloads'
  | @notReloaded content hbackup hcopy hloads' =>
    have htarget : node.target = some content := (h.placed_backup doc).symm.trans hbackup
    refine ⟨fun d x hcurrent hx => ?_, fun hempty => by cases hempty⟩
    rw [running_of_not_loaded hloads'] at hx
    split at hx
    · next hrefused =>
      by_contra hne
      have hdoc' : doc = x := Option.some.inj (hrunning.symm.trans hx)
      refine hrejected ⟨doc, d, hdoc, ?_, alreadyCurrent_iff.mpr ?_, hhandshake, hcopy, hrefused⟩
      · rw [hdoc']
        exact Ne.symm hne
      · rw [htarget]
        exact alreadyCurrent_iff.mp hcurrent
    · cases hx

theorem coherent_next (h : node.Coherent fingerprint)
    (hrejected : ¬ LeavesRejected fingerprint node c)
    (hunloaded : ¬ LeavesUnloaded fingerprint node c) :
    (next fingerprint node c).Coherent fingerprint := by
  have hend := ended fingerprint node c
  generalize next fingerprint node c = node', returned fingerprint node c = r at hend
  cases hend with
  | @notPlaced _ content _ hbackup =>
    refine ⟨h.running, fun hnone => ⟨?_, (h.empty hnone).2⟩⟩
    show content = none
    rw [hbackup hnone, (h.empty hnone).1]
  | skipped => exact h
  | current => exact h
  | @placed doc hdoc hserved =>
    refine ⟨fun d x hcurrent hx => ?_, fun hempty => by cases hempty⟩
    obtain ⟨htarget, hstamp⟩ := alreadyCurrent_iff.mp hcurrent
    cases htarget
    by_contra hne
    exact hunloaded ⟨doc, x, hdoc, hstamp, hx, hne, .inl hserved⟩
  | notLoaded hdoc hnone _ hrecovered =>
    exact coherent_after_not_loaded h hdoc hunloaded hnone hrecovered
  | incapable _ hloads => exact coherent_loaded hloads
  | rejected hdoc hloads hhandshake hrecovered =>
    exact coherent_after_rejected h hdoc hrejected hloads hhandshake hrecovered
  | notStamped _ hloads => exact coherent_loaded hloads
  | @live doc spoofStamp _ hloads =>
    refine coherent_of_running (by simp [Node.restart, Node.placed]) fun d x hd hx => ?_
    cases hd
    exact Option.some.inj (hx.symm.trans (running_restart hloads))

/-- Whenever a call finds its candidate already in force, the running service has loaded it. -/
theorem current_is_running {start node : Node} (hstart : start.Begun)
    (hrun : Runs.Leads (Runs.total (next fingerprint))
      (fun node c => ¬ LeavesRejected fingerprint node c ∧ ¬ LeavesUnloaded fingerprint node c)
      start node)
    (c : Call) (hcurrent : returned fingerprint node c = .ok .current) :
    ∃ doc, c.candidate = .ok doc ∧ (next fingerprint node c).running = some doc := by
  have hcoherent : node.Coherent fingerprint := by
    refine hrun.invariant (Node.Coherent fingerprint) ?_ hstart.coherent
    rintro node c node' h ⟨hrejected, hunloaded⟩ hstep
    cases hstep
    exact coherent_next h hrejected hunloaded
  have hend := ended fingerprint node c
  rw [hcurrent] at hend
  generalize next fingerprint node c = node' at hend ⊢
  cases hend with
  | @current doc hdoc hfile hsome =>
    obtain ⟨r, hr⟩ := Option.isSome_iff_exists.mp hsome
    exact ⟨doc, hdoc, by rw [← hcoherent.running doc r hfile hr]; exact hr⟩

end

/-! ### When every operation succeeds -/

/-- Every file and service operation succeeds, and no self-test rejects. -/
structure Outcomes.Smooth (o : Outcomes) : Prop where
  binary : o.binaryExists = true
  service : o.serviceAvailable = true
  asked : o.activeAsked = true
  written : o.tmpWritten = true
  checked : o.checked = true
  backup : o.backupCopy = .done
  renamed : o.renamed = true
  served : (o.availableAfter && o.installedAfter) = true
  reload : ∃ polls, o.reload = .restarted polls ∧ remainsActive 0 (polls.take MAX_POLLS) = true
  handshake : o.handshake ≠ .ran .handshakeRejected
  stamp : o.stampWritten = true

section
variable {fingerprint : Json → String} {c : Call} {node : Node} {doc : Json}

theorem returns_pipeline {a : Applied} {node' : Node} (hsmooth : c.outcomes.Smooth)
    (hdoc : c.candidate = .ok doc) (hstrict : c.strictSpoofCapabilities = false) :
    Returns (renderAndApplySingboxConfigWith fingerprint c) node a node' ↔
      Returns (if !c.capabilityRestart node && node.alreadyCurrent fingerprint doc &&
          c.outcomes.serviceAvailable && c.outcomes.isActive node then pure .current
        else do
          applyConfigAtomically doc c.outcomes
          if !(c.outcomes.availableAfter && c.outcomes.installedAfter) then pure .notLive
          else goLive fingerprint c (c.capabilityRestart node) doc) node a node' := by
  unfold renderAndApplySingboxConfigWith applyDocument
  simp only [hdoc, hsmooth.binary, Bool.not_true, Bool.false_eq_true, if_false]
  rw [returns_bind_refuse, returns_bind_refuse, returns_bind_read]
  simp [hsmooth.service, hstrict]

/-- Nothing is done for a document that the file, the stamp and the service agree on. -/
theorem apply_current (hsmooth : c.outcomes.Smooth) (hdoc : c.candidate = .ok doc)
    (hstrict : c.strictSpoofCapabilities = false) (hcaps : c.capabilityRestart node = false)
    (hcurrent : node.alreadyCurrent fingerprint doc = true) (hrunning : node.running.isSome = true) :
    Returns (renderAndApplySingboxConfigWith fingerprint c) node .current node := by
  rw [returns_pipeline hsmooth hdoc hstrict, if_pos]
  · exact returns_pure.mpr ⟨rfl, rfl⟩
  · simp [hcaps, hcurrent, hsmooth.service, Outcomes.isActive, hsmooth.asked, hrunning]

theorem returns_smooth_place (hsmooth : c.outcomes.Smooth) :
    Returns (applyConfigAtomically doc c.outcomes) node () (node.placed doc) := by
  unfold applyConfigAtomically
  rw [returns_bind_refuse, returns_bind_refuse, returns_bind_read]
  refine ⟨by simp [hsmooth.written], by simp [hsmooth.checked], ?_⟩
  rw [returns_bind]
  refine ⟨(), { node with backup := if node.target.isSome then node.target else node.backup },
    ?_, ?_⟩
  · rw [returns_runIf]
    split
    · next hsome =>
      obtain ⟨content, hcontent⟩ := Option.isSome_iff_exists.mp hsome
      rw [returns_bind]
      refine ⟨(), _, returns_step.mpr rfl, returns_refuse.mpr ⟨by simp [hsmooth.backup], ?_⟩⟩
      simp [hsmooth.backup, hcontent, Copy.onto]
    · rfl
  · rw [returns_bind_refuse]
    exact ⟨by simp [hsmooth.renamed], returns_step.mpr rfl⟩

/-- A document that the file or the stamp does not know is put into force by one restart. -/
theorem apply_reloads (hsmooth : c.outcomes.Smooth) (hdoc : c.candidate = .ok doc)
    (hstrict : c.strictSpoofCapabilities = false)
    (hnot : node.alreadyCurrent fingerprint doc = false) :
    ∃ node', Returns (renderAndApplySingboxConfigWith fingerprint c) node .live node' ∧
      node'.reloads = node.reloads + 1 := by
  obtain ⟨polls, hreload, hactive⟩ := hsmooth.reload
  have hloads : c.outcomes.reload.loads (node.placed doc) = some doc := by
    simp [Restart.loads, hreload, Node.placed, hactive]
  -- what is left after the restart does not touch the counter
  let live : Node :=
    { (node.placed doc).restart c.outcomes.reload with stamp := some (fingerprint doc) }
  have hrecord : ∃ node', Returns
      (runIf (c.capabilityRestart node)
        (recordSpoofRestart c.spoofContentHash c.outcomes.spoofStampWrite)) live () node' ∧
      node'.reloads = live.reloads := by
    simp only [returns_runIf]
    split
    · exact ⟨_, returns_step.mpr rfl, rfl⟩
    · exact ⟨live, rfl, rfl⟩
  obtain ⟨node', hrecord, hreloads⟩ := hrecord
  refine ⟨node', ?_, hreloads⟩
  rw [returns_pipeline hsmooth hdoc hstrict, if_neg (by simp [hnot]), returns_bind]
  refine ⟨(), node.placed doc, returns_smooth_place hsmooth, ?_⟩
  rw [hsmooth.served, if_neg (by simp)]
  unfold goLive
  rw [returns_bind]
  refine ⟨.ok (), (node.placed doc).restart c.outcomes.reload, returns_attempt.mpr ?_, ?_⟩
  · unfold reloadAndVerify
    show Returns _ _ _ _
    rw [returns_bind_read, returns_bind]
    exact ⟨(), _, returns_step.mpr rfl, returns_refuse.mpr ⟨by simp [hloads], rfl⟩⟩
  · rw [returns_bind_refuse, if_neg hsmooth.handshake]
    refine ⟨by simp [hstrict], ?_⟩
    rw [returns_bind]
    refine ⟨(), live, ?_, ?_⟩
    · unfold commitAppliedConfigStamp
      rw [returns_bind_refuse]
      exact ⟨by simp [hsmooth.stamp], returns_step.mpr rfl⟩
    · exact returns_bind.mpr ⟨(), node', hrecord, returns_pure.mpr ⟨rfl, rfl⟩⟩

end

def sampleCall (text : String) (o : Outcomes) : Call where
  candidate := .ok (.str text)
  requireLiveApply := true
  strictSpoofCapabilities := false
  spoofContentHash := none
  outcomes := o

def sampleFingerprint : Json → String
  | .str text => text
  | _ => ""

/-- A second call with the same document finds it in force. -/
theorem current_is_running_second_call :
    returned sampleFingerprint (next sampleFingerprint installed (sampleCall "a" smooth))
        (sampleCall "a" smooth) = .ok .current ∧
      ∃ doc, (sampleCall "a" smooth).candidate = .ok doc ∧
        (next sampleFingerprint (next sampleFingerprint installed (sampleCall "a" smooth))
          (sampleCall "a" smooth)).running = some doc := by
  have hstart : installed.Begun := .inl ⟨rfl, rfl, rfl⟩
  refine ⟨rfl, current_is_running hstart ?_ _ rfl⟩
  refine Runs.Leads.snoc (Runs.Leads.refl _) (e := sampleCall "a" smooth) ⟨?_, ?_⟩ rfl
  · rintro ⟨_, _, _, _, _, hrejected, _⟩
    cases hrejected
  · rintro ⟨_, _, _, _, hrunning, _⟩
    cases hrunning

/-- After `a` went live, the self-test rejects `b`, the file goes back to `a`, and the restart to
    it is refused while `b` runs on. -/
def leftRejected : Node :=
  [sampleCall "a" smooth,
    sampleCall "b" { smooth with
      handshake := .ran .handshakeRejected
      recoveryReload := .refused true }].foldl (next sampleFingerprint) installed

/-- The call reports the document as current while another one runs. -/
theorem current_with_rejected_running :
    returned sampleFingerprint leftRejected (sampleCall "a" smooth) = .ok .current ∧
      (next sampleFingerprint leftRejected (sampleCall "a" smooth)).running = some (.str "b") :=
  ⟨rfl, rfl⟩

/-! ### What a failing call restores -/

section
variable (fingerprint : Json → String)

structure Tested where
  node : Node
  verified : List Json

def Tested.next (t : Tested) (c : Call) : Tested where
  node := Apply.next fingerprint t.node c
  verified :=
    match c.candidate, returned fingerprint t.node c with
    | .ok doc, .ok .live => doc :: t.verified
    | _, _ => t.verified

/-- Once the file is swapped the service can be asked, a copy back succeeds, and nothing fails
    after a self-test that does not reject. -/
structure Call.Settles (c : Call) : Prop where
  served : (c.outcomes.availableAfter && c.outcomes.installedAfter) = true
  copied : c.outcomes.restoreCopy = .done
  capable : (c.strictSpoofCapabilities && c.outcomes.lacksAfter == some true) = false
  stamped : c.outcomes.stampWritten = true

def Tested.Proven (t : Tested) : Prop := ∃ d ∈ t.verified, t.node.target = some (.doc d)

variable {fingerprint}

variable {node node' : Node} {c : Call}

theorem placed_backup_of_some {content : Content} (h : node.target = some content) (doc : Json) :
    (node.placed doc).backup = some content := by
  simp [Node.placed, h]

theorem recovered_target {doc : Json} {content : Content} {r : Recovery}
    (htarget : node.target = some content) (hcopied : c.outcomes.restoreCopy = .done)
    (h : Recovered c.outcomes ((node.placed doc).restart c.outcomes.reload) r node') :
    node'.target = some content := by
  have hbackup : ((node.placed doc).restart c.outcomes.reload).backup = some content :=
    placed_backup_of_some htarget doc
  cases h with
  | missing hnone =>
    rw [hnone] at hbackup
    cases hbackup
  | notCopied _ hcopy => exact absurd hcopied hcopy
  | reloaded hsome => exact hsome.symm.trans hbackup
  | notReloaded hsome => exact hsome.symm.trans hbackup

theorem Tested.proven_next {t : Tested} (h : t.Proven) (hsettles : c.Settles) :
    (t.next fingerprint c).Proven := by
  obtain ⟨d, hd, htarget⟩ := h
  -- whatever the call adds, the document of the file before it stays verified
  have hkept : d ∈ (t.next fingerprint c).verified := by
    unfold Tested.next
    split
    · exact List.mem_cons_of_mem _ hd
    · exact hd
  have hsame : ∀ node', (t.next fingerprint c).node = node' → node'.target = some (.doc d) →
      (t.next fingerprint c).Proven := fun node' hnode hnode' => ⟨d, hkept, hnode ▸ hnode'⟩
  have hend := ended fingerprint t.node c
  generalize hnode : Apply.next fingerprint t.node c = node',
    hresult : returned fingerprint t.node c = r at hend
  cases hend with
  | notPlaced => exact hsame _ hnode htarget
  | skipped => exact hsame _ hnode htarget
  | current => exact hsame _ hnode htarget
  | placed _ hserved =>
    rw [hsettles.served] at hserved
    cases hserved
  | notLoaded _ _ _ hrecovered =>
    exact hsame _ hnode (recovered_target htarget hsettles.copied hrecovered)
  | incapable _ _ hlacks =>
    rw [hsettles.capable] at hlacks
    cases hlacks
  | rejected _ _ _ hrecovered =>
    exact hsame _ hnode (recovered_target htarget hsettles.copied hrecovered)
  | notStamped _ _ hstamp =>
    rw [hsettles.stamped] at hstamp
    cases hstamp
  | @live doc _ hdoc =>
    refine ⟨doc, ?_, ?_⟩
    · simp [Tested.next, hdoc, hresult]
    · show (Apply.next fingerprint t.node c).target = _
      rw [hnode]
      rfl

theorem recovered_running {o : Outcomes} (h : Recovered o node .restored node') :
    ∃ d, node'.target = some (.doc d) ∧ node'.running = some d ∧ node.backup = node'.target := by
  cases h with
  | @reloaded content d hbackup _ hloads =>
    exact ⟨d, loads_target hloads, running_restart hloads, hbackup⟩

/-- The config a failing call reports as restored and reloaded is one that was verified live. -/
theorem restored_was_verified {start : Node} {d₀ : Json} (htarget : start.target = some (.doc d₀))
    {t : Tested}
    (hrun : Runs.Leads (Runs.total (Tested.next fingerprint)) (fun _ c => c.Settles)
      ⟨start, [d₀]⟩ t)
    (c : Call) {e : ApplyError} (hfails : returned fingerprint t.node c = .error e)
    (hreports : e.recovery = some .restored) :
    ∃ d ∈ t.verified, (next fingerprint t.node c).target = some (.doc d) ∧
      (next fingerprint t.node c).running = some d := by
  have hproven : t.Proven := by
    refine hrun.invariant Tested.Proven ?_ ⟨d₀, List.mem_singleton.mpr rfl, htarget⟩
    intro t c t' h hsettles hstep
    cases hstep
    exact Tested.proven_next h hsettles
  obtain ⟨d, hd, hfile⟩ := hproven
  -- both recoveries restore the backup that the swap made of the verified file
  have hrestored : ∀ {doc : Json} {node' : Node},
      Recovered c.outcomes ((t.node.placed doc).restart c.outcomes.reload) .restored node' →
      node'.target = some (.doc d) ∧ node'.running = some d := by
    intro doc node' hrecovered
    obtain ⟨d', htarget', hrunning, hbackup⟩ := recovered_running hrecovered
    have hback : ((t.node.placed doc).restart c.outcomes.reload).backup = some (.doc d) :=
      placed_backup_of_some hfile doc
    rw [hback, htarget'] at hbackup
    cases hbackup
    exact ⟨htarget', hrunning⟩
  have hend := ended fingerprint t.node c
  rw [hfails] at hend
  generalize next fingerprint t.node c = node' at hend ⊢
  cases hend with
  | notPlaced hnone =>
    rw [hreports] at hnone
    cases hnone
  | notLoaded _ _ _ hrecovered =>
    cases hreports
    exact ⟨d, hd, hrestored hrecovered⟩
  | incapable => cases hreports
  | rejected _ _ _ hrecovered =>
    cases hreports
    exact ⟨d, hd, hrestored hrecovered⟩
  | notStamped => cases hreports

end

def verifiedA : Node :=
  next sampleFingerprint installed (sampleCall "a" smooth)

/-- `b` goes live after `a`; when the restart to `c` is refused, `b` is what is put back. -/
theorem restored_was_verified_after_refused_restart :
    let t := Tested.next sampleFingerprint ⟨verifiedA, [.str "a"]⟩ (sampleCall "b" smooth)
    let c := sampleCall "c" { smooth with reload := .refused true }
    t.verified = [.str "b", .str "a"] ∧
      returned sampleFingerprint t.node c = .error (.reload .notRestarted .restored) ∧
      ∃ d ∈ t.verified, (next sampleFingerprint t.node c).target = some (.doc d) ∧
        (next sampleFingerprint t.node c).running = some d := by
  intro t c
  have hsettles : (sampleCall "b" smooth).Settles := ⟨rfl, rfl, rfl, rfl⟩
  have hrun : Runs.Leads (Runs.total (Tested.next sampleFingerprint)) (fun _ c => c.Settles)
      ⟨verifiedA, [.str "a"]⟩ t := (Runs.Leads.refl _).snoc hsettles rfl
  exact ⟨rfl, rfl, restored_was_verified rfl hrun c rfl rfl⟩

/-- With no service to ask, `b` is only written; when the restart to `c` is refused, `b` is put
    back and reported as the previous working config. -/
theorem restored_without_verification :
    let t := Tested.next sampleFingerprint ⟨verifiedA, [.str "a"]⟩
      { sampleCall "b" { smooth with isAvailable := false, availableAfter := false } with
        requireLiveApply := false }
    let c := sampleCall "c" { smooth with reload := .refused true }
    t.verified = [.str "a"] ∧
      returned sampleFingerprint t.node c = .error (.reload .notRestarted .restored) ∧
      (next sampleFingerprint t.node c).target = some (.doc (.str "b")) ∧
      (next sampleFingerprint t.node c).running = some (.str "b") :=
  ⟨rfl, rfl, rfl, rfl⟩

end SingboxVpn.Apply
