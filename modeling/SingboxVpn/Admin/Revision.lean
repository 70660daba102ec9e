import SingboxVpn.Admin.StaticApply

/-!
# vpn-admin: revisions and their order

`vpn-admin apply-revision` of `apps/admin/src/main.rs`: a revision that is not newer than the one in
the stamp is skipped, a static document goes to `cmdApplyStaticRevision`, and any other document is
a user store that is put into force, saved, and only then stamped.
-/

namespace SingboxVpn.Apply

open Json Killable

/-! ### The command -/

/-- The input file: what reading it gives, by the kind of its document. -/
inductive RevisionDocument where
  | unreadable
  | staticConfig (document : Except CompatError StaticRevision)
  | users (parsed : Except CompatError (List CompatUser))

inductive RevisionError where
  | corruptStamp
  | unreadable
  | static (e : StaticError)
  | document (e : CompatError)
  | load (e : String)
  | users (e : UsersError)
  | stamp
  deriving DecidableEq

inductive RevisionOutcome where
  | skipped
  | static (outcome : StaticOutcome)
  | saved
  deriving DecidableEq

structure RevisionAnswers where
  static : StaticAnswers
  save : SaveAnswers
  stampWritten : Bool

def RevisionStampState.covers (revision : Nat) : RevisionStampState → Bool
  | .present applied => decide (revision ≤ applied)
  | _ => false

section
variable (inst : Installation) (cfg : DeploymentConfig) (toml : Toml)

def applyRevisionDocument (revision : Nat) (document : RevisionDocument) (a : RevisionAnswers)
    (users : Except String (List CompatUser)) : Prog RevisionError Host RevisionOutcome :=
  match document with
  | .unreadable => fail .unreadable
  | .staticConfig document => do
    let outcome ← failingWith .static (cmdApplyStaticRevision inst toml revision document a.static)
    pure (.static outcome)
  | .users parsed => do
    let candidateUsers ← require (parsed.mapError .document)
    let previousUsers ← require (users.mapError .load)
    let _ ← failingWith .users (applyUsersAndSave inst cfg previousUsers candidateUsers a.save)
    pure .saved

def untilSaved (revision : Nat) (document : RevisionDocument) (a : RevisionAnswers) :
    Prog RevisionError Host RevisionOutcome := do
  let host ← read
  if host.revision.covers revision then
    pure .skipped
  else do
    refuse (host.revision == .corrupt) .corruptStamp
    applyRevisionDocument inst cfg toml revision document a host.users

/-- Apply a revision of the users document. -/
def cmdApplyRevision (revision : Nat) (document : RevisionDocument) (a : RevisionAnswers) :
    Prog RevisionError Host RevisionOutcome := do
  let outcome ← untilSaved inst cfg toml revision document a
  runIf (outcome == .saved) (commitAppliedRevisionStamp revision a.stampWritten .stamp)
  pure outcome

end

/-! ### What a call does to the stamp -/

section
variable {inst : Installation} {cfg : DeploymentConfig} {toml : Toml}

theorem wpk_applyUsersAndSave {previousUsers users : List CompatUser} {a : SaveAnswers} {host : Host}
    {ok : Applied → Host → Prop} {failed : UsersError → Host → Prop} {killed : Host → Prop}
    (hok : ∀ a node, ok a { host with node := node, users := .ok users })
    (hfailed : ∀ e node, failed e { host with node := node })
    (hkilled : ∀ node, killed { host with node := node }) :
    wpk (applyUsersAndSave inst cfg previousUsers users a) host ok failed killed := by
  simp only [applyUsersAndSave, saveUsersAtomic, wpk_bind, wpk_failingWith, wpk_attempt, wpk_refuse,
    wpk_step]
  refine wpk_renderAndApply inst cfg (fun _ node => ⟨fun _ => ?_, fun _ => ⟨hkilled node, ?_⟩⟩)
    (fun _ => hfailed _) hkilled
  · simp only [wpk_fail]
    exact wpk_renderAndApply inst cfg (fun _ => hfailed _) (fun _ => hfailed _) hkilled
  · exact wpk_pure.mpr (hok _ node)

variable {revision n : Nat} {stamp : RevisionStampState} {host₀ : Host}

theorem wpk_static_stamp {document : Except CompatError StaticRevision} {a : StaticAnswers}
    {inv : Host → Prop} (hsame : ∀ s, s.revision = host₀.revision → inv s)
    (hnew : ∀ s, s.revision = .present revision → inv s) :
    wpk (cmdApplyStaticRevision inst toml revision document a) host₀ (fun _ => inv) (fun _ => inv)
      inv := by
  rw [cmdApplyStaticRevision, wpk_bind]
  refine (wpk_untilCommit ⟨rfl, rfl⟩ revision document a).mono ?_ (fun _ s h => hsame s h.revision)
    fun s h => hsame s h.revision
  rintro outcome s ⟨_, _, hcommits⟩
  simp only [wpk_bind, wpk_runIf, wpk_step, wpk_pure]
  exact ⟨fun _ => hnew _ hcommits.stamp, fun _ => ⟨hnew _ hcommits.stamp, hnew _ hcommits.stamp⟩⟩

theorem RevisionStampState.covers_of_le {m : Nat} (hle : m ≤ n) (h : stamp.covers n = true) :
    stamp.covers m = true := by
  cases stamp with
  | present applied => exact decide_eq_true (hle.trans (of_decide_eq_true h))
  | missing => cases h
  | corrupt => cases h

theorem RevisionStampState.covers_newer (hnew : stamp.covers revision = false)
    (h : stamp.covers n = true) : (RevisionStampState.present revision).covers n = true := by
  cases stamp with
  | present applied =>
    have hlt : applied < revision := not_le.mp (of_decide_eq_false hnew)
    have hle : n ≤ applied := of_decide_eq_true h
    exact decide_eq_true (hle.trans hlt.le)
  | missing => cases h
  | corrupt => cases h

def StillCovered (host₀ host : Host) : Prop :=
  ∀ n, host₀.revision.covers n = true → host.revision.covers n = true

theorem stillCovered_of_stamp {host : Host} (hnew : host₀.revision.covers revision = false)
    (h : host.revision = host₀.revision ∨ host.revision = .present revision) :
    StillCovered host₀ host := by
  intro n hn
  rcases h with h | h
  · rw [h]
    exact hn
  · rw [h]
    exact RevisionStampState.covers_newer hnew hn

/-- What the command has done once it is past its guard. -/
def Reached (host₀ : Host) (revision : Nat) (document : RevisionDocument) :
    RevisionOutcome → Host → Prop
  | .skipped, host => host = host₀
  | .static _, host => StillCovered host₀ host
  | .saved, host => host.revision = host₀.revision ∧ host₀.revision.covers revision = false ∧
    ∃ users, document = .users (.ok users) ∧ host.users = .ok users

theorem wpk_untilSaved (host₀ : Host) (revision : Nat) (document : RevisionDocument)
    (a : RevisionAnswers) :
    wpk (untilSaved inst cfg toml revision document a) host₀ (Reached host₀ revision document)
      (fun _ => StillCovered host₀) (StillCovered host₀) := by
  have hself : StillCovered host₀ host₀ := fun _ hn => hn
  rw [untilSaved, wpk_bind, wpk_read]
  split
  · exact wpk_pure.mpr rfl
  · next hcovers =>
    have hnew : host₀.revision.covers revision = false := by simpa using hcovers
    rw [wpk_bind, wpk_refuse]
    refine ⟨fun _ => hself, fun _ => ?_⟩
    cases document with
    | unreadable => exact wpk_fail.mpr hself
    | staticConfig document =>
      simp only [applyRevisionDocument, wpk_bind, wpk_failingWith, wpk_pure]
      exact wpk_static_stamp (fun s h => stillCovered_of_stamp hnew (.inl h))
        fun s h => stillCovered_of_stamp hnew (.inr h)
    | users parsed =>
      simp only [applyRevisionDocument, wpk_bind, wpk_require, wpk_failingWith, wpk_pure]
      refine ⟨fun _ _ => hself, fun users hparsed => ⟨fun _ _ => hself, fun previousUsers _ => ?_⟩⟩
      refine wpk_applyUsersAndSave (fun _ _ => ?_) (fun _ _ => hself) fun _ => hself
      exact ⟨rfl, hnew, users, by rw [Check.mapError_eq_ok.mp hparsed], rfl⟩

/-- A call keeps every covered revision covered, wherever it ends or is stopped. -/
theorem wpk_cmdApplyRevision (host₀ : Host) (revision : Nat) (document : RevisionDocument)
    (a : RevisionAnswers) :
    wpk (cmdApplyRevision inst cfg toml revision document a) host₀
      (fun _ => StillCovered host₀) (fun _ => StillCovered host₀) (StillCovered host₀) := by
  rw [cmdApplyRevision, wpk_bind]
  refine (wpk_untilSaved host₀ revision document a).mono (fun outcome s h => ?_) (fun _ _ h => h)
    fun _ h => h
  simp only [wpk_bind, wpk_runIf, wpk_commit, wpk_pure]
  cases outcome with
  | skipped =>
    cases h
    exact ⟨fun _ _ hn => hn, fun h => by cases h⟩
  | static outcome => exact ⟨fun _ => h, fun h => by cases h⟩
  | saved =>
    have hsame := stillCovered_of_stamp h.2.1 (.inl h.1)
    exact ⟨fun h => (by cases h), fun _ => ⟨fun _ => hsame, fun _ =>
      ⟨hsame, stillCovered_of_stamp h.2.1 (.inr rfl)⟩⟩⟩

theorem wpk_covered (h : host₀.revision.covers revision = true) (document : RevisionDocument)
    (a : RevisionAnswers) :
    wpk (cmdApplyRevision inst cfg toml revision document a) host₀ (fun _ s => s = host₀)
      (fun _ s => s = host₀) (· = host₀) := by
  simp [cmdApplyRevision, untilSaved, h, wpk_runIf]

end

/-! ### Runs of calls -/

structure RevisionCall where
  revision : Nat
  document : RevisionDocument
  answers : RevisionAnswers
  stopped : Option Nat

/-- The node in a run of calls, with the revisions whose store was saved to users.json. -/
structure Ordered where
  host : Host
  saved : List Nat

section
variable (inst : Installation) (cfg : DeploymentConfig) (toml : Toml)

namespace RevisionCall

def command (call : RevisionCall) : Prog RevisionError Host RevisionOutcome :=
  cmdApplyRevision inst cfg toml call.revision call.document call.answers

/-- The part of the call that ends with users.json. -/
def saving (call : RevisionCall) : Prog RevisionError Host RevisionOutcome :=
  untilSaved inst cfg toml call.revision call.document call.answers

def saves (call : RevisionCall) (host : Host) : Bool :=
  decide (result (call.saving inst cfg toml) host = .ok .saved) &&
    call.stopped.all fun n => decide ((stops (call.saving inst cfg toml) host).length ≤ n)

def next (s : Ordered) (call : RevisionCall) : Ordered where
  host := after (call.command inst cfg toml) call.stopped s.host
  saved := if call.saves inst cfg toml s.host then call.revision :: s.saved else s.saved

/-- The stamp is written once users.json is saved: the write does not fail, and the process is not
    stopped before it. -/
structure Stamped (s : Ordered) (call : RevisionCall) : Prop where
  written : call.answers.stampWritten = true
  stopped : ∀ n, call.stopped = some n → n < (stops (call.saving inst cfg toml) s.host).length

end RevisionCall

end

section
variable {inst : Installation} {cfg : DeploymentConfig} {toml : Toml} {s : Ordered}
  {call : RevisionCall}

theorem RevisionCall.Stamped.leaves (h : call.Stamped inst cfg toml s)
    (hsaves : call.saves inst cfg toml s.host = true) :
    (after (call.command inst cfg toml) call.stopped s.host).revision = .present call.revision ∧
    ∃ users, call.document = .users (.ok users) ∧
      (after (call.command inst cfg toml) call.stopped s.host).users = .ok users := by
  obtain ⟨hsaved, hlate⟩ := Bool.and_eq_true_iff.mp hsaves
  have hresult := of_decide_eq_true hsaved
  have hstopped : call.stopped = none := by
    cases hn : call.stopped with
    | none => rfl
    | some n =>
      rw [hn] at hlate
      exact absurd (h.stopped n hn) (not_lt.mpr (of_decide_eq_true hlate))
  have hleft : after (call.command inst cfg toml) call.stopped s.host =
      { final (call.saving inst cfg toml) s.host with revision := .present call.revision } := by
    rw [hstopped, after]
    unfold command cmdApplyRevision
    unfold saving at hresult ⊢
    rw [final_bind, hresult]
    unfold commitAppliedRevisionStamp
    rw [h.written]
    rfl
  obtain ⟨_, _, users, hdocument, husers⟩ :=
    (wpk_untilSaved s.host call.revision call.document call.answers).1.returns ⟨hresult, rfl⟩
  rw [hleft]
  exact ⟨rfl, users, hdocument, husers⟩

/-- In a run of calls that each write their stamp once users.json is saved, no later call with a
    revision that is not newer than a saved one changes anything. -/
theorem older_revision_idle {host₀ : Host}
    (hrun : Runs.Leads (Runs.total (RevisionCall.next inst cfg toml))
      (RevisionCall.Stamped inst cfg toml) ⟨host₀, []⟩ s) :
    ∀ n ∈ s.saved, ∀ call : RevisionCall, call.revision ≤ n →
      after (call.command inst cfg toml) call.stopped s.host = s.host := by
  have hcovered : ∀ n ∈ s.saved, s.host.revision.covers n = true := by
    refine hrun.invariant (fun s => ∀ n ∈ s.saved, s.host.revision.covers n = true) ?_ ?_
    · intro s call s' hs hstamped hnext
      cases hnext
      have hkept : StillCovered s.host (after (call.command inst cfg toml) call.stopped s.host) :=
        (wpk_cmdApplyRevision s.host call.revision call.document call.answers).after _
      intro n hn
      by_cases hsaves : call.saves inst cfg toml s.host = true
      · have hn : n ∈ call.revision :: s.saved := by
          rwa [RevisionCall.next, if_pos hsaves] at hn
        rcases List.mem_cons.mp hn with rfl | hn
        · have hstamp := (hstamped.leaves hsaves).1
          exact (congrArg _ hstamp).trans (decide_eq_true le_rfl)
        · exact hkept n (hs n hn)
      · have hn : n ∈ s.saved := by rwa [RevisionCall.next, if_neg hsaves] at hn
        exact hkept n (hs n hn)
    · exact fun n hn => by cases hn
  intro n hn call hle
  have hcall := RevisionStampState.covers_of_le hle (hcovered n hn)
  exact (wpk_covered hcall call.document call.answers).after _

end

def sampleRevision (revision : Nat) (users : List CompatUser) (stampWritten : Bool) :
    RevisionCall where
  revision := revision
  document := .users (.ok users)
  answers := ⟨sampleAnswers, ⟨⟨0, smooth⟩, true, ⟨0, smooth⟩⟩, stampWritten⟩
  stopped := none

/-- After revision 5, revision 4 changes nothing. -/
theorem older_revision_idle_sample :
    let s := (sampleRevision 5 [sampleUser] true).next sampleInstallation sampleExit sampleToml
      ⟨sampleHost, []⟩
    s.saved = [5] ∧ after ((sampleRevision 4 [] true).command sampleInstallation sampleExit sampleToml)
      none s.host = s.host := by
  have hrun : Runs.Leads (Runs.total (RevisionCall.next sampleInstallation sampleExit sampleToml))
      (RevisionCall.Stamped sampleInstallation sampleExit sampleToml) ⟨sampleHost, []⟩
      ((sampleRevision 5 [sampleUser] true).next sampleInstallation sampleExit sampleToml
        ⟨sampleHost, []⟩) :=
    Runs.Leads.snoc (Runs.Leads.refl _) (e := sampleRevision 5 [sampleUser] true)
      ⟨rfl, fun n hn => by cases hn⟩ rfl
  have hsaved : ((sampleRevision 5 [sampleUser] true).next sampleInstallation sampleExit sampleToml
      ⟨sampleHost, []⟩).saved = [5] := by decide +kernel
  refine ⟨hsaved, ?_⟩
  exact older_revision_idle hrun 5 (by rw [hsaved]; decide) (sampleRevision 4 [] true) (by decide)

/-- The stamp of revision 5 cannot be written after its store was saved: revision 4 is then put
    into force and saved over it. -/
theorem older_revision_saved :
    let s := (sampleRevision 5 [sampleUser] false).next sampleInstallation sampleExit sampleToml
      ⟨sampleHost, []⟩
    let s' := (sampleRevision 4 [] true).next sampleInstallation sampleExit sampleToml s
    s.saved = [5] ∧ s.host.users = .ok [sampleUser] ∧ s'.host.users = .ok [] ∧
      s'.host.node.target ≠ s.host.node.target := by
  decide +kernel

end SingboxVpn.Apply
