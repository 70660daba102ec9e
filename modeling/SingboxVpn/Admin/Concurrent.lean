import SingboxVpn.Admin.Confinement
import SingboxVpn.Lib.Locked

/-!
# vpn-admin: invocations at the same time

`run` of `apps/admin/src/main.rs` takes the lock of `apps/admin/src/lock.rs` before a command that
changes the accounts and keeps it until the process ends.  The configuration is loaded before, so
an invocation that had to wait may work with an old one.  With `--json` the answer is written after
the save, and an invocation that cannot write it fails with its change made.
-/

namespace SingboxVpn

open Locked

/-- A process with its command, and what it meets: whether the new document is applied and the new
    store written beside the old one, and how its output ends. -/
structure Invocation where
  env : Env
  cmd : UserCommand
  applied : Except String Unit
  output : Except String Unit

/-- How an invocation fails: before its save, or with its output after it. -/
inductive Failure where
  | unsaved (message : String)
  | unreported (message : String)

def Invocation.reply (inv : Invocation) : Except Failure Unit := inv.output.mapError .unreported

def Invocation.saving (inv : Invocation) : Except String Store → Program Store (Except Failure Unit)
  | .ok users => .access (fun _ => users) fun _ => .ret inv.reply
  -- a command that was refused, or not applied, saves nothing
  | .error e => .ret (.error (.unsaved e))

/-- The new store, if the command is not refused and its document is applied. -/
def Invocation.outcome (inv : Invocation) (users : Store) : Except String Store := do
  let next ← step inv.env users inv.cmd
  inv.applied
  .ok next

/-- Load users.json, compute, apply, save with one rename, and report. -/
def Invocation.program (inv : Invocation) : Program Store (Except Failure Unit) :=
  .access id fun users => inv.saving (inv.outcome users)

def Invocation.Changes (inv : Invocation) (users users' : Store) : Prop :=
  step inv.env users inv.cmd = .ok users'

theorem Invocation.changes_of_outcome {inv : Invocation} {users users' : Store}
    (h : inv.outcome users = .ok users') : inv.Changes users users' := by
  obtain ⟨next, hstep, h⟩ := Check.bind_eq_ok.mp h
  obtain ⟨-, -, hok⟩ := Check.bind_eq_ok.mp h
  cases hok
  exact hstep

/-- Alone with the store, an invocation leaves it as it was, or makes its change and reports. -/
theorem Invocation.reaches {inv : Invocation} {b : Program Store (Except Failure Unit)}
    {users users' : Store} (h : inv.program.Reaches users b users') :
    users' = users ∧ (∀ r, b = .ret r → ∃ e, r = .error (.unsaved e)) ∨
      inv.Changes users users' ∧ b = .ret inv.reply := by
  have hcases : (b = inv.program ∧ users' = users) ∨
      (b = inv.saving (inv.outcome users) ∧ users' = users) ∨
      (inv.Changes users users' ∧ b = .ret inv.reply) := by
    induction h with
    | start => exact .inl ⟨rfl, rfl⟩
    | access _ ih =>
      rcases ih with ⟨hb, hsame⟩ | ⟨hb, -⟩ | ⟨-, hb⟩
      · cases hb
        exact .inr (.inl ⟨by rw [hsame], hsame⟩)
      · cases hout : inv.outcome users with
        | ok next =>
          rw [hout] at hb
          cases hb
          exact .inr (.inr ⟨changes_of_outcome hout, rfl⟩)
        | error e =>
          rw [hout] at hb
          cases hb
      · cases hb
  rcases hcases with ⟨rfl, hsame⟩ | ⟨rfl, hsame⟩ | h
  · exact .inl ⟨hsame, fun r hr => by cases hr⟩
  · refine .inl ⟨hsame, fun r hr => ?_⟩
    cases hout : inv.outcome users with
    | ok next =>
      rw [hout] at hr
      cases hr
    | error e =>
      rw [hout] at hr
      cases hr
      exact ⟨e, rfl⟩
  · exact .inr h

theorem Invocation.reply_ne (inv : Invocation) (e : String) : inv.reply ≠ .error (.unsaved e) := by
  unfold reply
  cases inv.output <;> simp [Except.mapError]

/-- The commands that changed the store are these, in this order. -/
structure Order {ι : Type} (invocations : ι → Invocation) (users₀ : Store) (order : List ι)
    (saved unsaved : ι → Prop) (users : Store) : Prop where
  run : Runs.Logged (fun users i => (invocations i).Changes users) users₀ order users
  nodup : order.Nodup
  saved : ∀ i, saved i → i ∈ order
  unsaved : ∀ i, unsaved i → i ∉ order

/-- The replies of an invocation that has saved, whether or not it could say so. -/
def Saved (r : Option (Except Failure Unit)) : Prop :=
  r = some (.ok ()) ∨ ∃ e, r = some (.error (.unreported e))

variable {ι : Type} {invocations : ι → Invocation} {users₀ users : Store} {order : List ι}

/-- The invocations of a serial log that changed the store. -/
theorem order_of_log {log : List (ι × Option (Except Failure Unit))}
    (h : Runs.Logged (Ended fun i => (invocations i).program) users₀ log users)
    (hnodup : (log.map Prod.fst).Nodup) :
    ∃ order : List ι, order ⊆ log.map Prod.fst ∧ Order invocations users₀ order
      (fun i => ∃ r, (i, r) ∈ log ∧ Saved r)
      (fun i => ∃ e, (i, some (.error (.unsaved e))) ∈ log) users := by
  induction h with
  | nil =>
    exact ⟨[], List.nil_subset _, .nil, List.nodup_nil,
      fun i ⟨r, hi, _⟩ => absurd hi List.not_mem_nil, fun i _ => List.not_mem_nil⟩
  | @snoc log users users' e _ hend ih =>
    simp only [List.map_append, List.map_singleton, List.nodup_append, List.mem_singleton,
      forall_eq] at hnodup
    obtain ⟨hlog, -, hnot⟩ := hnodup
    obtain ⟨order, hsub, horder⟩ := ih hlog
    have hfresh : e.1 ∉ order := fun hmem => hnot _ (hsub hmem) rfl
    obtain ⟨b, hb, hresult⟩ := hend
    simp only [List.map_append, List.mem_append, List.map_singleton, List.mem_singleton]
    rcases Invocation.reaches hb with ⟨hsame, hfailed⟩ | ⟨hchanges, rfl⟩
    · refine ⟨order, List.subset_append_of_subset_left _ hsub, hsame ▸ horder.run, horder.nodup, ?_,
        ?_⟩
      · rintro i ⟨r, hi | rfl, hsaved⟩
        · exact horder.saved i ⟨r, hi, hsaved⟩
        · rcases hsaved with rfl | ⟨e', rfl⟩ <;>
            · obtain ⟨_, he⟩ := hfailed _ (hresult _ rfl)
              cases he
      · rintro i ⟨e', hi | rfl⟩
        · exact horder.unsaved i ⟨e', hi⟩
        · exact hfresh
    · refine ⟨order ++ [e.1], List.append_subset.mpr ⟨List.subset_append_of_subset_left _ hsub,
        List.subset_append_right ..⟩, horder.run.snoc hchanges, List.Nodup.append horder.nodup
        (List.nodup_singleton _) (by simpa using hfresh), ?_, ?_⟩
      · rintro i ⟨r, hi | rfl, hsaved⟩
        · exact List.mem_append_left _ (horder.saved i ⟨r, hi, hsaved⟩)
        · exact List.mem_append_right _ (List.mem_singleton_self _)
      · rintro i ⟨e', hi | rfl⟩
        · rw [List.mem_append, List.mem_singleton]
          exact not_or.mpr ⟨horder.unsaved i ⟨e', hi⟩, hnot i (List.mem_map_of_mem hi)⟩
        · have hreply := hresult _ rfl
          exact absurd (Program.ret.inj hreply) (Invocation.reply_ne _ e')

theorem Reachable.logged {cond : Store → Env → UserCommand → Prop}
    (hcond : ∀ users i, Reachable cond users → cond users (invocations i).env (invocations i).cmd)
    (hstart : Reachable cond users₀)
    (h : Runs.Logged (fun users i => (invocations i).Changes users) users₀ order users) :
    Reachable cond users := by
  induction h with
  | nil => exact hstart
  | @snoc _ users _ i _ hchanges ih => exact ih.tail ⟨_, _, hcond users i ih, hchanges⟩

/-- From a store that the commands lead to, whatever the interleaving and whichever processes are
    stopped: the store is what some of the invocations make of it one after the other, each once.
    All that have succeeded, or have failed only with their output, are among them, and none that
    has failed before its save or still waits.  So it is one that commands one after the other
    lead to. -/
theorem concurrent_commands [DecidableEq ι] {cond : Store → Env → UserCommand → Prop}
    {t : System ι Store (Except Failure Unit)}
    (hcond : ∀ users i, Reachable cond users → cond users (invocations i).env (invocations i).cmd)
    (hstart : Reachable cond users₀)
    (h : Leads (fun i => (invocations i).program) (System.start users₀) t) :
    Reachable cond t.shared ∧ ∃ order, Order invocations users₀ order
      (fun i => ∃ r, t.ended i = some r ∧ Saved r)
      (fun i => t.Waits i ∨ ∃ e, t.ended i = some (some (.error (.unsaved e)))) t.shared := by
  obtain ⟨log, hlog, hnodup, hreturned, hwaits⟩ := serial h
  obtain ⟨order, hsub, horder⟩ := order_of_log hlog hnodup
  refine ⟨hstart.logged hcond horder.run, order, horder.run, horder.nodup, ?_, ?_⟩
  · rintro i ⟨r, hi, hsaved⟩
    obtain ⟨a, rfl⟩ : ∃ a, r = some a := by
      rcases hsaved with rfl | ⟨e, rfl⟩
      · exact ⟨_, rfl⟩
      · exact ⟨_, rfl⟩
    exact horder.saved i ⟨_, hreturned i _ hi, hsaved⟩
  · rintro i (hi | ⟨e, hi⟩)
    · exact fun hmem => hwaits i hi (hsub hmem)
    · exact horder.unsaved i ⟨e, hreturned i _ hi⟩

/-- A probe account is asked for, and the reader of the answer has gone. -/
def sampleInvocation : Invocation where
  env := sampleEnv
  cmd := .createProbe none
  applied := .ok ()
  output := .error "Broken pipe (os error 32)"

/-- Two such invocations at the same time.  The first has saved its account and fails with its
    output; the second waits for the lock. -/
theorem probe_created_once :
    ∃ t : System Bool Store (Except Failure Unit), t.shared = [sampleProbe] ∧
      t.ended true = some (some (.error (.unreported "Broken pipe (os error 32)"))) ∧
      Reachable (fun _ _ _ => True) t.shared ∧
      ∃ order, Order (fun _ => sampleInvocation) [] order
        (fun i => ∃ r, t.ended i = some r ∧ Saved r)
        (fun i => t.Waits i ∨ ∃ e, t.ended i = some (some (.error (.unsaved e)))) t.shared := by
  have hprogram : sampleInvocation.program = .access id fun users =>
      sampleInvocation.saving (sampleInvocation.outcome users) := rfl
  have hsaving : sampleInvocation.saving (sampleInvocation.outcome []) =
      .access (fun _ => [sampleProbe]) fun _ => .ret sampleInvocation.reply := rfl
  have hrun := ((((Relation.ReflTransGen.refl (r := Step fun _ : Bool => sampleInvocation.program)
    (a := System.start [])).tail (.acquire true rfl rfl)).tail (.access (congrArg _ (congrArg _
    hprogram)))).tail (.access (congrArg _ (congrArg _ hsaving)))).tail
    (.finish (some sampleInvocation.reply) rfl fun a ha => by cases ha; rfl)
  exact ⟨_, rfl, rfl, concurrent_commands (fun _ _ _ => trivial) .refl hrun⟩

end SingboxVpn
