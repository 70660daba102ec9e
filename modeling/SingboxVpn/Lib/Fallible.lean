import Mathlib.Logic.Basic

/-!
# Programs that may fail half-way

A program reads and changes a state and ends with a result or with an error; what it has changed
before an error stays changed.
-/

namespace Fallible

variable {σ α β : Type}

abbrev Prog (σ α : Type) : Type := ExceptT String (StateM σ) α

def exec (p : Prog σ α) (s : σ) : Except String α × σ := p.run.run s

def require (r : Except String α) : Prog σ α := ExceptT.mk (pure r)

def runIf (c : Bool) (p : Prog σ Unit) : Prog σ Unit := if c then p else pure ()

theorem exec_bind (p : Prog σ α) (f : α → Prog σ β) (s : σ) :
    exec (p >>= f) s =
      match exec p s with
      | (.ok a, s') => exec (f a) s'
      | (.error e, s') => (.error e, s') := by
  show (ExceptT.bindCont f (exec p s).1).run (exec p s).2 = _
  cases exec p s with
  | mk r s' => cases r <;> rfl

def wp (p : Prog σ α) (s : σ) (ok : α → σ → Prop) (failed : σ → Prop) : Prop :=
  match exec p s with
  | (.ok a, s') => ok a s'
  | (.error _, s') => failed s'

section Wp

variable {s : σ} {ok : α → σ → Prop} {failed : σ → Prop}

@[simp] theorem wp_pure {a : α} : wp (pure a : Prog σ α) s ok failed ↔ ok a s := Iff.rfl

@[simp] theorem wp_bind {p : Prog σ α} {f : α → Prog σ β} {ok : β → σ → Prop} :
    wp (p >>= f) s ok failed ↔ wp p s (fun a t => wp (f a) t ok failed) failed := by
  unfold wp
  rw [exec_bind]
  obtain ⟨r, t⟩ := exec p s
  cases r <;> rfl

@[simp] theorem wp_get {ok : σ → σ → Prop} : wp (get : Prog σ σ) s ok failed ↔ ok s s := Iff.rfl

@[simp] theorem wp_modify {f : σ → σ} {ok : PUnit → σ → Prop} :
    wp (modify f : Prog σ PUnit) s ok failed ↔ ok ⟨⟩ (f s) := Iff.rfl

theorem wp_require {r : Except String α} :
    wp (require r) s ok failed ↔ (∀ e, r = .error e → failed s) ∧ ∀ a, r = .ok a → ok a s := by
  have hexec : exec (require r) s = (r, s) := rfl
  cases r <;> simp [wp, hexec]

theorem wp_runIf {c : Bool} {p : Prog σ Unit} {ok : Unit → σ → Prop} :
    wp (runIf c p) s ok failed ↔ (c = true → wp p s ok failed) ∧ (c = false → ok () s) := by
  cases c <;> simp [runIf]

theorem wp.mono {p : Prog σ α} {ok' : α → σ → Prop} {failed' : σ → Prop} (h : wp p s ok failed)
    (hok : ∀ a t, ok a t → ok' a t) (hfailed : ∀ t, failed t → failed' t) : wp p s ok' failed' := by
  unfold wp at h ⊢
  split at h
  · exact hok _ _ h
  · exact hfailed _ h

end Wp

def Ensures (pre : σ → Prop) (p : Prog σ α) (post : α → σ → Prop) (failed : σ → Prop) : Prop :=
  ∀ s, pre s → wp p s post failed

namespace Ensures

variable {pre : σ → Prop} {p : Prog σ α} {post : α → σ → Prop} {failed : σ → Prop}

theorem bind (mid : α → σ → Prop) {f : α → Prog σ β} {post : β → σ → Prop}
    (hp : Ensures pre p mid failed) (hf : ∀ a, Ensures (mid a) (f a) post failed) :
    Ensures pre (p >>= f) post failed :=
  fun s hs => wp_bind.mpr ((hp s hs).mono (fun a t h => hf a t h) fun _ h => h)

theorem weaken {pre' : σ → Prop} {post' : α → σ → Prop} {failed' : σ → Prop}
    (h : Ensures pre p post failed) (hpre : ∀ s, pre' s → pre s)
    (hpost : ∀ a s, post a s → post' a s) (hfailed : ∀ s, failed s → failed' s) :
    Ensures pre' p post' failed' :=
  fun s hs => (h s (hpre s hs)).mono hpost hfailed

/-- What holds of the state whether the program ends well or fails. -/
theorem state {inv : σ → Prop} (h : Ensures pre p (fun _ => inv) inv) {s : σ} (hs : pre s) :
    inv (exec p s).2 := by
  have hrun := h s hs
  unfold wp at hrun
  split at hrun
  · next heq =>
    rw [heq]
    exact hrun
  · next heq =>
    rw [heq]
    exact hrun

end Ensures

end Fallible
