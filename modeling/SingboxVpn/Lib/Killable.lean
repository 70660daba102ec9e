import Mathlib.Data.List.Basic

/-!
# Programs whose process may be stopped between two steps

A program changes a state step by step.  It ends with a result or with an error, or its process is
stopped before one of its steps; in each case what it has changed stays changed.
-/

namespace Killable

/-- A run from some state: the states before each of its steps, and how it ends if nobody stops
    it. -/
structure Run (ε σ α : Type) where
  stops : List σ
  result : Except ε α
  final : σ

def Prog (ε σ α : Type) : Type := σ → Run ε σ α

variable {ε ε' σ τ α β : Type}

def result (p : Prog ε σ α) (s : σ) : Except ε α := (p s).result

def final (p : Prog ε σ α) (s : σ) : σ := (p s).final

def stops (p : Prog ε σ α) (s : σ) : List σ := (p s).stops

/-- The state that is left behind, where `some n` stops the process before its step `n`. -/
def after (p : Prog ε σ α) (stopped : Option Nat) (s : σ) : σ :=
  match stopped with
  | none => final p s
  | some n => (stops p s)[n]?.getD (final p s)

protected def pure (a : α) : Prog ε σ α := fun s => ⟨[], .ok a, s⟩

protected def bind (p : Prog ε σ α) (f : α → Prog ε σ β) : Prog ε σ β := fun s =>
  match (p s).result with
  | .ok a =>
    { stops := (p s).stops ++ (f a (p s).final).stops
      result := (f a (p s).final).result
      final := (f a (p s).final).final }
  | .error e => { stops := (p s).stops, result := .error e, final := (p s).final }

instance : Monad (Prog ε σ) where
  pure := Killable.pure
  bind := Killable.bind

def read : Prog ε σ σ := fun s => ⟨[], .ok s, s⟩

def step (f : σ → σ) : Prog ε σ Unit := fun s => ⟨[s], .ok (), f s⟩

def fail (e : ε) : Prog ε σ α := fun s => ⟨[], .error e, s⟩

def refuse (c : Bool) (e : ε) : Prog ε σ Unit := if c then fail e else pure ()

def require (r : Except ε α) : Prog ε σ α := fun s => ⟨[], r, s⟩

def runIf (c : Bool) (p : Prog ε σ Unit) : Prog ε σ Unit := if c then p else pure ()

/-- Hands an error of a program to what follows it. -/
def attempt (p : Prog ε σ α) : Prog ε' σ (Except ε α) := fun s =>
  ⟨(p s).stops, .ok (p s).result, (p s).final⟩

def within (part : σ → τ) (put : τ → σ → σ) (p : Prog ε τ α) : Prog ε σ α := fun s =>
  ⟨(p (part s)).stops.map (put · s), (p (part s)).result, put (p (part s)).final s⟩

def failingWith (f : ε → ε') (p : Prog ε σ α) : Prog ε' σ α := fun s =>
  ⟨(p s).stops, (p s).result.mapError f, (p s).final⟩

/-! ### Runs that nobody stops -/

section Unstopped

variable (s : σ)

@[simp] theorem result_pure (a : α) : result (pure a : Prog ε σ α) s = .ok a := rfl

@[simp] theorem final_pure (a : α) : final (pure a : Prog ε σ α) s = s := rfl

@[simp] theorem result_fail (e : ε) : result (fail e : Prog ε σ α) s = .error e := rfl

@[simp] theorem final_fail (e : ε) : final (fail e : Prog ε σ α) s = s := rfl

@[simp] theorem result_read : result (read : Prog ε σ σ) s = .ok s := rfl

@[simp] theorem final_read : final (read : Prog ε σ σ) s = s := rfl

@[simp] theorem result_step (f : σ → σ) : result (step f : Prog ε σ Unit) s = .ok () := rfl

@[simp] theorem final_step (f : σ → σ) : final (step f : Prog ε σ Unit) s = f s := rfl

@[simp] theorem result_attempt (p : Prog ε σ α) :
    result (attempt p : Prog ε' σ (Except ε α)) s = .ok (result p s) := rfl

@[simp] theorem final_attempt (p : Prog ε σ α) :
    final (attempt p : Prog ε' σ (Except ε α)) s = final p s := rfl

@[simp] theorem result_failingWith (f : ε → ε') (p : Prog ε σ α) :
    result (failingWith f p) s = (result p s).mapError f := rfl

@[simp] theorem final_failingWith (f : ε → ε') (p : Prog ε σ α) :
    final (failingWith f p) s = final p s := rfl

@[simp] theorem result_within (part : σ → τ) (put : τ → σ → σ) (p : Prog ε τ α) :
    result (within part put p) s = result p (part s) := rfl

@[simp] theorem final_within (part : σ → τ) (put : τ → σ → σ) (p : Prog ε τ α) :
    final (within part put p) s = put (final p (part s)) s := rfl

theorem result_bind (p : Prog ε σ α) (f : α → Prog ε σ β) :
    result (p >>= f) s = match result p s with
      | .ok a => result (f a) (final p s)
      | .error e => .error e := by
  show (Killable.bind p f s).result = _
  unfold Killable.bind
  cases hresult : (p s).result <;> simp [result, final, hresult]

theorem final_bind (p : Prog ε σ α) (f : α → Prog ε σ β) :
    final (p >>= f) s = match result p s with
      | .ok a => final (f a) (final p s)
      | .error _ => final p s := by
  show (Killable.bind p f s).final = _
  unfold Killable.bind
  cases hresult : (p s).result <;> simp [result, final, hresult]

/-- A process that is stopped before a step of the first program never reaches the second. -/
theorem after_bind_of_lt {p : Prog ε σ α} (f : α → Prog ε σ β) {n : Nat}
    (h : n < (stops p s).length) : after (p >>= f) (some n) s = after p (some n) s := by
  have hstop : ∀ l, ((stops p s) ++ l)[n]? = (stops p s)[n]? := fun l =>
    List.getElem?_append_left h
  show ((Killable.bind p f s).stops)[n]?.getD _ = _
  unfold Killable.bind
  cases (p s).result with
  | ok a =>
    show ((stops p s) ++ _)[n]?.getD _ = ((stops p s)[n]?).getD _
    rw [hstop, List.getElem?_eq_getElem h]
    rfl
  | error e =>
    show ((stops p s)[n]?).getD _ = ((stops p s)[n]?).getD _
    rw [List.getElem?_eq_getElem h]
    rfl

end Unstopped

/-! ### Runs that end well -/

/-- If nobody stops it, the program returns `a` and leaves `s'` behind. -/
def Returns (p : Prog ε σ α) (s : σ) (a : α) (s' : σ) : Prop := result p s = .ok a ∧ final p s = s'

section Returns

variable {s s' : σ} {a : α} {b : β}

theorem returns_pure {a' : α} : Returns (pure a : Prog ε σ α) s a' s' ↔ a = a' ∧ s = s' := by
  simp [Returns]

variable {e : ε} {p : Prog ε σ α} {f : α → Prog ε σ β} {u : Unit} {c : Bool} {r : Except ε α}

theorem returns_fail : ¬ Returns (fail e : Prog ε σ α) s a s' := fun h => by cases h.1

theorem returns_bind :
    Returns (p >>= f) s b s' ↔ ∃ a t, Returns p s a t ∧ Returns (f a) t b s' := by
  unfold Returns
  rw [result_bind, final_bind]
  constructor
  · rintro ⟨hresult, hfinal⟩
    cases hp : result p s with
    | ok a =>
      rw [hp] at hresult hfinal
      exact ⟨a, _, ⟨rfl, rfl⟩, hresult, hfinal⟩
    | error e =>
      rw [hp] at hresult
      cases hresult
  · rintro ⟨a, t, ⟨hp, rfl⟩, hresult, hfinal⟩
    rw [hp]
    exact ⟨hresult, hfinal⟩

theorem returns_step {f : σ → σ} : Returns (step f : Prog ε σ Unit) s u s' ↔ f s = s' := by
  simp [Returns]

theorem returns_refuse : Returns (refuse c e : Prog ε σ Unit) s u s' ↔ c = false ∧ s = s' := by
  cases c <;> simp [Returns, refuse]

theorem returns_require : Returns (require r : Prog ε σ α) s a s' ↔ r = .ok a ∧ s = s' := Iff.rfl

theorem returns_bind_read {f : σ → Prog ε σ β} :
    Returns (read >>= f) s b s' ↔ Returns (f s) s b s' := Iff.rfl

theorem returns_bind_refuse {f : Unit → Prog ε σ β} :
    Returns (refuse c e >>= f) s b s' ↔ c = false ∧ Returns (f ()) s b s' := by
  rw [returns_bind]
  constructor
  · rintro ⟨_, _, hrefuse, h⟩
    obtain ⟨hc, rfl⟩ := returns_refuse.mp hrefuse
    exact ⟨hc, h⟩
  · rintro ⟨hc, h⟩
    exact ⟨(), s, returns_refuse.mpr ⟨hc, rfl⟩, h⟩

theorem returns_bind_require :
    Returns (require r >>= f) s b s' ↔ ∃ a, r = .ok a ∧ Returns (f a) s b s' := by
  rw [returns_bind]
  constructor
  · rintro ⟨a, _, hrequire, h⟩
    obtain ⟨ha, rfl⟩ := returns_require.mp hrequire
    exact ⟨a, ha, h⟩
  · rintro ⟨a, ha, h⟩
    exact ⟨a, s, returns_require.mpr ⟨ha, rfl⟩, h⟩

theorem returns_runIf {p : Prog ε σ Unit} :
    Returns (runIf c p) s u s' ↔ if c then Returns p s u s' else s = s' := by
  cases c <;> simp [Returns, runIf]

theorem returns_attempt :
    Returns (attempt p : Prog ε' σ (Except ε α)) s r s' ↔ result p s = r ∧ final p s = s' := by
  simp [Returns]

theorem returns_failingWith {f : ε → ε'} : Returns (failingWith f p) s a s' ↔ Returns p s a s' := by
  unfold Returns
  rw [result_failingWith, final_failingWith]
  cases result p s <;> simp [Except.mapError]

theorem returns_within {part : σ → τ} {put : τ → σ → σ} {p : Prog ε τ α} :
    Returns (within part put p) s a s' ↔ ∃ t, Returns p (part s) a t ∧ put t s = s' := by
  simp [Returns, and_assoc]

end Returns

/-! ### From one state -/

/-- The run from `s`, if nobody stops it, ends with `ok` or fails with `failed`. -/
def wp (p : Prog ε σ α) (s : σ) (ok : α → σ → Prop) (failed : ε → σ → Prop) : Prop :=
  match result p s with
  | .ok a => ok a (final p s)
  | .error e => failed e (final p s)

section Wp

variable {s : σ} {ok : α → σ → Prop} {failed : ε → σ → Prop}

@[simp] theorem wp_pure {a : α} : wp (pure a : Prog ε σ α) s ok failed ↔ ok a s := Iff.rfl

variable {e : ε} {p : Prog ε σ α} {c : Bool}

@[simp] theorem wp_fail : wp (fail e : Prog ε σ α) s ok failed ↔ failed e s := Iff.rfl

@[simp] theorem wp_read {ok : σ → σ → Prop} :
    wp (read : Prog ε σ σ) s ok failed ↔ ok s s := Iff.rfl

@[simp] theorem wp_step {f : σ → σ} {ok : Unit → σ → Prop} :
    wp (step f : Prog ε σ Unit) s ok failed ↔ ok () (f s) := Iff.rfl

@[simp] theorem wp_bind {f : α → Prog ε σ β} {ok : β → σ → Prop} :
    wp (p >>= f) s ok failed ↔ wp p s (fun a t => wp (f a) t ok failed) failed := by
  unfold wp
  rw [result_bind, final_bind]
  cases result p s <;> rfl

theorem wp_refuse {ok : Unit → σ → Prop} :
    wp (refuse c e) s ok failed ↔ if c then failed e s else ok () s := by
  cases c <;> rfl

theorem wp_runIf {p : Prog ε σ Unit} {ok : Unit → σ → Prop} :
    wp (runIf c p) s ok failed ↔ if c then wp p s ok failed else ok () s := by
  cases c <;> rfl

@[simp] theorem wp_attempt {ok : Except ε α → σ → Prop} {failed : ε' → σ → Prop} :
    wp (attempt p : Prog ε' σ (Except ε α)) s ok failed ↔
      wp p s (fun a => ok (.ok a)) fun e => ok (.error e) := by
  unfold wp
  rw [result_attempt, final_attempt]
  cases result p s <;> rfl

theorem wp.mono {ok' : α → σ → Prop} {failed' : ε → σ → Prop} (h : wp p s ok failed)
    (hok : ∀ a t, ok a t → ok' a t) (hfailed : ∀ e t, failed e t → failed' e t) :
    wp p s ok' failed' := by
  unfold wp at h ⊢
  cases hresult : result p s with
  | ok a =>
    rw [hresult] at h
    exact hok _ _ h
  | error e =>
    rw [hresult] at h
    exact hfailed _ _ h

theorem wp.returns {a : α} {s' : σ} (h : wp p s ok failed) (hreturns : Returns p s a s') :
    ok a s' := by
  unfold wp at h
  rwa [hreturns.1, hreturns.2] at h

theorem wp.error (h : wp p s ok failed) (he : result p s = .error e) : failed e (final p s) := by
  unfold wp at h
  rwa [he] at h

theorem wp.fails (h : wp p s (fun _ _ => False) failed) :
    ∃ e, result p s = .error e ∧ failed e (final p s) := by
  unfold wp at h
  cases hresult : result p s with
  | ok a =>
    rw [hresult] at h
    exact h.elim
  | error e =>
    rw [hresult] at h
    exact ⟨e, rfl, h⟩

end Wp

/-! ### Wherever the process may be stopped -/

/-- The run from `s` ends with `ok` or fails with `failed`, and wherever it may be stopped `killed`
    holds. -/
def wpk (p : Prog ε σ α) (s : σ) (ok : α → σ → Prop) (failed : ε → σ → Prop)
    (killed : σ → Prop) : Prop :=
  wp p s ok failed ∧ ∀ t ∈ stops p s, killed t

section Wpk

variable {s : σ} {ok : α → σ → Prop} {failed : ε → σ → Prop} {killed : σ → Prop} {e : ε}
  {p : Prog ε σ α} {c : Bool} {r : Except ε α}

theorem wpk_of_no_stops (h : stops p s = []) : wpk p s ok failed killed ↔ wp p s ok failed := by
  simp [wpk, h]

@[simp] theorem wpk_pure {a : α} : wpk (pure a : Prog ε σ α) s ok failed killed ↔ ok a s :=
  wpk_of_no_stops rfl

@[simp] theorem wpk_fail : wpk (fail e : Prog ε σ α) s ok failed killed ↔ failed e s :=
  wpk_of_no_stops rfl

@[simp] theorem wpk_read {ok : σ → σ → Prop} :
    wpk (read : Prog ε σ σ) s ok failed killed ↔ ok s s :=
  wpk_of_no_stops rfl

@[simp] theorem wpk_step {f : σ → σ} {ok : Unit → σ → Prop} :
    wpk (step f : Prog ε σ Unit) s ok failed killed ↔ killed s ∧ ok () (f s) := by
  simp [wpk, show stops (step f : Prog ε σ Unit) s = [s] from rfl, and_comm]

@[simp] theorem wpk_bind {f : α → Prog ε σ β} {ok : β → σ → Prop} :
    wpk (p >>= f) s ok failed killed ↔
      wpk p s (fun a t => wpk (f a) t ok failed killed) failed killed := by
  have hstops : stops (p >>= f) s = stops p s ++ match result p s with
      | .ok a => stops (f a) (final p s)
      | .error _ => [] := by
    show (Killable.bind p f s).stops = _
    unfold Killable.bind
    cases hresult : (p s).result <;> simp [stops, result, final, hresult]
  unfold wpk
  rw [wp_bind, hstops, List.forall_mem_append]
  unfold wp
  cases result p s with
  | ok a => exact ⟨fun ⟨h, hp, hf⟩ => ⟨⟨h, hf⟩, hp⟩, fun ⟨⟨h, hf⟩, hp⟩ => ⟨h, hp, hf⟩⟩
  | error e => simp

theorem wpk_refuse {ok : Unit → σ → Prop} :
    wpk (refuse c e) s ok failed killed ↔ (c = true → failed e s) ∧ (c = false → ok () s) := by
  cases c <;> simp [refuse]

theorem wpk_require : wpk (require r) s ok failed killed ↔
    (∀ e, r = .error e → failed e s) ∧ ∀ a, r = .ok a → ok a s := by
  rw [wpk_of_no_stops rfl]
  cases r <;> simp [wp, require, result, final]

theorem wpk_runIf {p : Prog ε σ Unit} {ok : Unit → σ → Prop} :
    wpk (runIf c p) s ok failed killed ↔
      (c = false → ok () s) ∧ (c = true → wpk p s ok failed killed) := by
  cases c <;> simp [runIf]

@[simp] theorem wpk_attempt {ok : Except ε α → σ → Prop} {failed : ε' → σ → Prop} :
    wpk (attempt p : Prog ε' σ (Except ε α)) s ok failed killed ↔
      wpk p s (fun a => ok (.ok a)) (fun e => ok (.error e)) killed :=
  and_congr wp_attempt Iff.rfl

@[simp] theorem wpk_failingWith {f : ε → ε'} {failed : ε' → σ → Prop} :
    wpk (failingWith f p) s ok failed killed ↔ wpk p s ok (fun e => failed (f e)) killed := by
  refine and_congr ?_ Iff.rfl
  unfold wp
  rw [result_failingWith, final_failingWith]
  cases result p s <;> rfl

theorem wpk_within {part : σ → τ} {put : τ → σ → σ} {p : Prog ε τ α} :
    wpk (within part put p) s ok failed killed ↔ wpk p (part s) (fun a t => ok a (put t s))
      (fun e t => failed e (put t s)) fun t => killed (put t s) :=
  and_congr Iff.rfl List.forall_mem_map

theorem wpk.mono {ok' : α → σ → Prop} {failed' : ε → σ → Prop} {killed' : σ → Prop}
    (h : wpk p s ok failed killed) (hok : ∀ a t, ok a t → ok' a t)
    (hfailed : ∀ e t, failed e t → failed' e t) (hkilled : ∀ t, killed t → killed' t) :
    wpk p s ok' failed' killed' :=
  ⟨h.1.mono hok hfailed, fun t ht => hkilled t (h.2 t ht)⟩

theorem wpk_of_forall (hok : ∀ a t, ok a t) (hfailed : ∀ e t, failed e t)
    (hkilled : ∀ t, killed t) : wpk p s ok failed killed := by
  refine ⟨?_, fun t _ => hkilled t⟩
  unfold wp
  cases result p s with
  | ok a => exact hok _ _
  | error e => exact hfailed _ _

/-- What holds of the state that the process leaves behind, however that comes about. -/
theorem wpk.after {inv : σ → Prop} (h : wpk p s (fun _ => inv) (fun _ => inv) inv)
    (stopped : Option Nat) : inv (Killable.after p stopped s) := by
  obtain ⟨hend, hstops⟩ := h
  replace hend : inv (final p s) := by
    unfold wp at hend
    split at hend <;> exact hend
  cases stopped with
  | none => exact hend
  | some n =>
    show inv ((stops p s)[n]?.getD (final p s))
    cases hstop : (stops p s)[n]? with
    | none => exact hend
    | some t => exact hstops t (List.mem_of_getElem? hstop)

end Wpk

end Killable
