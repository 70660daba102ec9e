import Mathlib.Data.List.Basic

/-!
# Streams that arrive in pieces

A stream as an asynchronous reader sees it: each read gives what has arrived, and a reader that wants
a number of elements asks again until it has them.

* `readExact_ok`, `readExact_of_append` — how the stream was cut into pieces makes no difference.
-/

/-- What successive reads deliver, and the error that comes afterwards in place of the end. -/
structure Pieces (ε α : Type) where
  pieces : List { piece : List α // piece ≠ [] }
  failure : Option ε

namespace Pieces

variable {ε α : Type}

def content (r : Pieces ε α) : List α := r.pieces.flatMap Subtype.val

/-- Fills a buffer of `n` elements.  A piece that is too long is not used up. -/
def fill (eof : ε) (failure : Option ε) :
    Nat → List { piece : List α // piece ≠ [] } →
      Except ε (List α × List { piece : List α // piece ≠ [] })
  | 0, ps => .ok ([], ps)
  | _ + 1, [] => .error (failure.getD eof)
  | n + 1, p :: ps =>
    if h : n + 1 < p.1.length then
      .ok (p.1.take (n + 1), ⟨p.1.drop (n + 1), List.drop_eq_nil_iff.not.mpr (Nat.not_le.mpr h)⟩ :: ps)
    else (fill eof failure (n + 1 - p.1.length) ps).map fun filled => (p.1 ++ filled.1, filled.2)

/-- `read_exact`: the elements, or the error of the stream or of its early end. -/
def readExact (eof : ε) (n : Nat) (r : Pieces ε α) : Except ε (List α × Pieces ε α) :=
  (fill eof r.failure n r.pieces).map fun filled => (filled.1, { r with pieces := filled.2 })

section ReadExact
variable {eof : ε} {failure : Option ε} {n : Nat} {xs rest : List α} {r r' : Pieces ε α}
  {ps ps' : List { piece : List α // piece ≠ [] }}

theorem fill_ok (h : fill eof failure n ps = .ok (xs, ps')) :
    ps.flatMap Subtype.val = xs ++ ps'.flatMap Subtype.val ∧ xs.length = n := by
  induction ps generalizing n xs with
  | nil =>
    cases n with
    | zero =>
      cases h
      exact ⟨rfl, rfl⟩
    | succ n => cases h
  | cons p ps ih =>
    cases n with
    | zero =>
      cases h
      exact ⟨rfl, rfl⟩
    | succ n =>
      unfold fill at h
      split at h
      · next hlong =>
        cases h
        simp only [List.flatMap_cons, ← List.append_assoc, List.take_append_drop, true_and,
          List.length_take]
        omega
      · next hshort =>
        cases hfill : fill eof failure (n + 1 - p.1.length) ps with
        | error e =>
          rw [hfill] at h
          cases h
        | ok filled =>
          rw [hfill] at h
          cases h
          obtain ⟨hcontent, hlen⟩ := ih hfill
          rw [List.flatMap_cons, hcontent, List.append_assoc, List.length_append, hlen]
          exact ⟨rfl, by omega⟩

theorem fill_of_append (h : ps.flatMap Subtype.val = xs ++ rest) (hlen : xs.length = n) :
    ∃ ps', fill eof failure n ps = .ok (xs, ps') ∧ ps'.flatMap Subtype.val = rest := by
  induction ps generalizing n xs with
  | nil =>
    obtain ⟨rfl, rfl⟩ := List.append_eq_nil_iff.mp h.symm
    subst hlen
    exact ⟨[], rfl, rfl⟩
  | cons p ps ih =>
    rw [List.flatMap_cons] at h
    cases n with
    | zero =>
      obtain rfl := List.eq_nil_of_length_eq_zero hlen
      exact ⟨p :: ps, rfl, h⟩
    | succ n =>
      unfold fill
      split
      · next hlong =>
        have htake : p.1.take (n + 1) = xs := by
          have := congrArg (List.take (n + 1)) h
          rwa [List.take_append_of_le_length (Nat.le_of_lt hlong), ← hlen, List.take_left, hlen] at this
        refine ⟨_, by rw [htake], ?_⟩
        have hdrop := congrArg (List.drop (n + 1)) h
        rw [List.drop_append_of_le_length (Nat.le_of_lt hlong), ← hlen, List.drop_left, hlen] at hdrop
        exact hdrop
      · next hshort =>
        -- the piece is the first part of what is wanted
        have hxs : xs = p.1 ++ xs.drop p.1.length := by
          have := congrArg (List.take p.1.length) h
          rw [List.take_left, List.take_append_of_le_length (by omega)] at this
          conv_lhs => rw [← List.take_append_drop p.1.length xs, ← this]
        have hrest : ps.flatMap Subtype.val = xs.drop p.1.length ++ rest := by
          rw [hxs, List.append_assoc] at h
          exact List.append_cancel_left h
        obtain ⟨ps', hfill, hps'⟩ := ih (n := n + 1 - p.1.length) hrest (by simp [hlen])
        refine ⟨ps', ?_, hps'⟩
        rw [hfill]
        exact congrArg (fun xs => Except.ok (xs, ps')) hxs.symm

theorem readExact_ok (h : r.readExact eof n = .ok (xs, r')) :
    r.content = xs ++ r'.content ∧ xs.length = n := by
  unfold readExact at h
  cases hfill : fill eof r.failure n r.pieces with
  | error e =>
    rw [hfill] at h
    cases h
  | ok filled =>
    rw [hfill] at h
    cases h
    exact fill_ok hfill

theorem readExact_of_append (eof : ε) (h : r.content = xs ++ rest) (hlen : xs.length = n) :
    ∃ r', r.readExact eof n = .ok (xs, r') ∧ r'.content = rest := by
  obtain ⟨ps', hfill, hps'⟩ := fill_of_append h hlen
  refine ⟨{ r with pieces := ps' }, ?_, hps'⟩
  rw [readExact, hfill]
  rfl

end ReadExact

end Pieces
