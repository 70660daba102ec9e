import Mathlib.Data.List.TakeWhile
import SingboxVpn.Lib.Text

/-!
# Lines of a text

Texts that are read and rewritten line by line, on lists of characters.

* `Lines.lines_unlines` — the lines of a text that was put together from lines.
-/

namespace Lines

open Text (isWhitespace)

def chomp (l : List Char) : List Char := if l.getLast? = some '\r' then l.dropLast else l

/-- The lines of a text whose first line has begun with `cur`.  A last line without a line feed
    keeps its carriage return. -/
def linesFrom (cur : List Char) : List Char → List (List Char)
  | [] => if cur = [] then [] else [cur]
  | c :: rest => if c = '\n' then chomp cur :: linesFrom [] rest else linesFrom (cur ++ [c]) rest

def lines (s : List Char) : List (List Char) := linesFrom [] s

def unlines (ls : List (List Char)) : List Char := ls.flatMap (· ++ ['\n'])

def trimStart (l : List Char) : List Char := l.dropWhile isWhitespace

def trimEnd (l : List Char) : List Char := (l.reverse.dropWhile isWhitespace).reverse

def trimMatches (p : Char → Bool) (l : List Char) : List Char :=
  ((l.dropWhile p).reverse.dropWhile p).reverse

def trim (l : List Char) : List Char := trimMatches isWhitespace l

def splitOnce (sep : Char) (l : List Char) : Option (List Char × List Char) :=
  if sep ∈ l then some (l.takeWhile (· != sep), (l.dropWhile (· != sep)).tail) else none

/-! ### Splitting into lines -/

section Split
variable {l cur : List Char} {ls : List (List Char)}

theorem chomp_cases (l : List Char) : chomp l = l ∨ l = chomp l ++ ['\r'] := by
  unfold chomp
  split
  · next h => exact .inr (List.dropLast_append_getLast? _ h).symm
  · exact .inl rfl

/-- What does not see a carriage return at the end does not see that it is taken off. -/
theorem apply_chomp {β : Type} {f : List Char → β} (h : ∀ l, f (l ++ ['\r']) = f l)
    (l : List Char) : f (chomp l) = f l := by
  rcases chomp_cases l with hl | hl
  · rw [hl]
  · exact (h (chomp l)).symm.trans (congrArg f hl.symm)

theorem not_mem_chomp {c : Char} (h : c ∉ l) : c ∉ chomp l := by
  rcases chomp_cases l with hl | hl
  · rwa [hl]
  · intro hc
    exact h (hl ▸ List.mem_append_left _ hc)

theorem linesFrom_append (h : '\n' ∉ l) (rest : List Char) :
    linesFrom cur (l ++ '\n' :: rest) = chomp (cur ++ l) :: linesFrom [] rest := by
  induction l generalizing cur with
  | nil => simp [linesFrom]
  | cons c l ih =>
    obtain ⟨hc, hl⟩ := List.ne_and_not_mem_of_not_mem_cons h
    rw [List.cons_append, linesFrom, if_neg (Ne.symm hc), ih hl, List.append_assoc,
      List.singleton_append]

theorem lines_unlines (h : ∀ l ∈ ls, '\n' ∉ l) : lines (unlines ls) = ls.map chomp := by
  induction ls with
  | nil => rfl
  | cons l ls ih =>
    have htail := ih fun l' hl' => h l' (List.mem_cons_of_mem _ hl')
    have hl : '\n' ∉ l := h l List.mem_cons_self
    unfold lines at htail ⊢
    rw [unlines, List.flatMap_cons, List.append_assoc, List.singleton_append, linesFrom_append hl,
      List.nil_append, List.map_cons]
    exact congrArg _ htail

theorem not_mem_linesFrom {s : List Char} (hcur : '\n' ∉ cur) :
    ∀ l ∈ linesFrom cur s, '\n' ∉ l := by
  induction s generalizing cur with
  | nil =>
    intro l hl
    unfold linesFrom at hl
    split at hl
    · cases hl
    · rw [List.mem_singleton.mp hl]
      exact hcur
  | cons c rest ih =>
    intro l hl
    unfold linesFrom at hl
    split at hl
    · rcases List.mem_cons.mp hl with rfl | hl
      · exact not_mem_chomp hcur
      · exact ih List.not_mem_nil l hl
    · next hc =>
      refine ih ?_ l hl
      simpa [hcur] using Ne.symm hc

theorem not_mem_lines {s : List Char} : ∀ l ∈ lines s, '\n' ∉ l :=
  not_mem_linesFrom List.not_mem_nil

end Split

/-! ### Whitespace at the end of a line -/

section Trailing
variable {c sep : Char} {l : List Char}

theorem dropWhile_concat {p : Char → Bool} (hc : p c = true) :
    (l ++ [c]).dropWhile p = if l.dropWhile p = [] then [] else l.dropWhile p ++ [c] := by
  induction l with
  | nil => simp [hc]
  | cons a l ih =>
    by_cases ha : p a = true
    · rw [List.cons_append, List.dropWhile_cons_of_pos ha, List.dropWhile_cons_of_pos ha, ih]
    · rw [List.cons_append, List.dropWhile_cons_of_neg ha, List.dropWhile_cons_of_neg ha,
        if_neg (List.cons_ne_nil _ _), List.cons_append]

theorem trimMatches_cons {p : Char → Bool} (hc : p c = true) :
    trimMatches p (c :: l) = trimMatches p l := by
  rw [trimMatches, trimMatches, List.dropWhile_cons_of_pos hc]

theorem trimMatches_concat {p : Char → Bool} (hc : p c = true) :
    trimMatches p (l ++ [c]) = trimMatches p l := by
  unfold trimMatches
  rw [dropWhile_concat hc]
  split
  · next h => rw [h]
  · rw [List.reverse_append, List.reverse_singleton, List.singleton_append,
      List.dropWhile_cons_of_pos hc]

theorem trim_self (hhead : ∀ c ∈ l.head?, isWhitespace c = false)
    (hlast : ∀ c ∈ l.getLast?, isWhitespace c = false) : trim l = l := by
  have hreverse : ∀ c ∈ l.reverse.head?, isWhitespace c = false := by
    rwa [List.head?_reverse]
  rw [trim, trimMatches, Text.dropWhile_of_head hhead,
    Text.dropWhile_of_head hreverse, List.reverse_reverse]

theorem head_trimStart_concat (hc : isWhitespace c = true) :
    (trimStart (l ++ [c])).head? = (trimStart l).head? := by
  unfold trimStart
  rw [dropWhile_concat hc]
  split
  · next h => rw [h]
  · next h => exact List.head?_append_of_ne_nil _ h

theorem splitOnce_append {before : List Char} (h : sep ∉ before) (after : List Char) :
    splitOnce sep (before ++ sep :: after) = some (before, after) := by
  have hbefore : ∀ a ∈ before, (a != sep) = true := by
    intro a ha
    have hne : a ≠ sep := fun e => h (e ▸ ha)
    simpa using hne
  unfold splitOnce
  rw [if_pos (List.mem_append_right _ List.mem_cons_self), List.takeWhile_append_of_pos hbefore,
    List.dropWhile_append_of_pos hbefore]
  simp

theorem splitOnce_concat (hc : c ≠ sep) :
    splitOnce sep (l ++ [c]) = (splitOnce sep l).map fun p => (p.1, p.2 ++ [c]) := by
  by_cases h : sep ∈ l
  · obtain ⟨before, after, rfl, hbefore⟩ := List.eq_append_cons_of_mem h
    rw [List.append_assoc, List.cons_append, splitOnce_append hbefore, splitOnce_append hbefore]
    rfl
  · have hnot : sep ∉ l ++ [c] := by simp [h, Ne.symm hc]
    rw [splitOnce, splitOnce, if_neg h, if_neg hnot]
    rfl

end Trailing

end Lines
