import SingboxVpn.Lib.Json
import SingboxVpn.Lib.Text

/-!
# Searching the text of a value

A text that is searched for and has none of the characters that separate the parts of a value
occurs in the value's text exactly if it occurs in one of the parts: a key or a scalar.

* `Text.infix_append_cons` — an occurrence does not reach over a character that it does not have.
* `Json.infix_chars` — the two agree.
-/

namespace Text

section Infix

variable {α : Type} {l a b : List α} {c : α}

theorem prefix_append_cons (hc : c ∉ l) : l <+: a ++ c :: b ↔ l <+: a := by
  induction a generalizing l with
  | nil =>
    constructor
    · intro h
      rcases List.prefix_cons_iff.mp h with rfl | ⟨t, rfl, -⟩
      · exact List.nil_prefix
      · exact absurd List.mem_cons_self hc
    · intro h
      rw [List.prefix_nil.mp h]
      exact List.nil_prefix
  | cons x a ih =>
    rw [List.cons_append, List.prefix_cons_iff, List.prefix_cons_iff]
    refine or_congr Iff.rfl (exists_congr fun t => and_congr_right ?_)
    rintro rfl
    exact ih fun hmem => hc (List.mem_cons_of_mem _ hmem)

theorem infix_append_cons (hc : c ∉ l) : l <:+: a ++ c :: b ↔ l <:+: a ∨ l <:+: b := by
  induction a with
  | nil =>
    rw [List.nil_append, List.infix_cons_iff]
    refine or_congr ?_ Iff.rfl
    have hstart := prefix_append_cons (a := []) (b := b) hc
    rw [List.nil_append, List.prefix_nil] at hstart
    rw [hstart, List.infix_nil]
  | cons x a ih =>
    rw [List.cons_append, List.infix_cons_iff, List.infix_cons_iff, ih, or_assoc,
      ← List.cons_append, prefix_append_cons hc]

theorem infix_intercalate {f : α → α} {parts : List (List α)} (hne : l ≠ []) (hc : f c ∉ l) :
    l <:+: ([c].intercalate parts).map f ↔ ∃ p ∈ parts, l <:+: p.map f := by
  induction parts with
  | nil => simp [hne]
  | cons p parts ih =>
    cases parts with
    | nil => simp
    | cons q parts =>
      have hjoin : [c].intercalate (p :: q :: parts) = p ++ c :: [c].intercalate (q :: parts) := by
        simp [List.intercalate]
      rw [hjoin, List.map_append, List.map_cons, infix_append_cons hc, ih]
      simp

theorem infix_bracketed {o : α} (hne : l ≠ []) (ho : o ∉ l) (hc : c ∉ l) :
    l <:+: o :: a ++ [c] ↔ l <:+: a := by
  rw [show o :: a ++ [c] = [] ++ o :: (a ++ c :: []) by simp, infix_append_cons ho,
    infix_append_cons hc]
  simp [hne]

end Infix

end Text

namespace Json

open Text (infix_append_cons infix_intercalate infix_bracketed)

def separators : List Char := ['[', ']', ',', ':', Char.ofNat 123, Char.ofNat 125]

/-- A key or a scalar of the value has the text, with letters in lower case. -/
inductive Mentions (needle : List Char) : Json → Prop
  | null : needle <:+: Json.null.chars.map Char.toLower → Mentions needle .null
  | bool {b : Bool} : needle <:+: (Json.bool b).chars.map Char.toLower → Mentions needle (.bool b)
  | num {n : Int} : needle <:+: (Json.num n).chars.map Char.toLower → Mentions needle (.num n)
  | str {s : String} : needle <:+: (textStr s).map Char.toLower → Mentions needle (.str s)
  | item {items : List Json} {j : Json} : j ∈ items → Mentions needle j →
      Mentions needle (arr items)
  | key {fields : List (String × Json)} {p : String × Json} : p ∈ fields →
      needle <:+: (textStr p.1).map Char.toLower → Mentions needle (obj fields)
  | member {fields : List (String × Json)} {p : String × Json} : p ∈ fields →
      Mentions needle p.2 → Mentions needle (obj fields)

section Mentions

variable {needle : List Char}

@[simp] theorem mentions_arr {items : List Json} :
    (arr items).Mentions needle ↔ ∃ j ∈ items, j.Mentions needle := by
  constructor
  · rintro (_ | _ | _ | _ | ⟨hmem, h⟩)
    exact ⟨_, hmem, h⟩
  · rintro ⟨j, hmem, h⟩
    exact .item hmem h

theorem mentions_obj {fields : List (String × Json)} :
    (obj fields).Mentions needle ↔
      ∃ p ∈ fields, needle <:+: (textStr p.1).map Char.toLower ∨ p.2.Mentions needle := by
  constructor
  · rintro (_ | _ | _ | _ | _ | ⟨hmem, h⟩ | ⟨hmem, h⟩)
    · exact ⟨_, hmem, .inl h⟩
    · exact ⟨_, hmem, .inr h⟩
  · rintro ⟨p, hmem, h | h⟩
    · exact .key hmem h
    · exact .member hmem h

@[simp] theorem mentions_str {s : String} :
    (str s).Mentions needle ↔ needle <:+: (textStr s).map Char.toLower := by
  constructor
  · rintro (_ | _ | _ | h)
    exact h
  · exact .str

@[simp] theorem mentions_null :
    null.Mentions needle ↔ needle <:+: null.chars.map Char.toLower := by
  constructor
  · rintro ⟨h⟩
    exact h
  · exact .null

@[simp] theorem mentions_bool {b : Bool} :
    (bool b).Mentions needle ↔ needle <:+: (bool b).chars.map Char.toLower := by
  constructor
  · rintro (_ | ⟨h⟩)
    exact h
  · exact .bool

@[simp] theorem mentions_num {n : Int} :
    (num n).Mentions needle ↔ needle <:+: (num n).chars.map Char.toLower := by
  constructor
  · rintro (_ | _ | ⟨h⟩)
    exact h
  · exact .num

mutual

theorem infix_chars (hne : needle ≠ []) (hsep : ∀ c ∈ separators, c ∉ needle) : ∀ j : Json,
    needle <:+: j.chars.map Char.toLower ↔ j.Mentions needle
  | null => mentions_null.symm
  | bool _ => mentions_bool.symm
  | num _ => mentions_num.symm
  | str _ => mentions_str.symm
  | arr items => by
    have hopen : '['.toLower ∉ needle := hsep '[' (by decide)
    have hclose : ']'.toLower ∉ needle := hsep ']' (by decide)
    have hcomma : ','.toLower ∉ needle := hsep ',' (by decide)
    rw [mentions_arr, ← infix_itemsChars hne hsep items, ← infix_intercalate hne hcomma, chars,
      List.map_append, List.map_cons]
    exact infix_bracketed hne hopen hclose
  | obj fields => by
    have hopen : (Char.ofNat 123).toLower ∉ needle := hsep (Char.ofNat 123) (by decide)
    have hclose : (Char.ofNat 125).toLower ∉ needle := hsep (Char.ofNat 125) (by decide)
    have hcomma : ','.toLower ∉ needle := hsep ',' (by decide)
    rw [mentions_obj, ← infix_fieldsChars hne hsep fields, ← infix_intercalate hne hcomma, chars,
      List.map_append, List.map_cons]
    exact infix_bracketed hne hopen hclose

theorem infix_itemsChars (hne : needle ≠ []) (hsep : ∀ c ∈ separators, c ∉ needle) :
    ∀ items : List Json, (∃ p ∈ itemsChars items, needle <:+: p.map Char.toLower) ↔
      ∃ j ∈ items, j.Mentions needle
  | [] => by simp [itemsChars]
  | j :: items => by
    have hitem := infix_chars hne hsep j
    have hrest := infix_itemsChars hne hsep items
    simp [itemsChars, hitem, hrest]

theorem infix_fieldsChars (hne : needle ≠ []) (hsep : ∀ c ∈ separators, c ∉ needle) :
    ∀ fields : List (String × Json), (∃ p ∈ fieldsChars fields, needle <:+: p.map Char.toLower) ↔
      ∃ p ∈ fields, needle <:+: (textStr p.1).map Char.toLower ∨ p.2.Mentions needle
  | [] => by simp [fieldsChars]
  | (k, j) :: fields => by
    have hcolon : ':'.toLower ∉ needle := hsep ':' (by decide)
    have hmember : needle <:+: (textStr k ++ ':' :: j.chars).map Char.toLower ↔
        needle <:+: (textStr k).map Char.toLower ∨ j.Mentions needle := by
      rw [List.map_append, List.map_cons, infix_append_cons hcolon, infix_chars hne hsep j]
    have hrest := infix_fieldsChars hne hsep fields
    simp only [fieldsChars, List.exists_mem_cons_iff, hmember, hrest]

end

end Mentions

end Json
