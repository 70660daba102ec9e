import SingboxVpn.Lib.Json
import SingboxVpn.Lib.Text

/-!
# Typed reading of documents

How a derived deserializer reads a value: a record from an object, whose unknown members are
ignored, or from an array in the order of its fields; a field by its type, with the default that is
declared for it.

* `readOr_or`, `readSigned_mem`, `readList_mem` — what was read.
-/

/-- The members of an object. -/
abbrev Table := List (String × Json)

namespace Json

def readStr : Json → Except String String
  | .str s => .ok s
  | _ => .error "invalid type: expected a string"

def readBool : Json → Except String Bool
  | .bool b => .ok b
  | _ => .error "invalid type: expected a boolean"

def readUnsigned (width : Nat) : Json → Except String Nat
  | .num n => if 0 ≤ n ∧ n.toNat < 2 ^ width then .ok n.toNat else .error "invalid value: integer"
  | _ => .error "invalid type: expected an integer"

def readSigned (j : Json) : Except String Int :=
  match j.asI64 with
  | some n => .ok n
  | none => .error "invalid type: expected i64"

def readList {α : Type} (read : Json → Except String α) : Json → Except String (List α)
  | .arr items => items.mapM read
  | _ => .error "invalid type: expected a sequence"

def structFields (names : List String) (required : Nat) : Json → Except String Table
  | .obj m => .ok m
  | .arr items =>
    if required ≤ items.length ∧ items.length ≤ names.length then .ok (names.zip items)
    else .error "invalid length"
  | _ => .error "invalid type: expected a struct"

def readRequired {α : Type} (read : Json → Except String α) (name : String) :
    Option Json → Except String α
  | none => .error ("missing field " ++ name)
  | some j => read j

def readOr {α : Type} (read : Json → Except String α) (dflt : α) : Option Json → Except String α
  | none => .ok dflt
  | some j => read j

def readOption {α : Type} (read : Json → Except String α) : Option Json → Except String (Option α)
  | none | some .null => .ok none
  | some j => (read j).map some

/-! ### What was read -/

variable {α : Type} {dflt x : α} {j : Option Json}

theorem readOr_or {read : Json → Except String α} {enc : α → Json} {value : Option α}
    {old : Option Json} {y : α} (henc : ∀ v z, read (enc v) = .ok z → z = v)
    (hold : readOr read dflt old = .ok x)
    (hnew : readOr read dflt ((value.map enc).or old) = .ok y) : y = value.getD x := by
  cases value with
  | none => exact Except.ok.inj (hnew.symm.trans hold)
  | some v => exact henc v y hnew

theorem readStrs_strs (l l' : List String) (h : readList readStr (strs l) = .ok l') : l' = l := by
  have hmap : ∀ l : List String, (l.map Json.str).mapM readStr = .ok l := by
    intro l
    induction l with
    | nil => rfl
    | cons s l ih =>
      rw [List.map_cons, List.mapM_cons, ih]
      rfl
  exact Except.ok.inj (h.symm.trans (hmap l))

theorem readUnsigned_num {width : Nat} (n m : Nat) (h : readUnsigned width (.num n) = .ok m) :
    m = n := by
  simp only [readUnsigned] at h
  split at h
  · exact (Except.ok.inj h).symm
  · cases h

theorem readSigned_mem {j : Json} {n : Int} (h : readSigned j = .ok n) :
    -2 ^ 63 ≤ n ∧ n < 2 ^ 63 := by
  unfold readSigned at h
  split at h
  · next n' hj =>
    cases h
    unfold asI64 at hj
    split at hj
    · split at hj
      · next hrange =>
        cases hj
        exact hrange
      · cases hj
    · cases hj
  · cases h

theorem readRequired_ok {read : Json → Except String α} {name : String}
    (h : readRequired read name j = .ok x) : ∃ item, j = some item ∧ read item = .ok x := by
  cases j with
  | none => cases h
  | some item => exact ⟨item, rfl, h⟩

theorem readOr_ok {read : Json → Except String α} (h : readOr read dflt j = .ok x) :
    x = dflt ∨ ∃ item, j = some item ∧ read item = .ok x := by
  cases j with
  | none => exact .inl (Except.ok.inj h).symm
  | some item => exact .inr ⟨item, rfl, h⟩

theorem readList_mem {read : Json → Except String α} {j : Json} {l : List α}
    (h : readList read j = .ok l) : ∀ x ∈ l, ∃ item, read item = .ok x := by
  unfold readList at h
  split at h
  · next items =>
    induction items generalizing l with
    | nil =>
      cases h
      exact fun x hx => absurd hx List.not_mem_nil
    | cons item items ih =>
      rw [List.mapM_cons] at h
      obtain ⟨a, ha, h⟩ := Check.bind_eq_ok.mp h
      obtain ⟨as, has, h⟩ := Check.bind_eq_ok.mp h
      cases h
      intro x hx
      rcases List.mem_cons.mp hx with rfl | hx
      · exact ⟨item, ha⟩
      · exact ih has x hx
  · cases h

end Json
