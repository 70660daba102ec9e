import Mathlib.Algebra.Ring.Int.Defs
import Mathlib.Data.List.Perm.Basic
import Mathlib.Data.List.Nodup
import Mathlib.Data.String.Basic

/-!
# JSON documents with ordered object keys

Values as a serializer with sorted maps holds them: an object is a list of members in
increasing key order, so that two objects are equal exactly when they have the same members.

* `lookup_insertKey`, `get?_object` — a lookup sees exactly the inserted members;
* `fields_object_perm` — a literal has exactly the members written, the last of each key;
-/

/-- A JSON value.  Numbers are the integers the documents of interest hold. -/
inductive Json where
  | null
  | bool (b : Bool)
  | num (n : Int)
  | str (s : String)
  | arr (items : List Json)
  | obj (fields : List (String × Json))

namespace Json

mutual

def decEq : (a b : Json) → Decidable (a = b)
  | null, null => isTrue rfl
  | bool a, bool b => if h : a = b then isTrue (h ▸ rfl) else isFalse (fun e => h (bool.inj e))
  | num a, num b => if h : a = b then isTrue (h ▸ rfl) else isFalse (fun e => h (num.inj e))
  | str a, str b => if h : a = b then isTrue (h ▸ rfl) else isFalse (fun e => h (str.inj e))
  | arr a, arr b =>
    match decEqItems a b with
    | isTrue h => isTrue (h ▸ rfl)
    | isFalse h => isFalse (fun e => h (arr.inj e))
  | obj a, obj b =>
    match decEqFields a b with
    | isTrue h => isTrue (h ▸ rfl)
    | isFalse h => isFalse (fun e => h (obj.inj e))
  | null, bool _ | null, num _ | null, str _ | null, arr _ | null, obj _ => isFalse nofun
  | bool _, null | bool _, num _ | bool _, str _ | bool _, arr _ | bool _, obj _ => isFalse nofun
  | num _, null | num _, bool _ | num _, str _ | num _, arr _ | num _, obj _ => isFalse nofun
  | str _, null | str _, bool _ | str _, num _ | str _, arr _ | str _, obj _ => isFalse nofun
  | arr _, null | arr _, bool _ | arr _, num _ | arr _, str _ | arr _, obj _ => isFalse nofun
  | obj _, null | obj _, bool _ | obj _, num _ | obj _, str _ | obj _, arr _ => isFalse nofun

def decEqItems : (a b : List Json) → Decidable (a = b)
  | [], [] => isTrue rfl
  | [], _ :: _ => isFalse nofun
  | _ :: _, [] => isFalse nofun
  | a :: as, b :: bs =>
    match decEq a b, decEqItems as bs with
    | isTrue h, isTrue hs => isTrue (h ▸ hs ▸ rfl)
    | isFalse h, _ => isFalse (fun e => h (List.cons.inj e).1)
    | _, isFalse hs => isFalse (fun e => hs (List.cons.inj e).2)

def decEqFields : (a b : List (String × Json)) → Decidable (a = b)
  | [], [] => isTrue rfl
  | [], _ :: _ => isFalse nofun
  | _ :: _, [] => isFalse nofun
  | (k, a) :: as, (l, b) :: bs =>
    if hk : k = l then
      match decEq a b, decEqFields as bs with
      | isTrue h, isTrue hs => isTrue (hk ▸ h ▸ hs ▸ rfl)
      | isFalse h, _ => isFalse (fun e => h (Prod.mk.inj (List.cons.inj e).1).2)
      | _, isFalse hs => isFalse (fun e => hs (List.cons.inj e).2)
    else isFalse (fun e => hk (Prod.mk.inj (List.cons.inj e).1).1)

end

instance : DecidableEq Json := decEq

instance : Inhabited Json := ⟨null⟩

/-! ### Objects -/

/-- Insert a member in key order, replacing the value of a key already there. -/
def insertKey (k : String) (v : Json) : List (String × Json) → List (String × Json)
  | [] => [(k, v)]
  | (k', v') :: rest =>
    if k = k' then (k, v) :: rest
    else if k < k' then (k, v) :: (k', v') :: rest
    else (k', v') :: insertKey k v rest

/-- The object literal `{k₁: v₁, …}`: its members inserted one after the other. -/
def object (kvs : List (String × Json)) : Json :=
  obj (kvs.foldl (fun m kv => insertKey kv.1 kv.2 m) [])

def fields : Json → List (String × Json)
  | obj m => m
  | _ => []

def get? (j : Json) (k : String) : Option Json := j.fields.lookup k

def idx (j : Json) (k : String) : Json := (j.get? k).getD null

/-- Assignment to a member.  `null` becomes an object, as indexed assignment does. -/
def set (j : Json) (k : String) (v : Json) : Json :=
  match j with
  | obj m => obj (insertKey k v m)
  | null => obj [(k, v)]
  | other => other

def eraseKey (k : String) (m : List (String × Json)) : List (String × Json) :=
  m.filter fun kv => kv.1 ≠ k

def remove (j : Json) (k : String) : Json :=
  match j with
  | obj m => obj (eraseKey k m)
  | other => other

def asArray : Json → Option (List Json)
  | arr l => some l
  | _ => none

def asStr : Json → Option String
  | str s => some s
  | _ => none

def asU64 : Json → Option Nat
  | num n => if 0 ≤ n ∧ n < 2 ^ 64 then some n.toNat else none
  | _ => none

def asI64 : Json → Option Int
  | num n => if -2 ^ 63 ≤ n ∧ n < 2 ^ 63 then some n else none
  | _ => none

def isObject : Json → Bool
  | obj _ => true
  | _ => false

def strs (l : List String) : Json := arr (l.map str)

def texts : Json → List String
  | str s => [s]
  | arr l => l.filterMap asStr
  | _ => []

def nums : Json → List Int
  | num n => [n]
  | arr l => l.filterMap fun | num n => some n | _ => none
  | _ => []

@[simp] theorem texts_str (s : String) : (str s).texts = [s] := rfl
@[simp] theorem texts_null : null.texts = [] := rfl
@[simp] theorem nums_num (n : Int) : (num n).nums = [n] := rfl
@[simp] theorem asArray_arr (l : List Json) : (arr l).asArray = some l := rfl
@[simp] theorem asStr_str (s : String) : (str s).asStr = some s := rfl
@[simp] theorem fields_obj (m : List (String × Json)) : (obj m).fields = m := rfl

@[simp] theorem asArray_strs (l : List String) : (strs l).asArray = some (l.map str) := rfl

@[simp] theorem filterMap_asStr_map_str (l : List String) : (l.map str).filterMap asStr = l := by
  induction l with
  | nil => rfl
  | cons s l ih => rw [List.map_cons, List.filterMap_cons, asStr_str, ih]

@[simp] theorem texts_strs (l : List String) : (strs l).texts = l := filterMap_asStr_map_str l

/-! ### Lookups after insertion -/

theorem lookup_cons_ite (k k' : String) (v : Json) (m : List (String × Json)) :
    ((k, v) :: m).lookup k' = if k' = k then some v else m.lookup k' := by
  by_cases h : k' = k
  · simp [h]
  · have hb : (k' == k) = false := by simpa using h
    rw [if_neg h, List.lookup_cons, hb]

theorem lookup_insertKey (k k' : String) (v : Json) (m : List (String × Json)) :
    (insertKey k v m).lookup k' = if k' = k then some v else m.lookup k' := by
  induction m with
  | nil => exact lookup_cons_ite k k' v []
  | cons kv m ih =>
    obtain ⟨k₁, v₁⟩ := kv
    rw [insertKey]
    by_cases h₁ : k = k₁
    · subst h₁
      rw [if_pos rfl, lookup_cons_ite, lookup_cons_ite]
      by_cases h : k' = k
      · rw [if_pos h, if_pos h]
      · rw [if_neg h, if_neg h, if_neg h]
    · rw [if_neg h₁]
      split
      · rw [lookup_cons_ite]
      · rw [lookup_cons_ite, lookup_cons_ite, ih]
        by_cases h : k' = k₁
        · have hne : k' ≠ k := fun e => h₁ (e.symm.trans h)
          rw [if_pos h, if_neg hne, if_pos h]
        · rw [if_neg h, if_neg h]

theorem lookup_eraseKey (k k' : String) (m : List (String × Json)) :
    (eraseKey k m).lookup k' = if k' = k then none else m.lookup k' := by
  induction m with
  | nil => simp [eraseKey]
  | cons kv m ih =>
    obtain ⟨k₁, v₁⟩ := kv
    by_cases h₁ : k₁ = k
    · subst h₁
      rw [eraseKey, List.filter_cons_of_neg (by simp), ← eraseKey, ih, lookup_cons_ite]
      by_cases h : k' = k₁
      · rw [if_pos h, if_pos h]
      · rw [if_neg h, if_neg h, if_neg h]
    · rw [eraseKey, List.filter_cons_of_pos (by simpa using h₁), ← eraseKey, lookup_cons_ite,
        lookup_cons_ite, ih]
      by_cases h : k' = k₁
      · have hne : k' ≠ k := fun e => h₁ (h.symm.trans e)
        rw [if_pos h, if_neg hne, if_pos h]
      · rw [if_neg h, if_neg h]

/-- The keys of an object are in increasing order, and so distinct. -/
def SortedKeys (m : List (String × Json)) : Prop := m.Pairwise fun a b => a.1 < b.1

variable {k : String} {v j : Json} {m m' kvs : List (String × Json)} {p : String × Json}

theorem mem_insertKey (h : p ∈ insertKey k v m) : p = (k, v) ∨ p ∈ m := by
  induction m with
  | nil => simpa [insertKey] using h
  | cons kv m ih =>
    rw [insertKey] at h
    split at h
    · exact (List.mem_cons.mp h).imp_right (List.mem_cons_of_mem _)
    split at h
    · exact List.mem_cons.mp h
    · rcases List.mem_cons.mp h with rfl | h
      · exact .inr List.mem_cons_self
      · exact (ih h).imp_right (List.mem_cons_of_mem _)

theorem sortedKeys_insertKey (h : SortedKeys m) : SortedKeys (insertKey k v m) := by
  induction m with
  | nil => exact List.pairwise_singleton _ _
  | cons kv m ih =>
    obtain ⟨k₁, v₁⟩ := kv
    obtain ⟨hk, hm⟩ := List.pairwise_cons.mp h
    rw [insertKey]
    split
    · next h₁ =>
      subst h₁
      exact List.pairwise_cons.mpr ⟨hk, hm⟩
    split
    · next h₂ =>
      refine List.pairwise_cons.mpr ⟨?_, h⟩
      intro p hp
      rcases List.mem_cons.mp hp with rfl | hp
      · exact h₂
      · exact lt_trans h₂ (hk p hp)
    · next h₁ h₂ =>
      refine List.pairwise_cons.mpr ⟨?_, ih hm⟩
      intro p hp
      rcases mem_insertKey hp with rfl | hp
      · exact lt_of_le_of_ne (not_lt.mp h₂) (Ne.symm h₁)
      · exact hk p hp

theorem lookup_of_mem (hkeys : (m.map Prod.fst).Nodup) (h : (k, v) ∈ m) : m.lookup k = some v := by
  induction m with
  | nil => cases h
  | cons p m ih =>
    obtain ⟨hp, hm⟩ := List.nodup_cons.mp hkeys
    rcases List.mem_cons.mp h with rfl | h
    · exact List.lookup_cons_self
    · have hne : k ≠ p.1 := fun e => hp (e ▸ List.mem_map_of_mem h)
      rw [List.lookup_cons, beq_false_of_ne hne]
      exact ih hm h

theorem mem_of_lookup (h : m.lookup k = some v) : (k, v) ∈ m := by
  obtain ⟨l₁, l₂, rfl, -⟩ := List.lookup_eq_some_iff.mp h
  simp

theorem sortedKeys_eraseKey (h : SortedKeys m) : SortedKeys (eraseKey k m) :=
  h.filter _

theorem SortedKeys.nodup (h : SortedKeys m) : (m.map Prod.fst).Nodup :=
  (List.pairwise_map.mpr h).imp fun hlt => hlt.ne

theorem SortedKeys.eq_of_perm (h : SortedKeys m) (h' : SortedKeys m') (hperm : m.Perm m') :
    m = m' :=
  hperm.eq_of_pairwise (fun _ _ _ _ hab hba => absurd hba (lt_asymm hab)) h h'

theorem SortedKeys.ext (h : SortedKeys m) (h' : SortedKeys m')
    (hsame : ∀ k, m.lookup k = m'.lookup k) : m = m' := by
  refine h.eq_of_perm h' ((List.perm_ext_iff_of_nodup h.nodup.of_map h'.nodup.of_map).mpr ?_)
  intro p
  constructor
  · intro hp
    exact mem_of_lookup ((hsame _).symm.trans (lookup_of_mem h.nodup hp))
  · intro hp
    exact mem_of_lookup ((hsame _).trans (lookup_of_mem h'.nodup hp))

theorem insertKey_of_lookup (h : SortedKeys m) (hk : m.lookup k = some v) :
    insertKey k v m = m := by
  refine (sortedKeys_insertKey h).ext h fun k' => ?_
  rw [lookup_insertKey]
  split
  · next heq => rw [heq, hk]
  · rfl

theorem insertKey_perm (h : SortedKeys m) :
    (insertKey k v m).Perm ((k, v) :: m.filter fun p => p.1 ≠ k) := by
  induction m with
  | nil => exact List.Perm.refl _
  | cons kv m ih =>
    obtain ⟨k₁, v₁⟩ := kv
    obtain ⟨hk, hm⟩ := List.pairwise_cons.mp h
    have hkeep : ∀ k₂, (∀ p ∈ m, k₂ < p.1) → m.filter (fun p => p.1 ≠ k₂) = m := by
      intro k₂ hlt
      refine List.filter_eq_self.mpr fun p hp => ?_
      simpa using (ne_of_lt (hlt p hp)).symm
    rw [insertKey]
    by_cases h₁ : k = k₁
    · subst h₁
      rw [if_pos rfl, List.filter_cons_of_neg (by simp), hkeep k hk]
    · rw [if_neg h₁, List.filter_cons_of_pos (by simpa using Ne.symm h₁)]
      by_cases h₂ : k < k₁
      · rw [if_pos h₂, hkeep k fun p hp => lt_trans h₂ (hk p hp)]
      · rw [if_neg h₂]
        exact ((ih hm).cons _).trans (List.Perm.swap _ _ _)

/-- The members of a literal that are not overwritten by a later one. -/
def lastWins : List (String × Json) → List (String × Json)
  | [] => []
  | kv :: rest => if rest.any (·.1 == kv.1) then lastWins rest else kv :: lastWins rest

theorem foldl_insertKey_perm (kvs m : List (String × Json)) (h : SortedKeys m) :
    SortedKeys (kvs.foldl (fun m kv => insertKey kv.1 kv.2 m) m) ∧
    (kvs.foldl (fun m kv => insertKey kv.1 kv.2 m) m).Perm
      ((m.filter fun p => !kvs.any (·.1 == p.1)) ++ lastWins kvs) := by
  induction kvs generalizing m with
  | nil => simpa [lastWins] using h
  | cons kv kvs ih =>
    obtain ⟨hsorted, hperm⟩ := ih (insertKey kv.1 kv.2 m) (sortedKeys_insertKey h)
    refine ⟨hsorted, hperm.trans ?_⟩
    have hins := (insertKey_perm (k := kv.1) (v := kv.2) h).filter fun p =>
      !kvs.any (·.1 == p.1)
    -- a member survives both filters exactly when no member of the literal has its key
    have hboth : (m.filter fun p => p.1 ≠ kv.1).filter (fun p => !kvs.any (·.1 == p.1)) =
        m.filter fun p => !(kv :: kvs).any (·.1 == p.1) := by
      rw [List.filter_filter]
      refine List.filter_congr fun p _ => ?_
      by_cases hp : p.1 = kv.1
      · simp [hp]
      · have hp' : (kv.1 == p.1) = false := by simpa using Ne.symm hp
        simp [hp, hp']
    rw [lastWins]
    by_cases hk : kvs.any (·.1 == kv.1) = true
    · rw [if_pos hk]
      rw [List.filter_cons_of_neg (by simpa using hk), hboth] at hins
      exact hins.append_right _
    · rw [if_neg hk]
      rw [List.filter_cons_of_pos (by rw [Bool.not_eq_true']; exact Bool.eq_false_iff.mpr hk),
        hboth] at hins
      exact (hins.append_right _).trans List.perm_middle.symm

theorem sortedKeys_object (kvs : List (String × Json)) : SortedKeys (object kvs).fields :=
  (foldl_insertKey_perm kvs [] List.Pairwise.nil).1

theorem fields_object_perm (kvs : List (String × Json)) :
    (object kvs).fields.Perm (lastWins kvs) := by
  have := (foldl_insertKey_perm kvs [] List.Pairwise.nil).2
  simpa [object] using this

theorem object_eq_of_perm {kvs' : List (String × Json)} (h : (lastWins kvs).Perm (lastWins kvs')) :
    object kvs = object kvs' := by
  have hperm : (object kvs).fields.Perm (object kvs').fields :=
    (fields_object_perm kvs).trans (h.trans (fields_object_perm kvs').symm)
  exact congrArg obj ((sortedKeys_object kvs).eq_of_perm (sortedKeys_object kvs') hperm)

theorem all_fields_object (kvs : List (String × Json)) (f : String × Json → Bool) :
    (object kvs).fields.all f = (lastWins kvs).all f :=
  (fields_object_perm kvs).all_eq

theorem lastWins_subset (kvs : List (String × Json)) : ∀ p ∈ lastWins kvs, p ∈ kvs := by
  induction kvs with
  | nil => exact fun p hp => hp
  | cons kv kvs ih =>
    intro p hp
    rw [lastWins] at hp
    split at hp
    · exact List.mem_cons_of_mem _ (ih p hp)
    · exact (List.mem_cons.mp hp).elim (fun h => h ▸ List.mem_cons_self ..)
        fun h => List.mem_cons_of_mem _ (ih p h)

theorem lastWins_of_nodup (h : (kvs.map Prod.fst).Nodup) : lastWins kvs = kvs := by
  induction kvs with
  | nil => rfl
  | cons kv kvs ih =>
    rw [List.map_cons, List.nodup_cons] at h
    have hnot : kvs.any (·.1 == kv.1) = false := by
      rw [List.any_eq_false]
      intro p hp heq
      exact h.1 (beq_iff_eq.mp heq ▸ List.mem_map_of_mem hp)
    rw [lastWins, hnot, ih h.2]
    rfl

theorem mem_fields_object (h : (kvs.map Prod.fst).Nodup) : p ∈ (object kvs).fields ↔ p ∈ kvs := by
  rw [(fields_object_perm kvs).mem_iff, lastWins_of_nodup h]

theorem mem_of_mem_object (h : p ∈ (object kvs).fields) : p ∈ kvs :=
  lastWins_subset kvs p ((fields_object_perm kvs).subset h)

theorem mem_fields_set (h : p ∈ (j.set k v).fields) : p = (k, v) ∨ p ∈ j.fields := by
  cases j with
  | obj m => exact mem_insertKey h
  | null => simpa [set, fields] using h
  | _ => exact .inr h

theorem mem_fields_remove : p ∈ (j.remove k).fields ↔ p ∈ j.fields ∧ p.1 ≠ k := by
  cases j <;> simp [remove, fields, eraseKey]

theorem mem_of_get? (h : j.get? k = some v) : (k, v) ∈ j.fields :=
  mem_of_lookup h

theorem all_fields_set (h : ∀ p ∈ kvs, p.1 = k → p.2 = v) (f : String × Json → Bool) :
    ((object kvs).set k v).fields.all f = (f (k, v) && (object kvs).fields.all f) := by
  have hset : ((object kvs).set k v).fields = insertKey k v (object kvs).fields := rfl
  have hsame : ∀ p ∈ (object kvs).fields, p.1 = k → p = (k, v) := by
    intro p hp hk
    have hp' := lastWins_subset kvs p ((fields_object_perm kvs).subset hp)
    exact Prod.ext hk (h p hp' hk)
  rw [hset, (insertKey_perm (sortedKeys_object kvs)).all_eq, List.all_cons]
  by_cases hf : f (k, v) = true
  · rw [hf, Bool.true_and, Bool.true_and, Bool.eq_iff_iff, List.all_eq_true, List.all_eq_true]
    constructor
    · intro hall p hp
      by_cases hk : p.1 = k
      · rw [hsame p hp hk, hf]
      · exact hall p (List.mem_filter.mpr ⟨hp, by simpa using hk⟩)
    · exact fun hall p hp => hall p (List.mem_filter.mp hp).1
  · rw [Bool.not_eq_true] at hf
    rw [hf, Bool.false_and, Bool.false_and]

theorem lookup_foldl_insertKey (kvs m : List (String × Json)) (k : String) :
    (kvs.foldl (fun m kv => insertKey kv.1 kv.2 m) m).lookup k =
      (kvs.reverse.lookup k).or (m.lookup k) := by
  induction kvs generalizing m with
  | nil => simp
  | cons kv kvs ih =>
    rw [List.foldl_cons, ih, lookup_insertKey, List.reverse_cons, List.lookup_append,
      lookup_cons_ite]
    cases kvs.reverse.lookup k with
    | some v => simp
    | none =>
      by_cases h : k = kv.1
      · simp [h]
      · simp [h]

/-- A lookup in a literal finds the last member written under that key. -/
theorem get?_object (kvs : List (String × Json)) (k : String) :
    (object kvs).get? k = kvs.reverse.lookup k := by
  rw [get?, object, fields_obj, lookup_foldl_insertKey]
  simp

theorem idx_object (kvs : List (String × Json)) (k : String) :
    (object kvs).idx k = (kvs.reverse.lookup k).getD null := by
  rw [idx, get?_object]

theorem get?_set (h : j.isObject = true) (k k' : String) (v : Json) :
    (j.set k v).get? k' = if k' = k then some v else j.get? k' := by
  cases j with
  | obj m => exact lookup_insertKey k k' v m
  | _ => simp [isObject] at h

theorem idx_set (h : j.isObject = true) (k k' : String) (v : Json) :
    (j.set k v).idx k' = if k' = k then v else j.idx k' := by
  unfold idx
  rw [get?_set h]
  split <;> rfl

theorem get?_remove (j : Json) (k k' : String) :
    (j.remove k).get? k' = if k' = k then none else j.get? k' := by
  cases j with
  | obj m => exact lookup_eraseKey k k' m
  | _ => simp [remove, get?, fields]

@[simp] theorem isObject_object (kvs : List (String × Json)) : (object kvs).isObject = true := rfl

@[simp] theorem isObject_set : (j.set k v).isObject = (j.isObject || decide (j = null)) := by
  cases j <;> simp [set, isObject]

theorem set_object (kvs : List (String × Json)) (k : String) (v : Json) :
    (object kvs).set k v = object (kvs ++ [(k, v)]) := by
  simp only [object, set, List.foldl_append, List.foldl_cons, List.foldl_nil]

/-! ### The text of a value -/

def textChar (c : Char) : List Char :=
  if c = '"' then ['\\', '"']
  else if c = '\\' then ['\\', '\\']
  else if c = '\n' then ['\\', 'n']
  else if c = '\r' then ['\\', 'r']
  else if c = '\t' then ['\\', 't']
  else if c = Char.ofNat 8 then ['\\', 'b']
  else if c = Char.ofNat 12 then ['\\', 'f']
  else if c.toNat < 32 then
    ['\\', 'u', '0', '0', Nat.digitChar (c.toNat / 16), Nat.digitChar (c.toNat % 16)]
  else [c]

def textStr (s : String) : List Char := '"' :: s.toList.flatMap textChar ++ ['"']

mutual

def chars : Json → List Char
  | null => "null".toList
  | bool b => if b then "true".toList else "false".toList
  | num n => (toString n).toList
  | str s => textStr s
  | arr items => '[' :: [','].intercalate (itemsChars items) ++ [']']
  | obj fields => Char.ofNat 123 :: [','].intercalate (fieldsChars fields) ++ [Char.ofNat 125]

def itemsChars : List Json → List (List Char)
  | [] => []
  | j :: js => j.chars :: itemsChars js

def fieldsChars : List (String × Json) → List (List Char)
  | [] => []
  | (k, j) :: rest => (textStr k ++ ':' :: j.chars) :: fieldsChars rest

end

def text (j : Json) : String := String.ofList j.chars

end Json
