import Mathlib.Data.List.Infix
import Mathlib.Data.String.Basic

/-!
# Text operations and checks that fail with a message

The string operations that input validation uses, on the list of characters of a text,
and the small calculus of checks that either pass or refuse with an error.
-/

namespace Text

def startsWith (p s : String) : Bool := p.toList.isPrefixOf s.toList

def endsWith (p s : String) : Bool := p.toList.isSuffixOf s.toList

def contains (needle s : String) : Bool := s.toList.tails.any (needle.toList.isPrefixOf ·)

def occurs (needle s : List Char) : Bool := s.tails.any (needle.isPrefixOf ·)

def len (s : String) : Nat := s.utf8ByteSize

/-- The characters with the Unicode property `White_Space`. -/
def isWhitespace (c : Char) : Bool :=
  let n := c.toNat
  (9 ≤ n && n ≤ 13) || n == 0x20 || n == 0x85 || n == 0xA0 || n == 0x1680 ||
    (0x2000 ≤ n && n ≤ 0x200A) || n == 0x2028 || n == 0x2029 || n == 0x202F ||
    n == 0x205F || n == 0x3000

/-- The control characters (general category `Cc`). -/
def isControl (c : Char) : Bool :=
  let n := c.toNat
  n ≤ 0x1F || (0x7F ≤ n && n ≤ 0x9F)

def isAsciiHexdigit (c : Char) : Bool :=
  c.isDigit || ('a' ≤ c && c ≤ 'f') || ('A' ≤ c && c ≤ 'F')

def trim (s : String) : String :=
  String.ofList ((s.toList.dropWhile isWhitespace).reverse.dropWhile isWhitespace).reverse

def afterStart (p s : String) : Option String :=
  if startsWith p s then some (String.ofList (s.toList.drop p.toList.length)) else none

def isBlank (s : String) : Bool := (trim s).isEmpty

def split (c : Char) (s : String) : List String := (s.toList.splitOn c).map String.ofList

/-- ASCII letters to lower case, every other character unchanged. -/
def toAsciiLowercase (s : String) : String := String.ofList (s.toList.map Char.toLower)

def zeroPad (width n : Nat) : String :=
  String.ofList (List.replicate (width - (Nat.toDigits 10 n).length) '0' ++ Nat.toDigits 10 n)

def debugChar (c : Char) : List Char :=
  if c = '"' then ['\\', '"']
  else if c = '\\' then ['\\', '\\']
  else if c = '\n' then ['\\', 'n']
  else if c = '\r' then ['\\', 'r']
  else if c = '\t' then ['\\', 't']
  else if c = Char.ofNat 0 then ['\\', '0']
  else if isControl c then
    ['\\', 'u', Char.ofNat 123] ++ Nat.toDigits 16 c.toNat ++ [Char.ofNat 125]
  else [c]

/-- The text as a quoted literal, with quotes, backslashes and control characters
    escaped. -/
def debug (s : String) : String := "\"" ++ String.ofList (s.toList.flatMap debugChar) ++ "\""

def debugList (ss : List String) : String := "[" ++ ", ".intercalate (ss.map debug) ++ "]"

theorem occurs_iff {needle s : List Char} : occurs needle s = true ↔ needle <:+: s := by
  simp only [occurs, List.any_eq_true, List.mem_tails, List.isPrefixOf_iff_prefix]
  rw [List.infix_iff_prefix_suffix]
  exact ⟨fun ⟨t, hs, hp⟩ => ⟨t, hp, hs⟩, fun ⟨t, hp, hs⟩ => ⟨t, hs, hp⟩⟩

variable {s p : String} {n : Nat} {l : List Char} {c : Char}

theorem contains_iff {needle : String} : contains needle s = true ↔ needle.toList <:+: s.toList :=
  occurs_iff

theorem startsWith_iff : startsWith p s = true ↔ p.toList <+: s.toList :=
  List.isPrefixOf_iff_prefix

theorem startsWith_false_of_prefix {q : String} (hp : startsWith p s = true)
    (hpq : startsWith p q = false) (hqp : startsWith q p = false) : startsWith q s = false := by
  rw [Bool.eq_false_iff]
  intro hq
  rw [startsWith_iff] at hp hq
  rcases List.prefix_or_prefix_of_prefix hp hq with h | h
  · rw [← startsWith_iff, hpq] at h
    exact Bool.false_ne_true h
  · rw [← startsWith_iff, hqp] at h
    exact Bool.false_ne_true h

theorem ofDigitChars_zeros (k : Nat) (l : List Char) :
    Nat.ofDigitChars 10 (List.replicate k '0' ++ l) 0 = Nat.ofDigitChars 10 l 0 := by
  induction k with
  | zero => rfl
  | succ k ih =>
    rw [List.replicate_succ, List.cons_append, Nat.ofDigitChars_cons]
    exact ih

theorem zeroPad_inj {width m : Nat} (h : zeroPad width n = zeroPad width m) : n = m := by
  have hread : ∀ k, Nat.ofDigitChars 10 (zeroPad width k).toList 0 = k := by
    intro k
    rw [zeroPad, String.toList_ofList, ofDigitChars_zeros, Nat.ofDigitChars_ten_toDigits]
  rw [← hread n, h, hread m]

/-! ### Lower case -/

theorem dropWhile_of_head {p : Char → Bool} (h : ∀ c ∈ l.head?, p c = false) :
    l.dropWhile p = l := by
  cases l with
  | nil => rfl
  | cons c l => simp [h c rfl]

theorem head_dropWhile {p : Char → Bool} : ∀ c ∈ (l.dropWhile p).head?, p c = false := by
  intro c hc
  have hnot := List.head?_dropWhile_not p l
  rw [Option.mem_def.mp hc] at hnot
  exact hnot

theorem trim_trim (s : String) : trim (trim s) = trim s := by
  unfold trim
  rw [String.toList_ofList]
  generalize hl : s.toList.dropWhile isWhitespace = l
  have hstart : ∀ c ∈ l.head?, isWhitespace c = false := hl ▸ head_dropWhile
  -- what is left starts as the text without its leading whitespace does
  have hhead : (l.reverse.dropWhile isWhitespace).reverse.dropWhile isWhitespace =
      (l.reverse.dropWhile isWhitespace).reverse := by
    apply dropWhile_of_head
    intro c hc
    obtain ⟨rest, hrest⟩ := List.dropWhile_suffix (l := l.reverse) isWhitespace
    apply hstart
    rw [← List.reverse_reverse l, ← hrest, List.reverse_append]
    cases hlist : (l.reverse.dropWhile isWhitespace).reverse with
    | nil => simp [hlist] at hc
    | cons d ds => simpa [hlist] using hc
  rw [hhead, List.reverse_reverse, dropWhile_of_head head_dropWhile]

theorem utf8Size_toLower (c : Char) : c.toLower.utf8Size = c.utf8Size := by
  unfold Char.toLower
  split
  · next h =>
    obtain ⟨hlow, hhigh⟩ := h
    have hlow' : 65 ≤ c.val.toNat := hlow
    have hhigh' : c.val.toNat ≤ 90 := hhigh
    have hval : (c.val + ('a'.val - 'A'.val)).toNat = c.val.toNat + 32 := by
      rw [UInt32.toNat_add]
      show (c.val.toNat + 32) % 2 ^ 32 = c.val.toNat + 32
      omega
    simp only [Char.utf8Size, UInt32.le_iff_toNat_le, hval]
    rw [if_pos, if_pos]
    · show c.val.toNat ≤ 127
      omega
    · show c.val.toNat + 32 ≤ 127
      omega
  · rfl

theorem len_toAsciiLowercase (s : String) : len (toAsciiLowercase s) = len s := by
  have h : ∀ l : List Char, String.utf8Len (l.map Char.toLower) = String.utf8Len l := by
    intro l
    induction l with
    | nil => rfl
    | cons c l ih => simp [String.utf8Len, ih, utf8Size_toLower]
  rw [len, len, toAsciiLowercase, String.utf8ByteSize_ofList, h, ← String.utf8ByteSize_ofList,
    String.ofList_toList]

theorem toNat_of_isAsciiHexdigit (h : isAsciiHexdigit c = true) : c.toNat < 128 := by
  simp only [isAsciiHexdigit, Char.isDigit, Bool.or_eq_true, Bool.and_eq_true, decide_eq_true_eq]
    at h
  rcases h with (⟨-, h⟩ | ⟨-, h⟩) | ⟨-, h⟩
  · exact lt_of_le_of_lt (show c.toNat ≤ 57 from h) (by decide)
  · exact lt_of_le_of_lt (show c.toNat ≤ 102 from h) (by decide)
  · exact lt_of_le_of_lt (show c.toNat ≤ 70 from h) (by decide)

theorem toNat_of_isAlphanum (h : c.isAlphanum = true) : 48 ≤ c.toNat ∧ c.toNat ≤ 122 := by
  have hval : c.toNat = c.val.toNat := rfl
  have hlow : 'A'.val.toNat = 65 ∧ 'a'.val.toNat = 97 ∧ '0'.val.toNat = 48 := ⟨rfl, rfl, rfl⟩
  have hhigh : 'Z'.val.toNat = 90 ∧ 'z'.val.toNat = 122 ∧ '9'.val.toNat = 57 := ⟨rfl, rfl, rfl⟩
  delta Char.isAlphanum Char.isAlpha Char.isUpper Char.isLower Char.isDigit at h
  simp only [Bool.or_eq_true, Bool.and_eq_true, decide_eq_true_eq, ge_iff_le,
    UInt32.le_iff_toNat_le] at h
  omega

theorem isAsciiHexdigit_toLower (h : isAsciiHexdigit c = true) :
    isAsciiHexdigit c.toLower = true := by
  -- the digits are ASCII, so a finite check covers them
  have hall : ∀ n < 128, isAsciiHexdigit (Char.ofNat n) = true →
      isAsciiHexdigit (Char.ofNat n).toLower = true := by decide
  have hc := hall c.toNat (toNat_of_isAsciiHexdigit h)
  rw [Char.ofNat_toNat] at hc
  exact hc h

theorem trim_of_hex (h : ∀ c ∈ s.toList, isAsciiHexdigit c = true) : trim s = s := by
  have hnone : ∀ l : List Char, (∀ c ∈ l, isAsciiHexdigit c = true) →
      l.dropWhile isWhitespace = l := by
    intro l hl
    apply dropWhile_of_head
    intro c hc
    have hall : ∀ n < 128, isAsciiHexdigit (Char.ofNat n) = true →
        isWhitespace (Char.ofNat n) = false := by decide
    have hdigit := hl c (List.mem_of_mem_head? hc)
    have hc := hall c.toNat (toNat_of_isAsciiHexdigit hdigit)
    rw [Char.ofNat_toNat] at hc
    exact hc hdigit
  unfold trim
  rw [hnone _ h, hnone _ (fun c hc => h c (List.mem_reverse.mp hc)), List.reverse_reverse,
    String.ofList_toList]

end Text

/-! ### Checks -/

namespace Check

variable {ε ε' α : Type}

def refuseIf (cond : Bool) (e : ε) : Except ε Unit := if cond then .error e else .ok ()

/-- Check every element in order; the first refusal is the outcome. -/
def each (f : α → Except ε Unit) : List α → Except ε Unit
  | [] => .ok ()
  | a :: as => f a >>= fun _ => each f as

/-- Check every element in order together with the elements before it. -/
def eachSeen (f : List α → α → Except ε Unit) (seen : List α) : List α → Except ε Unit
  | [] => .ok ()
  | a :: as => f seen a >>= fun _ => eachSeen f (seen ++ [a]) as

def onSome (f : α → Except ε Unit) : Option α → Except ε Unit
  | none => .ok ()
  | some a => f a

/-- What a computation yields on each element in order, up to the first failure; an element
    may yield nothing. -/
def collect {β : Type} (f : α → Except ε (Option β)) : List α → Except ε (List β)
  | [] => .ok []
  | a :: as => do
    let b ← f a
    let bs ← collect f as
    .ok (b.toList ++ bs)

def mapError (g : ε → ε') (c : Except ε Unit) : Except ε' Unit := Except.mapError g c

variable {u : Unit} {c : Except ε Unit} {a : α} {β κ : Type} {x : Except ε α} {b : β} {as : List α}
  {f : α → Except ε (Option β)} {bs : List β} {g : ε → ε'}

@[simp] theorem refuseIf_ok {cond : Bool} {e : ε} : refuseIf cond e = .ok u ↔ cond = false := by
  cases cond <;> simp [refuseIf]

@[simp] theorem bind_ok {k : Unit → Except ε α} :
    (c >>= k) = .ok a ↔ c = .ok () ∧ k () = .ok a := by
  cases c with
  | error e => simp [bind, Except.bind]
  | ok u => simp [bind, Except.bind]

theorem bind_eq_ok {k : α → Except ε β} : (x >>= k) = .ok b ↔ ∃ a, x = .ok a ∧ k a = .ok b := by
  cases x with
  | error e => simp [bind, Except.bind]
  | ok a => simp [bind, Except.bind]

theorem any_toOption {p : α → Bool} : x.toOption.any p = true ↔ ∃ a, x = .ok a ∧ p a = true := by
  cases x <;> simp [Except.toOption]

@[simp] theorem each_ok {f : α → Except ε Unit} : each f as = .ok u ↔ ∀ a ∈ as, f a = .ok () := by
  induction as with
  | nil => simp [each]
  | cons a as ih => simp [each, ih]

/-- Where an element is checked against those before it one by one, the elements pass each on its
    own and apart from one another. -/
theorem eachSeen_ok {f : List α → α → Except ε Unit} (alone : α → Prop) (apart : α → α → Prop)
    (hf : ∀ seen a, f seen a = .ok () ↔ alone a ∧ ∀ b ∈ seen, apart b a) {seen : List α} :
    eachSeen f seen as = .ok () ↔
      (∀ a ∈ as, alone a) ∧ as.Pairwise apart ∧ ∀ b ∈ seen, ∀ a ∈ as, apart b a := by
  induction as generalizing seen with
  | nil => simp [eachSeen]
  | cons a as ih =>
    rw [eachSeen, bind_ok, hf, ih]
    simp only [List.forall_mem_cons, List.pairwise_cons, List.forall_mem_append, List.mem_singleton,
      forall_eq]
    constructor
    · rintro ⟨⟨ha, hseen⟩, has, hapart, hbefore, hafter⟩
      exact ⟨⟨ha, has⟩, ⟨hafter, hapart⟩, fun b hb => ⟨hseen b hb, hbefore b hb⟩⟩
    · rintro ⟨⟨ha, has⟩, ⟨hafter, hapart⟩, hbefore⟩
      exact ⟨⟨ha, fun b hb => (hbefore b hb).1⟩, has, hapart, fun b hb => (hbefore b hb).2, hafter⟩

theorem collect_cons_ok :
    collect f (a :: as) = .ok bs ↔
      ∃ b rest, f a = .ok b ∧ collect f as = .ok rest ∧ bs = b.toList ++ rest := by
  simp only [collect, bind_eq_ok, Except.ok.injEq]
  constructor
  · rintro ⟨b, hb, rest, hrest, rfl⟩
    exact ⟨b, rest, hb, hrest, rfl⟩
  · rintro ⟨b, rest, hb, hrest, rfl⟩
    exact ⟨b, hb, rest, hrest, rfl⟩

theorem collect_append_ok {as' : List α} :
    collect f (as ++ as') = .ok bs ↔
      ∃ l l', collect f as = .ok l ∧ collect f as' = .ok l' ∧ bs = l ++ l' := by
  induction as generalizing bs with
  | nil => simp [collect]
  | cons a as ih =>
    simp only [List.cons_append, collect_cons_ok, ih]
    constructor
    · rintro ⟨b, rest, hb, ⟨l, l', hl, hl', rfl⟩, rfl⟩
      exact ⟨b.toList ++ l, l', ⟨b, l, hb, hl, rfl⟩, hl', (List.append_assoc ..).symm⟩
    · rintro ⟨l, l', ⟨b, rest, hb, hrest, rfl⟩, hl', rfl⟩
      exact ⟨b, rest ++ l', hb, ⟨rest, l', hrest, hl', rfl⟩, List.append_assoc ..⟩

theorem mem_collect (h : collect f as = .ok bs) : b ∈ bs ↔ ∃ a ∈ as, f a = .ok (some b) := by
  induction as generalizing bs with
  | nil =>
    cases h
    simp
  | cons a as ih =>
    obtain ⟨o, rest, ha, hrest, rfl⟩ := collect_cons_ok.mp h
    simp [ih hrest, ha, Option.mem_toList]

theorem lookup_reverse_collect [DecidableEq κ] {f : α → Except ε (Option (κ × β))}
    {bs : List (κ × β)} (h : collect f as = .ok bs) {k : κ} :
    bs.reverse.lookup k = some b ↔
      ∃ front a rest, as = front ++ a :: rest ∧ f a = .ok (some (k, b)) ∧
        ∀ a' ∈ rest, ∀ b', f a' ≠ .ok (some (k, b')) := by
  induction as generalizing bs with
  | nil =>
    cases h
    simp
  | cons a as ih =>
    obtain ⟨o, rest, ha, hrest, rfl⟩ := collect_cons_ok.mp h
    have hnone : rest.reverse.lookup k = none ↔ ∀ a' ∈ as, ∀ b', f a' ≠ .ok (some (k, b')) := by
      rw [List.lookup_eq_none_iff]
      constructor
      · intro hkeys a' ha' b' hb'
        have hmem := List.mem_reverse.mpr ((mem_collect hrest).mpr ⟨a', ha', hb'⟩)
        simpa using hkeys _ hmem
      · rintro hkeys ⟨k', b'⟩ hmem
        obtain ⟨a', ha', hb'⟩ := (mem_collect hrest).mp (List.mem_reverse.mp hmem)
        refine bne_iff_ne.mpr ?_
        rintro rfl
        exact hkeys a' ha' b' hb'
    rw [List.reverse_append, List.lookup_append]
    constructor
    · intro hfound
      rcases Option.or_eq_some_iff.mp hfound with hlater | ⟨hlater, hhere⟩
      · obtain ⟨front, a', rest', rfl, ha', hlast⟩ := (ih hrest).mp hlater
        exact ⟨a :: front, a', rest', rfl, ha', hlast⟩
      · cases o with
        | none => simp at hhere
        | some p =>
          have hp : p = (k, b) := by
            obtain ⟨k', b'⟩ := p
            by_cases hk : k = k'
            · simpa [List.lookup_cons, hk, eq_comm] using hhere
            · have hne : (k == k') = false := by simpa using hk
              simp [List.lookup_cons, hne] at hhere
          exact ⟨[], a, as, rfl, hp ▸ ha, hnone.mp hlater⟩
    · rintro ⟨front, a', rest', heq, ha', hlast⟩
      cases front with
      | nil =>
        cases heq
        cases ha.symm.trans ha'
        rw [hnone.mpr hlast]
        simp
      | cons a'' front =>
        cases heq
        rw [(ih hrest).mpr ⟨front, a', rest', rfl, ha', hlast⟩]
        rfl

theorem ok_of_collect (h : collect f as = .ok bs) (ha : a ∈ as) : ∃ o, f a = .ok o := by
  induction as generalizing bs with
  | nil => cases ha
  | cons a' as ih =>
    obtain ⟨o, rest, ho, hrest, -⟩ := collect_cons_ok.mp h
    rcases List.mem_cons.mp ha with rfl | ha
    · exact ⟨o, ho⟩
    · exact ih hrest ha

theorem collect_congr {g : α → Except ε (Option β)} (h : ∀ a ∈ as, f a = g a) :
    collect f as = collect g as := by
  induction as with
  | nil => rfl
  | cons a as ih =>
    rw [List.forall_mem_cons] at h
    simp only [collect, h.1, ih h.2]

theorem collect_map {γ : Type} {g : α → Except ε (Option γ)} {change : β → γ}
    (h : collect f as = .ok bs) (hg : ∀ a ∈ as, g a = (f a).map (Option.map change)) :
    collect g as = .ok (bs.map change) := by
  induction as generalizing bs with
  | nil =>
    cases h
    rfl
  | cons a as ih =>
    obtain ⟨o, rest, ha, hrest, rfl⟩ := collect_cons_ok.mp h
    rw [List.forall_mem_cons] at hg
    refine collect_cons_ok.mpr ⟨o.map change, rest.map change, ?_, ih hrest hg.2, ?_⟩
    · rw [hg.1, ha]
      rfl
    · cases o <;> rfl

theorem collect_filter {g : α → Except ε (Option β)} (keep : α → Bool) {p : β → Bool}
    (h : collect f as = .ok bs) (hg : ∀ a ∈ as, g a = if keep a then f a else .ok none)
    (hp : ∀ a ∈ as, ∀ b, f a = .ok (some b) → p b = keep a) : collect g as = .ok (bs.filter p) := by
  induction as generalizing bs with
  | nil =>
    cases h
    rfl
  | cons a as ih =>
    obtain ⟨o, rest, ha, hrest, rfl⟩ := collect_cons_ok.mp h
    rw [List.forall_mem_cons] at hg hp
    refine collect_cons_ok.mpr ⟨o.filter p, rest.filter p, ?_, ih hrest hg.2 hp.2, ?_⟩
    · rw [hg.1, ha]
      cases o with
      | none => simp
      | some b =>
        rw [Option.filter_some, ← hp.1 b ha]
        split <;> rfl
    · cases o with
      | none => rfl
      | some b => by_cases hb : p b = true <;> simp [Option.filter_some, hb]

theorem collect_sublist (h : collect f as = .ok bs) {key : β → κ} {key' : α → κ}
    (hkey : ∀ a b, f a = .ok (some b) → key b = key' a) : (bs.map key).Sublist (as.map key') := by
  induction as generalizing bs with
  | nil =>
    cases h
    exact List.Sublist.refl _
  | cons a as ih =>
    obtain ⟨o, rest, ha, hrest, rfl⟩ := collect_cons_ok.mp h
    cases o with
    | none => exact (ih hrest).cons _
    | some b =>
      rw [Option.toList_some, List.singleton_append, List.map_cons, List.map_cons, hkey a b ha]
      exact (ih hrest).cons_cons _

@[simp] theorem mapError_ok : mapError g c = .ok u ↔ c = .ok () := by
  cases c <;> simp [mapError, Except.mapError]

theorem mapError_eq_ok {r : Except ε α} : r.mapError g = .ok a ↔ r = .ok a := by
  cases r <;> simp [Except.mapError]

@[simp] theorem onSome_ok {f : α → Except ε Unit} {o : Option α} :
    onSome f o = .ok u ↔ ∀ a ∈ o, f a = .ok () := by
  cases o <;> simp [onSome]

end Check
