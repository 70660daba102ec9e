import Mathlib.Data.List.Basic
import Mathlib.Tactic.IntervalCases

/-!
# Internet addresses and CIDR blocks, with their texts

An address is a fixed-width word; a CIDR block is an address and a prefix length.  The
texts follow the usual library forms: dotted decimal for IPv4, and for IPv6 the
shortest form with the first longest run of zero groups written `::`.

* `IpAddr.parse_text` — every address reads back from its own text.
* `Cidr.parse_host` — the text `<address>/<full width>` denotes exactly that address.
-/

inductive IpAddr where
  | v4 (bits : BitVec 32)
  | v6 (bits : BitVec 128)
deriving DecidableEq, Repr, Inhabited

namespace IpAddr

def width : IpAddr → Nat
  | .v4 _ => 32
  | .v6 _ => 128

def toNat : IpAddr → Nat
  | .v4 a => a.toNat
  | .v6 a => a.toNat

def isV6 : IpAddr → Bool
  | .v4 _ => false
  | .v6 _ => true

/-! ### Numerals -/

def hexVal (c : Char) : Option Nat :=
  if '0' ≤ c ∧ c ≤ '9' then some (c.toNat - 48)
  else if 'a' ≤ c ∧ c ≤ 'f' then some (c.toNat - 87)
  else if 'A' ≤ c ∧ c ≤ 'F' then some (c.toNat - 55)
  else none

def decVal (c : Char) : Option Nat :=
  if '0' ≤ c ∧ c ≤ '9' then some (c.toNat - 48) else none

def numeral (base : Nat) (digits : List Nat) : Nat :=
  digits.foldl (fun acc d => acc * base + d) 0

/-- A decimal number without superfluous leading zero, at most `bound`. -/
def parseDec (bound : Nat) (l : List Char) : Option Nat :=
  if l = [] then none
  else if l.length ≠ 1 ∧ l.head? = some '0' then none
  else
    match l.mapM decVal with
    | none => none
    | some ds => if numeral 10 ds ≤ bound then some (numeral 10 ds) else none

def parseHex (l : List Char) : Option Nat :=
  if l = [] ∨ 4 < l.length then none
  else (l.mapM hexVal).map (numeral 16)

def digit (d : Nat) : Char :=
  if d < 10 then Char.ofNat (48 + d) else Char.ofNat (87 + d)

def decText (n : Nat) : List Char :=
  if n < 10 then [digit n]
  else if n < 100 then [digit (n / 10), digit (n % 10)]
  else [digit (n / 100), digit (n / 10 % 10), digit (n % 10)]

def hexText (n : Nat) : List Char :=
  if n < 16 then [digit n]
  else if n < 256 then [digit (n / 16), digit (n % 16)]
  else if n < 4096 then [digit (n / 256), digit (n / 16 % 16), digit (n % 16)]
  else [digit (n / 4096), digit (n / 256 % 16), digit (n / 16 % 16), digit (n % 16)]

variable {n d : Nat} {c : Char} {gs : List Nat}

theorem parseDec_decText (h : n < 256) : parseDec 255 (decText n) = some n := by
  have hall : ∀ n < 256, parseDec 255 (decText n) = some n := by decide +kernel
  exact hall n h

theorem hexVal_digit (h : d < 16) : hexVal (digit d) = some d := by
  interval_cases d <;> decide

theorem digit_ne (h : d < 16) : digit d ≠ '.' ∧ digit d ≠ ':' ∧ digit d ≠ '/' := by
  interval_cases d <;> decide

theorem parseHex_hexText (h : n < 65536) : parseHex (hexText n) = some n := by
  unfold hexText
  split_ifs with h1 h2 h3
  · simp [parseHex, hexVal_digit h1, numeral]
  · simp only [parseHex, List.mapM_cons, List.mapM_nil,
      hexVal_digit (show n / 16 < 16 by omega), hexVal_digit (show n % 16 < 16 by omega)]
    simp [numeral]
    omega
  · simp only [parseHex, List.mapM_cons, List.mapM_nil,
      hexVal_digit (show n / 256 < 16 by omega), hexVal_digit (show n / 16 % 16 < 16 by omega),
      hexVal_digit (show n % 16 < 16 by omega)]
    simp [numeral]
    omega
  · simp only [parseHex, List.mapM_cons, List.mapM_nil,
      hexVal_digit (show n / 4096 < 16 by omega), hexVal_digit (show n / 256 % 16 < 16 by omega),
      hexVal_digit (show n / 16 % 16 < 16 by omega), hexVal_digit (show n % 16 < 16 by omega)]
    simp [numeral]
    omega

/-! ### Reading -/

def parse4 (l : List Char) : Option (BitVec 32) :=
  match l.splitOn '.' with
  | [a, b, c, d] =>
    match parseDec 255 a, parseDec 255 b, parseDec 255 c, parseDec 255 d with
    | some a, some b, some c, some d => some (BitVec.ofNat 32 (numeral 256 [a, b, c, d]))
    | _, _, _, _ => none
  | _ => none

def splitGap : List Char → Option (List Char × List Char)
  | [] => none
  | c :: rest =>
    if c = ':' ∧ rest.head? = some ':' then some ([], rest.tail)
    else (splitGap rest).map fun p => (c :: p.1, p.2)

/-- The groups of a text without `::`; dotted decimal may stand for the last two. -/
def parseGroups (l : List Char) : Option (List Nat) :=
  if l = [] then some []
  else
    let parts := l.splitOn ':'
    match parse4 (parts.getLastD []) with
    | some a => (parts.dropLast.mapM parseHex).map (· ++ [a.toNat / 65536, a.toNat % 65536])
    | none => parts.mapM parseHex

/-- The groups before a `::`, where dotted decimal is not allowed. -/
def parseHead (l : List Char) : Option (List Nat) :=
  if l = [] then some [] else (l.splitOn ':').mapM parseHex

def ofGroups (gs : List Nat) : BitVec 128 := BitVec.ofNat 128 (numeral 65536 gs)

/-- The IPv6 text forms: eight groups, or fewer with one `::`. -/
def parse6 (l : List Char) : Option (BitVec 128) :=
  match splitGap l with
  | none =>
    match parseGroups l with
    | some gs => if gs.length = 8 then some (ofGroups gs) else none
    | none => none
  | some (h, t) =>
    match parseHead h, parseGroups t with
    | some hs, some ts =>
      if hs.length + ts.length ≤ 7 then
        some (ofGroups (hs ++ List.replicate (8 - (hs.length + ts.length)) 0 ++ ts))
      else none
    | _, _ => none

def parseChars (l : List Char) : Option IpAddr :=
  match parse4 l with
  | some a => some (.v4 a)
  | none => (parse6 l).map .v6

def parse (s : String) : Option IpAddr := parseChars s.toList

/-! ### Writing -/

def octets (a : BitVec 32) : List Nat :=
  [a.toNat / 16777216, a.toNat / 65536 % 256, a.toNat / 256 % 256, a.toNat % 256]

def groupsOf (a : BitVec 128) : List Nat :=
  [a.toNat / 2 ^ 112, a.toNat / 2 ^ 96 % 65536, a.toNat / 2 ^ 80 % 65536,
    a.toNat / 2 ^ 64 % 65536, a.toNat / 2 ^ 48 % 65536, a.toNat / 2 ^ 32 % 65536,
    a.toNat / 65536 % 65536, a.toNat % 65536]

def text4 (a : BitVec 32) : List Char := [ '.' ].intercalate ((octets a).map decText)

def groupText (gs : List Nat) : List Char := [ ':' ].intercalate (gs.map hexText)

/-- The first longest run of `true`, as start and length. -/
def longestRun (zs : List Bool) : Nat × Nat :=
  (zs.zipIdx.foldl
    (fun (st : (Nat × Nat) × (Nat × Nat)) z =>
      if z.1 then
        let cur := if st.2.2 = 0 then (z.2, 1) else (st.2.1, st.2.2 + 1)
        (if st.1.2 < cur.2 then cur else st.1, cur)
      else (st.1, (0, 0)))
    ((0, 0), (0, 0))).1

/-- Whether the address is an IPv4 address mapped into IPv6 (`::ffff:a.b.c.d`). -/
def isMapped (gs : List Nat) : Bool := gs.take 6 = [0, 0, 0, 0, 0, 65535]

def text6 (a : BitVec 128) : List Char :=
  let gs := groupsOf a
  if isMapped gs then
    "::ffff:".toList ++ text4 (BitVec.ofNat 32 a.toNat)
  else
    let run := longestRun (gs.map (· == 0))
    if 1 < run.2 then
      groupText (gs.take run.1) ++ "::".toList ++ groupText (gs.drop (run.1 + run.2))
    else groupText gs

def textChars : IpAddr → List Char
  | .v4 a => text4 a
  | .v6 a => text6 a

def text (a : IpAddr) : String := String.ofList a.textChars

/-! ### Reading back what was written -/

theorem decText_spec (h : n < 256) :
    decText n ≠ [] ∧ '.' ∉ decText n ∧ ':' ∉ decText n ∧ '/' ∉ decText n := by
  have hall : ∀ n < 256, decText n ≠ [] ∧ '.' ∉ decText n ∧ ':' ∉ decText n ∧
      '/' ∉ decText n := by decide +kernel
  exact hall n h

theorem mem_hexText (h : n < 65536) (hc : c ∈ hexText n) : ∃ d < 16, c = digit d := by
  unfold hexText at hc
  split_ifs at hc with h1 h2 h3 <;>
    simp only [List.mem_cons, List.not_mem_nil, or_false] at hc
  · exact ⟨n, h1, hc⟩
  · rcases hc with hc | hc
    · exact ⟨n / 16, by omega, hc⟩
    · exact ⟨n % 16, by omega, hc⟩
  · rcases hc with hc | hc | hc
    · exact ⟨n / 256, by omega, hc⟩
    · exact ⟨n / 16 % 16, by omega, hc⟩
    · exact ⟨n % 16, by omega, hc⟩
  · rcases hc with hc | hc | hc | hc
    · exact ⟨n / 4096, by omega, hc⟩
    · exact ⟨n / 256 % 16, by omega, hc⟩
    · exact ⟨n / 16 % 16, by omega, hc⟩
    · exact ⟨n % 16, by omega, hc⟩

theorem hexText_ne_nil (n : Nat) : hexText n ≠ [] := by
  unfold hexText
  split_ifs <;> simp

theorem not_mem_hexText (h : n < 65536) : '.' ∉ hexText n ∧ ':' ∉ hexText n ∧ '/' ∉ hexText n := by
  refine ⟨fun hc => ?_, fun hc => ?_, fun hc => ?_⟩ <;>
    obtain ⟨d, hd, he⟩ := mem_hexText h hc
  · exact (digit_ne hd).1 he.symm
  · exact (digit_ne hd).2.1 he.symm
  · exact (digit_ne hd).2.2 he.symm

theorem splitOn_of_not_mem {l : List Char} (h : c ∉ l) : l.splitOn c = [l] := by
  have hs := @List.splitOn_intercalate _ [l] _ _ c (by simpa using h) (by simp)
  simpa using hs

theorem octets_lt (a : BitVec 32) : ∀ n ∈ octets a, n < 256 := by
  have := a.isLt
  simp only [octets, List.mem_cons, List.not_mem_nil, or_false]
  rintro n (rfl | rfl | rfl | rfl) <;> omega

theorem parse4_text4 (a : BitVec 32) : parse4 (text4 a) = some a := by
  have hlt := octets_lt a
  have hsplit : (text4 a).splitOn '.' = (octets a).map decText := by
    refine List.splitOn_intercalate '.' ?_ (by simp [octets])
    intro l hl
    obtain ⟨n, hn, rfl⟩ := List.mem_map.mp hl
    exact (decText_spec (hlt n hn)).2.1
  simp only [octets, List.mem_cons, List.not_mem_nil, or_false, forall_eq_or_imp,
    forall_eq] at hlt
  obtain ⟨h1, h2, h3, h4⟩ := hlt
  unfold parse4
  rw [hsplit]
  simp only [octets, List.map_cons, List.map_nil, parseDec_decText h1, parseDec_decText h2,
    parseDec_decText h3, parseDec_decText h4, Option.some.injEq]
  apply BitVec.eq_of_toNat_eq
  have := a.isLt
  simp only [numeral, List.foldl_cons, List.foldl_nil, BitVec.toNat_ofNat]
  omega

theorem colon_not_mem_text4 (a : BitVec 32) : ':' ∉ text4 a ∧ '/' ∉ text4 a := by
  have hlt := octets_lt a
  simp only [octets, List.mem_cons, List.not_mem_nil, or_false, forall_eq_or_imp,
    forall_eq] at hlt
  obtain ⟨h1, h2, h3, h4⟩ := hlt
  simp [text4, octets, List.intercalate, List.intersperse, decText_spec h1, decText_spec h2,
    decText_spec h3, decText_spec h4]

theorem splitGap_append {w : List Char} (h : ':' ∉ w) (l : List Char) :
    splitGap (w ++ l) = (splitGap l).map fun p => (w ++ p.1, p.2) := by
  induction w with
  | nil => cases hs : splitGap l <;> simp [hs]
  | cons c w ih =>
    rw [List.mem_cons, not_or] at h
    have hc : ¬ c = ':' := fun e => h.1 e.symm
    simp only [List.cons_append, splitGap, hc, false_and, if_false, ih h.2, Option.map_map]
    rfl

theorem groupText_cons_cons (n m : Nat) (gs : List Nat) :
    groupText (n :: m :: gs) = hexText n ++ ':' :: groupText (m :: gs) := by
  simp [groupText, List.intercalate]

theorem groupText_head (hn : n < 65536) (gs : List Nat) (l : List Char) :
    (groupText (n :: gs) ++ l).head? ≠ some ':' := by
  obtain ⟨c, cs, hc⟩ := List.exists_cons_of_ne_nil (hexText_ne_nil n)
  have hne : c ≠ ':' := by
    rintro rfl
    exact (not_mem_hexText hn).2.1 (by simp [hc])
  cases gs with
  | nil => simp [groupText, hc, hne]
  | cons m gs => simp [groupText_cons_cons, hc, hne]

/-- Groups written with single colons contain no `::`, and none arises where they end. -/
theorem splitGap_groupText (h : ∀ n ∈ gs, n < 65536) (l : List Char) :
    splitGap (groupText gs ++ l) = (splitGap l).map fun p => (groupText gs ++ p.1, p.2) := by
  induction gs with
  | nil => cases hs : splitGap l <;> simp [groupText, List.intercalate, hs]
  | cons n gs ih =>
    have hn := h n (by simp)
    have hcolon := (not_mem_hexText hn).2.1
    cases gs with
    | nil =>
      have htext : groupText [n] = hexText n := by simp [groupText]
      rw [htext]
      exact splitGap_append hcolon l
    | cons m gs =>
      have ih' := ih fun k hk => h k (List.mem_cons_of_mem n hk)
      have hhead := groupText_head (h m (by simp)) gs l
      have hstep : splitGap (':' :: (groupText (m :: gs) ++ l)) =
          (splitGap (groupText (m :: gs) ++ l)).map fun p => (':' :: p.1, p.2) := by
        simp only [splitGap, hhead, and_false, if_false]
      rw [groupText_cons_cons, List.append_assoc, splitGap_append hcolon, List.cons_append,
        hstep, ih', Option.map_map, Option.map_map]
      simp [Function.comp_def]

theorem groupText_eq_nil : groupText gs = [] ↔ gs = [] := by
  cases gs with
  | nil => simp [groupText, List.intercalate]
  | cons n gs =>
    cases gs with
    | nil => simp [groupText, hexText_ne_nil]
    | cons m gs => simp [groupText_cons_cons]

theorem mapM_parseHex (h : ∀ n ∈ gs, n < 65536) : (gs.map hexText).mapM parseHex = some gs := by
  induction gs with
  | nil => rfl
  | cons n gs ih =>
    simp only [List.map_cons, List.mapM_cons, parseHex_hexText (h n (by simp)),
      ih fun k hk => h k (List.mem_cons_of_mem n hk)]
    rfl

theorem splitOn_groupText (h : ∀ n ∈ gs, n < 65536) (hne : gs ≠ []) :
    (groupText gs).splitOn ':' = gs.map hexText := by
  refine List.splitOn_intercalate ':' ?_ (by simpa using hne)
  intro l hl
  obtain ⟨n, hn, rfl⟩ := List.mem_map.mp hl
  exact (not_mem_hexText (h n hn)).2.1

theorem parseHead_groupText (h : ∀ n ∈ gs, n < 65536) : parseHead (groupText gs) = some gs := by
  unfold parseHead
  by_cases hne : gs = []
  · simp [hne, groupText, List.intercalate]
  · rw [if_neg (mt groupText_eq_nil.mp hne), splitOn_groupText h hne, mapM_parseHex h]

theorem parse4_hexText (h : n < 65536) : parse4 (hexText n) = none := by
  simp [parse4, splitOn_of_not_mem (not_mem_hexText h).1]

theorem parseGroups_groupText (h : ∀ n ∈ gs, n < 65536) : parseGroups (groupText gs) = some gs := by
  unfold parseGroups
  by_cases hne : gs = []
  · simp [hne, groupText, List.intercalate]
  · rw [if_neg (mt groupText_eq_nil.mp hne), splitOn_groupText h hne]
    obtain ⟨gs', n, rfl⟩ := List.eq_nil_or_concat gs |>.resolve_left hne
    have hlast : parse4 (((gs'.concat n).map hexText).getLastD []) = none := by
      simp [parse4_hexText (h n (by simp))]
    simp only [hlast, mapM_parseHex h]

theorem groupsOf_lt (a : BitVec 128) : ∀ n ∈ groupsOf a, n < 65536 := by
  have := a.isLt
  simp only [groupsOf, List.mem_cons, List.not_mem_nil, or_false]
  rintro n (rfl | rfl | rfl | rfl | rfl | rfl | rfl | rfl) <;> omega

theorem ofGroups_groupsOf (a : BitVec 128) : ofGroups (groupsOf a) = a := by
  apply BitVec.eq_of_toNat_eq
  have := a.isLt
  simp only [ofGroups, groupsOf, numeral, List.foldl_cons, List.foldl_nil, BitVec.toNat_ofNat]
  omega

/-- The run found lies inside the eight flags and every flag in it is set. -/
theorem longestRun_spec (b0 b1 b2 b3 b4 b5 b6 b7 : Bool) :
    let zs := [b0, b1, b2, b3, b4, b5, b6, b7]
    (longestRun zs).1 + (longestRun zs).2 ≤ 8 ∧
      ((zs.drop (longestRun zs).1).take (longestRun zs).2).all id = true := by
  revert b0 b1 b2 b3 b4 b5 b6 b7
  decide +kernel

/-- Eight groups are their parts around the run of zeros that the text leaves out. -/
theorem groupsOf_run (a : BitVec 128) :
    let run := longestRun ((groupsOf a).map (· == 0))
    run.1 + run.2 ≤ 8 ∧
      groupsOf a = (groupsOf a).take run.1 ++ List.replicate run.2 0 ++
        (groupsOf a).drop (run.1 + run.2) := by
  have hspec : let run := longestRun ((groupsOf a).map (· == 0))
      run.1 + run.2 ≤ 8 ∧
        ((((groupsOf a).map (· == 0)).drop run.1).take run.2).all id = true :=
    longestRun_spec _ _ _ _ _ _ _ _
  generalize longestRun ((groupsOf a).map (· == 0)) = run at hspec ⊢
  obtain ⟨hle, hall⟩ := hspec
  refine ⟨hle, ?_⟩
  have hlen : (groupsOf a).length = 8 := rfl
  have hzero : ((groupsOf a).drop run.1).take run.2 = List.replicate run.2 0 := by
    rw [List.eq_replicate_iff]
    refine ⟨by simp; omega, fun n hn => ?_⟩
    rw [← List.map_drop, ← List.map_take, List.all_map, List.all_eq_true] at hall
    simpa using hall n hn
  rw [← hzero, List.append_assoc, ← List.drop_drop, List.take_append_drop,
    List.take_append_drop]

theorem parse6_gap (pre : List Nat) {post : List Nat} (hpre : ∀ n ∈ pre, n < 65536)
    {t : List Char} (ht : parseGroups t = some post) (hlen : pre.length + post.length ≤ 7) :
    parse6 (groupText pre ++ ("::".toList ++ t)) =
      some (ofGroups (pre ++ List.replicate (8 - (pre.length + post.length)) 0 ++ post)) := by
  have hgap : splitGap ("::".toList ++ t) = some ([], t) := by
    simp [splitGap]
  unfold parse6
  rw [splitGap_groupText hpre, hgap]
  simp only [Option.map_some, List.append_nil, parseHead_groupText hpre, ht, hlen, if_true]

theorem parse6_mapped (a : BitVec 128) (h : isMapped (groupsOf a) = true) :
    parse6 ("::ffff:".toList ++ text4 (BitVec.ofNat 32 a.toNat)) = some a := by
  have hsplit : ("ffff:".toList ++ text4 (BitVec.ofNat 32 a.toNat)).splitOn ':' =
      ["ffff".toList, text4 (BitVec.ofNat 32 a.toNat)] := by
    have := @List.splitOn_intercalate _
      ["ffff".toList, text4 (BitVec.ofNat 32 a.toNat)] _ _ ':'
      (by simp [colon_not_mem_text4]) (by simp)
    simpa [List.intercalate] using this
  have hgroups : parseGroups ("ffff:".toList ++ text4 (BitVec.ofNat 32 a.toNat)) =
      some [65535, a.toNat / 65536 % 65536, a.toNat % 65536] := by
    unfold parseGroups
    rw [if_neg (by simp), hsplit]
    have hffff : [ "ffff".toList ].mapM parseHex = some [65535] := by decide
    simp only [List.getLastD_cons, List.getLastD_nil, parse4_text4, List.dropLast_cons_cons,
      List.dropLast_singleton, hffff, Option.map_some, BitVec.toNat_ofNat, List.cons_append,
      List.nil_append, Option.some.injEq, List.cons.injEq, and_true, true_and]
    omega
  have hgap := parse6_gap [] (by simp) hgroups (by simp)
  have hnil : groupText [] = [] := rfl
  rw [hnil, List.nil_append] at hgap
  have htext : "::ffff:".toList ++ text4 (BitVec.ofNat 32 a.toNat) =
      "::".toList ++ ("ffff:".toList ++ text4 (BitVec.ofNat 32 a.toNat)) := by simp
  rw [htext, hgap, Option.some.injEq]
  simp only [isMapped, groupsOf, List.take_succ_cons, List.take_zero, List.cons.injEq,
    and_true, decide_eq_true_eq] at h
  apply BitVec.eq_of_toNat_eq
  have := a.isLt
  simp [ofGroups, numeral, List.replicate, BitVec.toNat_ofNat]
  omega

theorem parse6_text6 (a : BitVec 128) : parse6 (text6 a) = some a := by
  have hlt := groupsOf_lt a
  obtain ⟨hle, hrun⟩ := groupsOf_run a
  unfold text6
  simp only
  generalize longestRun ((groupsOf a).map (· == 0)) = run at hle hrun ⊢
  have hlen : (groupsOf a).length = 8 := rfl
  split_ifs with hm hz
  · exact parse6_mapped a hm
  · have hpost : ∀ n ∈ (groupsOf a).drop (run.1 + run.2), n < 65536 :=
      fun n hn => hlt n (List.mem_of_mem_drop hn)
    have hpre : ∀ n ∈ (groupsOf a).take run.1, n < 65536 :=
      fun n hn => hlt n (List.mem_of_mem_take hn)
    have hgap := parse6_gap _ hpre (parseGroups_groupText hpost) (by simp; omega)
    have hcount : 8 - (((groupsOf a).take run.1).length +
        ((groupsOf a).drop (run.1 + run.2)).length) = run.2 := by
      simp only [List.length_take, List.length_drop, hlen]
      omega
    rw [List.append_assoc, hgap, hcount, ← hrun, ofGroups_groupsOf]
  · have hnone : splitGap (groupText (groupsOf a)) = none := by
      have := splitGap_groupText hlt []
      simpa [splitGap] using this
    unfold parse6
    rw [hnone]
    simp only [parseGroups_groupText hlt, hlen, if_true, ofGroups_groupsOf]

theorem mem_groupText (gs : List Nat) (h : ∀ n ∈ gs, n < 65536) :
    '.' ∉ groupText gs ∧ '/' ∉ groupText gs := by
  induction gs with
  | nil => simp [groupText, List.intercalate]
  | cons n gs ih =>
    obtain ⟨hdot, -, hslash⟩ := not_mem_hexText (h n (by simp))
    cases gs with
    | nil => simpa [groupText] using ⟨hdot, hslash⟩
    | cons m gs =>
      obtain ⟨ih1, ih2⟩ := ih fun k hk => h k (List.mem_cons_of_mem n hk)
      simp [groupText_cons_cons, hdot, hslash, ih1, ih2]

theorem slash_not_mem_text6 (a : BitVec 128) : '/' ∉ text6 a := by
  have hlt := groupsOf_lt a
  unfold text6
  simp only
  split_ifs
  · simp [colon_not_mem_text4]
  · have hpre := fun k => (mem_groupText ((groupsOf a).take k)
      fun n hn => hlt n (List.mem_of_mem_take hn)).2
    have hpost := fun k => (mem_groupText ((groupsOf a).drop k)
      fun n hn => hlt n (List.mem_of_mem_drop hn)).2
    simp [hpre, hpost]
  · exact (mem_groupText _ hlt).2

theorem parse4_mapped (b : BitVec 32) : parse4 ("::ffff:".toList ++ text4 b) = none := by
  have hlt := octets_lt b
  simp only [octets, List.mem_cons, List.not_mem_nil, or_false, forall_eq_or_imp,
    forall_eq] at hlt
  obtain ⟨h1, h2, h3, h4⟩ := hlt
  have hsplit := @List.splitOn_intercalate _
    ["::ffff:".toList ++ decText (b.toNat / 16777216), decText (b.toNat / 65536 % 256),
      decText (b.toNat / 256 % 256), decText (b.toNat % 256)] _ _ '.'
    (by simp [decText_spec h1, decText_spec h2, decText_spec h3, decText_spec h4]) (by simp)
  have htext : "::ffff:".toList ++ text4 b = [ '.' ].intercalate
      ["::ffff:".toList ++ decText (b.toNat / 16777216), decText (b.toNat / 65536 % 256),
        decText (b.toNat / 256 % 256), decText (b.toNat % 256)] := by
    simp [text4, octets, List.intercalate]
  -- the first part starts with a colon, so it is no decimal number
  have hfirst : parseDec 255 ("::ffff:".toList ++ decText (b.toNat / 16777216)) = none := by
    have hcolon : decVal ':' = none := by decide
    simp [parseDec, hcolon]
  unfold parse4
  rw [htext, hsplit]
  simp only [hfirst]

theorem parse4_text6 (a : BitVec 128) : parse4 (text6 a) = none := by
  have hlt := groupsOf_lt a
  have hnodot : ∀ l : List Char, '.' ∉ l → parse4 l = none := by
    intro l hl
    simp [parse4, splitOn_of_not_mem hl]
  unfold text6
  simp only
  split_ifs
  · exact parse4_mapped _
  · have hpre := fun k => (mem_groupText ((groupsOf a).take k)
      fun n hn => hlt n (List.mem_of_mem_take hn)).1
    have hpost := fun k => (mem_groupText ((groupsOf a).drop k)
      fun n hn => hlt n (List.mem_of_mem_drop hn)).1
    exact hnodot _ (by simp [hpre, hpost])
  · exact hnodot _ (mem_groupText _ hlt).1

theorem parseChars_textChars (a : IpAddr) : parseChars a.textChars = some a := by
  cases a with
  | v4 a => simp only [parseChars, textChars, parse4_text4]
  | v6 a => simp only [parseChars, textChars, parse4_text6, parse6_text6, Option.map_some]

theorem slash_not_mem_textChars (a : IpAddr) : '/' ∉ a.textChars := by
  cases a with
  | v4 a => exact (colon_not_mem_text4 a).2
  | v6 a => exact slash_not_mem_text6 a

@[simp] theorem parse_text (a : IpAddr) : parse a.text = some a := by
  simp [parse, text, parseChars_textChars]

example : (parse "2001:DB8::1").map text = some "2001:db8::1" := by decide

example : parse "256.1.1.1" = none ∧ parse "01.1.1.1" = none ∧ parse "1::2::3" = none := by
  decide

end IpAddr

/-- A block of addresses: those that agree with `addr` on the first `bits` bits. -/
structure Cidr where
  addr : IpAddr
  bits : Nat
deriving DecidableEq, Repr

namespace Cidr

def parse (s : String) : Option Cidr :=
  match s.toList.splitOn '/' with
  | [a, n] =>
    match IpAddr.parseChars a with
    | none => none
    | some addr => (IpAddr.parseDec addr.width n).map (Cidr.mk addr)
  | _ => none

def contains (c : Cidr) (a : IpAddr) : Bool :=
  c.addr.isV6 == a.isV6 &&
    c.addr.toNat / 2 ^ (a.width - c.bits) == a.toNat / 2 ^ (a.width - c.bits)

def textContains (s : String) (a : IpAddr) : Bool :=
  match parse s with
  | some c => c.contains a
  | none => false

def hostText (a : IpAddr) : String :=
  a.text ++ (if a.isV6 then "/128" else "/32")

theorem parse_host (a : IpAddr) : parse (hostText a) = some ⟨a, a.width⟩ := by
  have hsplit : (hostText a).toList.splitOn '/' =
      [a.textChars, (if a.isV6 then "128" else "32").toList] := by
    have := @List.splitOn_intercalate _
      [a.textChars, (if a.isV6 then "128" else "32").toList] _ _ '/'
      (by cases a <;> simp [IpAddr.slash_not_mem_textChars, IpAddr.isV6]) (by simp)
    rw [← this]
    congr 1
    cases a <;> simp [hostText, IpAddr.text, IpAddr.isV6, List.intercalate]
  unfold parse
  rw [hsplit]
  cases a with
  | v4 a =>
    have hdec : IpAddr.parseDec 32 "32".toList = some 32 := by decide
    simp only [IpAddr.parseChars_textChars, IpAddr.width, IpAddr.isV6, if_false,
      Bool.false_eq_true, hdec, Option.map_some]
  | v6 a =>
    have hdec : IpAddr.parseDec 128 "128".toList = some 128 := by decide
    simp only [IpAddr.parseChars_textChars, IpAddr.width, IpAddr.isV6, if_true, hdec,
      Option.map_some]

theorem contains_full (a b : IpAddr) : contains ⟨a, a.width⟩ b = decide (a = b) := by
  cases a <;> cases b <;>
    simp [contains, IpAddr.isV6, IpAddr.width, IpAddr.toNat, BitVec.toNat_inj, beq_eq_decide]

@[simp] theorem textContains_host (a b : IpAddr) :
    textContains (hostText a) b = decide (a = b) := by
  simp only [textContains, parse_host, contains_full]

end Cidr
