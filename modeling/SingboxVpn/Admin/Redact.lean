import SingboxVpn.Lib.Stretch
import SingboxVpn.Lib.Text

/-!
# Redaction of the log tail

`redact_secrets` of `apps/admin/src/main.rs` hides what looks like a secret in the log lines of a
diagnostic report; `crates/compat-config/src/credentials.rs` generates the secrets.

* `Sensitive` — what the report must not show: UUIDs, and long tokens in the alphabets that the
  generators use (`sensitive_subscriptionToken`, `sensitive_hysteria2Password`).
* `redactSecrets_eq` — the scanner replaces the runs that it takes for a secret and nothing else.
-/

namespace SingboxVpn.Redact

open Stretch

/-! ### The scanner -/

/-- `is_token_byte`; the bytes of a character outside ASCII are no token bytes. -/
def isTokenByte (c : Char) : Bool := c.isAlphanum || c == '-' || c == '_'

def looksLikeUuid (tok : List Char) : Bool :=
  let parts := tok.splitOn '-'
  parts.length == 5 && ([8, 4, 4, 4, 12].zip parts).all fun p =>
    p.2.length == p.1 && p.2.all Text.isAsciiHexdigit

def looksLikeSecretToken (tok : List Char) : Bool :=
  if tok.length < 24 then false
  else if tok.all Text.isAsciiHexdigit then true
  else
    tok.all isTokenByte && tok.any Char.isAlpha &&
      tok.any fun c => c.isDigit || c == '-' || c == '_'

def isSecret (tok : List Char) : Bool := looksLikeUuid tok || looksLikeSecretToken tok

def MARKER : List Char := "<redacted>".toList

/-- The loop over the text.  `plain` is what was passed since the last piece of output, and is put
    out together with the next one. -/
def redactFrom (out plain : List Char) : List Char → List Char
  | [] => out ++ plain
  | c :: rest =>
    if isTokenByte c then
      let tok := (c :: rest).takeWhile isTokenByte
      if isSecret tok then redactFrom (out ++ plain ++ MARKER) [] (rest.dropWhile isTokenByte)
      else redactFrom out (plain ++ tok) (rest.dropWhile isTokenByte)
    else redactFrom out (plain ++ [c]) rest
termination_by s => s.length
decreasing_by
  all_goals
    have := (List.dropWhile_sublist isTokenByte (l := rest)).length_le
    simp only [List.length_cons]
    omega

def redactSecrets (text : String) : String := String.ofList (redactFrom [] [] text.toList)

/-! ### The generators -/

def HEX_DIGITS : List Char := "0123456789abcdef".toList

def hexEncode (bytes : List UInt8) : List Char :=
  bytes.flatMap fun b => [HEX_DIGITS.getD (b.toNat / 16) '0', HEX_DIGITS.getD (b.toNat % 16) '0']

def URL_SAFE : List Char :=
  "ABCDEFGHIJKLMNOPQRSTUVWXYZabcdefghijklmnopqrstuvwxyz0123456789-_".toList

def sextets (n : Nat) : List Char :=
  [n / 64 ^ 3 % 64, n / 64 ^ 2 % 64, n / 64 % 64, n % 64].map (URL_SAFE.getD · 'A')

def urlSafeNoPad : List UInt8 → List Char
  | a :: b :: c :: rest =>
    sextets (a.toNat * 256 ^ 2 + b.toNat * 256 + c.toNat) ++ urlSafeNoPad rest
  | [a, b] => (sextets (a.toNat * 256 ^ 2 + b.toNat * 256)).take 3
  | [a] => (sextets (a.toNat * 256 ^ 2)).take 2
  | [] => []

/-- A password, from the random bytes drawn. -/
def generateHysteria2Password (random : Vector UInt8 24) : List Char := hexEncode random.toList

/-- A subscription token, from the random bytes drawn. -/
def generateSubscriptionToken (random : Vector UInt8 20) : List Char := urlSafeNoPad random.toList

/-! ### What must not be shown -/

/-- Groups of 8, 4, 4, 4 and 12 hexadecimal digits. -/
def IsUuid (tok : List Char) : Prop :=
  ∃ groups, tok = ['-'].intercalate groups ∧ groups.map List.length = [8, 4, 4, 4, 12] ∧
    ∀ g ∈ groups, ∀ c ∈ g, Text.isAsciiHexdigit c = true

/-- A UUID, or a token of the length and in an alphabet of the generated ones. -/
def Sensitive (tok : List Char) : Prop :=
  IsUuid tok ∨ 24 ≤ tok.length ∧ ((∀ c ∈ tok, c ∈ HEX_DIGITS) ∨ ∀ c ∈ tok, c ∈ URL_SAFE)

/-- The second text is the first one with some tokens replaced by the marker; what is outside of them
    is the same, in the same order. -/
inductive Replaced : List Char → List Char → Prop
  | rest (s : List Char) : Replaced s s
  | token {front tok rest out : List Char} : Between isTokenByte front tok rest →
      isSecret tok = true → Replaced rest out → Replaced (front ++ tok ++ rest) (front ++ MARKER ++ out)

structure Redaction (text out : String) : Prop where
  hidden : ∀ tok, IsRun isTokenByte tok out.toList → ¬ Sensitive tok
  verbatim : Replaced text.toList out.toList
  stable : redactSecrets out = out

/-- The scanner's rules cover the long tokens of the text: each is a UUID, or all hexadecimal, or has
    a letter and something that is none. -/
def Recognised (text : String) : Prop :=
  ∀ tok, IsRun isTokenByte tok text.toList → 24 ≤ tok.length →
    IsUuid tok ∨ (∀ c ∈ tok, Text.isAsciiHexdigit c = true) ∨
      (∃ c ∈ tok, c.isAlpha = true) ∧ ∃ c ∈ tok, c.isAlpha = false

/-! ### Characters of tokens -/

section Alphabet
variable {c : Char} {tok : List Char}

theorem ascii_of_token (h : isTokenByte c = true) : c.toNat < 128 := by
  simp only [isTokenByte, Bool.or_eq_true, beq_iff_eq] at h
  rcases h with (h | rfl) | rfl
  · have := Text.toNat_of_isAlphanum h
    omega
  · decide
  · decide

theorem mem_urlSafe_iff : c ∈ URL_SAFE ↔ isTokenByte c = true := by
  have hascii : ∀ n < 128, (URL_SAFE.contains (Char.ofNat n)) = isTokenByte (Char.ofNat n) := by
    decide +kernel
  by_cases hc : c.toNat < 128
  · have := hascii c.toNat hc
    rw [Char.ofNat_toNat] at this
    rw [← this, List.contains_iff_mem]
  · refine iff_of_false (fun hmem => hc ?_) fun htoken => hc (ascii_of_token htoken)
    have hall : URL_SAFE.all (fun c => decide (c.toNat < 128)) = true := by decide +kernel
    simpa using List.all_eq_true.mp hall c hmem

theorem not_alpha_iff (h : isTokenByte c = true) :
    (c.isDigit || c == '-' || c == '_') = true ↔ c.isAlpha = false := by
  have hascii : ∀ n < 128, isTokenByte (Char.ofNat n) = true →
      ((Char.ofNat n).isDigit || Char.ofNat n == '-' || Char.ofNat n == '_') =
        !(Char.ofNat n).isAlpha := by
    decide +kernel
  have := hascii c.toNat (ascii_of_token h)
  rw [Char.ofNat_toNat] at this
  rw [this h, Bool.not_eq_true']

end Alphabet

theorem looksLikeUuid_iff {tok : List Char} : looksLikeUuid tok = true ↔ IsUuid tok := by
  have hparts : ∀ parts : List (List Char),
      (parts.length == 5 && ([8, 4, 4, 4, 12].zip parts).all fun p =>
          p.2.length == p.1 && p.2.all Text.isAsciiHexdigit) = true ↔
        parts.map List.length = [8, 4, 4, 4, 12] ∧
          ∀ g ∈ parts, ∀ c ∈ g, Text.isAsciiHexdigit c = true := by
    intro parts
    rcases parts with _ | ⟨a, _ | ⟨b, _ | ⟨c, _ | ⟨d, _ | ⟨e, _ | ⟨f, parts⟩⟩⟩⟩⟩⟩
    case cons.cons.cons.cons.cons.nil =>
      simp only [List.length_cons, List.length_nil, BEq.rfl, Bool.true_and, List.zip_cons_cons,
        List.zip_nil_left, List.all_cons, List.all_nil, Bool.and_true, Bool.and_eq_true, beq_iff_eq,
        List.all_eq_true, List.map_cons, List.map_nil, List.cons.injEq, and_true,
        List.forall_mem_cons, List.not_mem_nil, false_imp_iff, implies_true]
      tauto
    all_goals simp
  unfold looksLikeUuid IsUuid
  dsimp only
  rw [hparts]
  constructor
  · rintro ⟨hlen, hhex⟩
    exact ⟨_, (List.intercalate_splitOn '-').symm, hlen, hhex⟩
  · rintro ⟨groups, rfl, hlen, hhex⟩
    have hdash : ∀ g ∈ groups, '-' ∉ g := fun g hg hmem => absurd (hhex g hg _ hmem) (by decide)
    have hne : groups ≠ [] := by
      rintro rfl
      cases hlen
    rw [List.splitOn_intercalate '-' hdash hne]
    exact ⟨hlen, hhex⟩

section Tokens
variable {tok : List Char}

theorem isSecret_iff (hinside : ∀ c ∈ tok, isTokenByte c = true) :
    isSecret tok = true ↔ IsUuid tok ∨ 24 ≤ tok.length ∧
      ((∀ c ∈ tok, Text.isAsciiHexdigit c = true) ∨
        (∃ c ∈ tok, c.isAlpha = true) ∧ ∃ c ∈ tok, c.isAlpha = false) := by
  have hany : (tok.any fun c => c.isDigit || c == '-' || c == '_') = true ↔
      ∃ c ∈ tok, c.isAlpha = false := by
    rw [List.any_eq_true]
    exact exists_congr fun c => and_congr_right fun hc => not_alpha_iff (hinside c hc)
  rw [isSecret, Bool.or_eq_true, looksLikeUuid_iff]
  refine or_congr_right ?_
  unfold looksLikeSecretToken
  split
  · next hshort => exact iff_of_false Bool.false_ne_true fun h => Nat.not_le.mpr hshort h.1
  · next hlong =>
    rw [and_iff_right (Nat.not_lt.mp hlong)]
    split
    · next hhex => exact iff_of_true rfl (.inl (List.all_eq_true.mp hhex))
    · next hhex =>
      rw [Bool.and_eq_true, Bool.and_eq_true, hany, List.all_eq_true, List.any_eq_true,
        and_iff_right hinside]
      exact (or_iff_right fun hall => hhex (List.all_eq_true.mpr hall)).symm

theorem sensitive_iff (hinside : ∀ c ∈ tok, isTokenByte c = true) :
    Sensitive tok ↔ IsUuid tok ∨ 24 ≤ tok.length := by
  refine or_congr_right (and_iff_left_of_imp fun _ => .inr fun c hc => ?_)
  exact mem_urlSafe_iff.mpr (hinside c hc)

theorem inside_of_isRun {s : List Char} (h : IsRun isTokenByte tok s) :
    tok ≠ [] ∧ ∀ c ∈ tok, isTokenByte c = true := by
  obtain ⟨_, _, -, hbetween⟩ := h
  exact ⟨hbetween.nonempty, hbetween.inside⟩

end Tokens

/-! ### What the scanner does -/

def shown (tok : List Char) : List Char := if isSecret tok then MARKER else tok

theorem redactFrom_eq (out plain s : List Char) :
    redactFrom out plain s = out ++ plain ++ mapRuns isTokenByte shown s := by
  induction s using induction (p := isTokenByte) generalizing out plain with
  | nil => rw [redactFrom, mapRuns_nil, List.append_nil]
  | cons c s hc ih =>
    rw [redactFrom, if_neg (by simp [hc]), ih, mapRuns_cons hc]
    simp
  | run t s hne hinside hright ih =>
    obtain ⟨htake, hdrop⟩ := cut_run hinside hright
    rw [mapRuns_run hne hinside hright]
    obtain ⟨c, rest, rfl⟩ := List.exists_cons_of_ne_nil hne
    have hc := hinside c List.mem_cons_self
    rw [List.cons_append] at htake hdrop ⊢
    rw [List.dropWhile_cons_of_pos hc] at hdrop
    rw [redactFrom, if_pos hc, htake, hdrop, shown]
    split
    · next hsecret => rw [if_pos hsecret, ih]; simp
    · next hsecret => rw [if_neg hsecret, ih]; simp

theorem redactSecrets_eq (text : String) :
    (redactSecrets text).toList = mapRuns isTokenByte shown text.toList := by
  rw [redactSecrets, String.toList_ofList, redactFrom_eq]
  rfl

theorem runs_shown {tok : List Char} (hne : tok ≠ []) (hinside : ∀ c ∈ tok, isTokenByte c = true) :
    runs isTokenByte (shown tok) = [if isSecret tok then "redacted".toList else tok] := by
  unfold shown
  split
  · have hmarker : MARKER = '<' :: ("redacted".toList ++ ['>']) := by decide
    have hword : ∀ c ∈ "redacted".toList, isTokenByte c = true :=
      List.all_eq_true.mp (by decide)
    have hclose : ∀ c ∈ ['>'].head?, isTokenByte c = false := by
      rintro _ ⟨⟩
      decide
    rw [hmarker, runs_cons (by decide), runs_run (by decide) hword hclose, runs_cons (by decide),
      runs_nil]
  · exact runs_eq_singleton hne hinside

theorem isRun_redactSecrets {text : String} {tok : List Char} :
    IsRun isTokenByte tok (redactSecrets text).toList ↔
      ∃ t, IsRun isTokenByte t text.toList ∧
        tok = if isSecret t then "redacted".toList else t := by
  rw [← mem_runs, redactSecrets_eq, runs_mapRuns, List.mem_flatMap]
  refine exists_congr fun t => ?_
  rw [mem_runs]
  refine and_congr_right fun ht => ?_
  obtain ⟨hne, hinside⟩ := inside_of_isRun ht
  rw [runs_shown hne hinside, List.mem_singleton]

theorem not_secret_redacted : isSecret "redacted".toList = false := by decide +kernel

theorem not_sensitive_redacted : ¬ Sensitive "redacted".toList := by
  rw [sensitive_iff (List.all_eq_true.mp (by decide)), ← looksLikeUuid_iff]
  decide +kernel

theorem hidden_iff (text : String) :
    (∀ tok, IsRun isTokenByte tok (redactSecrets text).toList → ¬ Sensitive tok) ↔
      Recognised text := by
  constructor
  · intro hhidden tok htok hlong
    obtain ⟨-, hinside⟩ := inside_of_isRun htok
    cases hsecret : isSecret tok with
    | true => exact ((isSecret_iff hinside).mp hsecret).imp_right And.right
    | false =>
      -- it would be left as it is
      have hleft : IsRun isTokenByte tok (redactSecrets text).toList :=
        isRun_redactSecrets.mpr ⟨tok, htok, by simp [hsecret]⟩
      exact absurd ((sensitive_iff hinside).mpr (.inr hlong)) (hhidden tok hleft)
  · intro hrecognised tok htok
    obtain ⟨t, ht, rfl⟩ := isRun_redactSecrets.mp htok
    obtain ⟨-, hinside⟩ := inside_of_isRun ht
    split
    · exact not_sensitive_redacted
    · next hnot =>
      intro hsensitive
      refine hnot ((isSecret_iff hinside).mpr ?_)
      rcases (sensitive_iff hinside).mp hsensitive with huuid | hlong
      · exact .inl huuid
      · exact (hrecognised t ht hlong).imp_right fun h => ⟨hlong, h⟩

theorem redactSecrets_again (text : String) :
    redactSecrets (redactSecrets text) = redactSecrets text := by
  rw [← String.toList_inj, redactSecrets_eq]
  refine mapRuns_eq_self fun tok htok => ?_
  obtain ⟨t, -, rfl⟩ := isRun_redactSecrets.mp (mem_runs.mp htok)
  cases hsecret : isSecret t with
  | true => rw [if_pos rfl, shown, not_secret_redacted, if_neg Bool.false_ne_true]
  | false => rw [if_neg Bool.false_ne_true, shown, hsecret, if_neg Bool.false_ne_true]

/-! ### What is left in place -/

section Verbatim
variable {c : Char} {s t out : List Char}

theorem Replaced.cons (h : Replaced s out) (hc : isTokenByte c = false) :
    Replaced (c :: s) (c :: out) := by
  cases h with
  | rest => exact .rest _
  | token hbetween hsecret hrest => exact .token (hbetween.cons hc) hsecret hrest

theorem Replaced.append (h : Replaced s out) (hhead : ∀ c ∈ s.head?, isTokenByte c = false)
    (t : List Char) : Replaced (t ++ s) (t ++ out) := by
  cases h with
  | rest => exact .rest _
  | token hbetween hsecret hrest =>
    have := Replaced.token (hbetween.append (hbetween.not_head hhead) t) hsecret hrest
    simpa using this

theorem replaced_mapRuns (s : List Char) : Replaced s (mapRuns isTokenByte shown s) := by
  induction s using induction (p := isTokenByte) with
  | nil =>
    rw [mapRuns_nil]
    exact .rest _
  | cons c s hc ih =>
    rw [mapRuns_cons hc]
    exact ih.cons hc
  | run t s hne hinside hright ih =>
    rw [mapRuns_run hne hinside hright, shown]
    split
    · next hsecret => exact @Replaced.token [] t s _ ⟨hne, hinside, nofun, hright⟩ hsecret ih
    · exact ih.append hright t

end Verbatim

/-- **When the log tail is redacted.**  The rest of the text stays as it is and a second pass changes
    nothing, whatever the text.  That no UUID and no long token is left holds exactly if each long
    token of the text is a UUID, or hexadecimal, or mixes letters with other characters. -/
theorem redaction_iff (text : String) :
    Redaction text (redactSecrets text) ↔ Recognised text := by
  rw [← hidden_iff]
  refine ⟨Redaction.hidden, fun hhidden => ⟨hhidden, ?_, redactSecrets_again text⟩⟩
  rw [redactSecrets_eq]
  exact replaced_mapRuns _

/-! ### Generated secrets -/

section Generated
variable {c : Char}

theorem mem_hexDigits_getD {n : Nat} (h : n < 16) : HEX_DIGITS.getD n '0' ∈ HEX_DIGITS := by
  have hlen : n < HEX_DIGITS.length := h
  rw [List.getD_eq_getElem?_getD, List.getElem?_eq_getElem hlen]
  exact List.getElem_mem hlen

theorem mem_urlSafe_getD {n : Nat} (h : n < 64) : URL_SAFE.getD n 'A' ∈ URL_SAFE := by
  have hlen : n < URL_SAFE.length := h
  rw [List.getD_eq_getElem?_getD, List.getElem?_eq_getElem hlen]
  exact List.getElem_mem hlen

theorem length_hexEncode (bytes : List UInt8) : (hexEncode bytes).length = 2 * bytes.length := by
  simp [hexEncode, Nat.mul_comm]

theorem mem_hexEncode {bytes : List UInt8} (h : c ∈ hexEncode bytes) : c ∈ HEX_DIGITS := by
  obtain ⟨b, -, hc⟩ := List.mem_flatMap.mp h
  have hb := b.toNat_lt
  rcases List.mem_pair.mp hc with rfl | rfl
  · exact mem_hexDigits_getD (by omega)
  · exact mem_hexDigits_getD (by omega)

@[simp] theorem length_sextets (n : Nat) : (sextets n).length = 4 := rfl

theorem mem_sextets {n : Nat} (h : c ∈ sextets n) : c ∈ URL_SAFE := by
  obtain ⟨k, hk, rfl⟩ := List.mem_map.mp h
  simp only [List.mem_cons, List.not_mem_nil, or_false] at hk
  rcases hk with rfl | rfl | rfl | rfl
  all_goals exact mem_urlSafe_getD (Nat.mod_lt _ (by decide))

theorem length_urlSafeNoPad (bytes : List UInt8) :
    (urlSafeNoPad bytes).length = (4 * bytes.length + 2) / 3 := by
  induction bytes using urlSafeNoPad.induct with
  | case1 a b c rest ih =>
    simp only [urlSafeNoPad, List.length_append, length_sextets, ih, List.length_cons]
    omega
  | case2 a b => simp [urlSafeNoPad]
  | case3 a => simp [urlSafeNoPad]
  | case4 => rfl

theorem mem_urlSafeNoPad {bytes : List UInt8} (h : c ∈ urlSafeNoPad bytes) : c ∈ URL_SAFE := by
  induction bytes using urlSafeNoPad.induct with
  | case1 a b c' rest ih =>
    rcases List.mem_append.mp h with h | h
    · exact mem_sextets h
    · exact ih h
  | case2 a b => exact mem_sextets (List.mem_of_mem_take h)
  | case3 a => exact mem_sextets (List.mem_of_mem_take h)
  | case4 => cases h

theorem sensitive_hysteria2Password (random : Vector UInt8 24) :
    Sensitive (generateHysteria2Password random) := by
  refine .inr ⟨?_, .inl fun c => mem_hexEncode⟩
  rw [generateHysteria2Password, length_hexEncode, Vector.length_toList]
  decide

theorem sensitive_subscriptionToken (random : Vector UInt8 20) :
    Sensitive (generateSubscriptionToken random) := by
  refine .inr ⟨?_, .inr fun c => mem_urlSafeNoPad⟩
  rw [generateSubscriptionToken, length_urlSafeNoPad, Vector.length_toList]
  decide

end Generated

/-- A subscription token that happens to consist of letters stays in the report. -/
theorem redaction_letters_fails :
    let random : Vector UInt8 20 := ⟨#[105, 183, 29, 121, 248, 33, 138, 57, 37, 154, 122, 41, 170, 187,
      45, 186, 252, 49, 203, 48], rfl⟩
    let text := "GET /sub/abcdefghijklmnopqrstuvwxyzA"
    IsRun isTokenByte (generateSubscriptionToken random) text.toList ∧
      redactSecrets text = text ∧ ¬ Redaction text (redactSecrets text) := by
  intro random text
  have htoken : generateSubscriptionToken random = "abcdefghijklmnopqrstuvwxyzA".toList := by
    decide +kernel
  have htext : text.toList = "GET".toList ++ ' ' :: '/' :: ("sub".toList ++
      '/' :: generateSubscriptionToken random) := by
    rw [htoken]
    decide +kernel
  have hruns : runs isTokenByte text.toList =
      ["GET".toList, "sub".toList, generateSubscriptionToken random] := by
    have hinside : (generateSubscriptionToken random).all isTokenByte = true := by
      rw [htoken]
      decide +kernel
    rw [htext, runs_run (by decide) (List.all_eq_true.mp (by decide)) (by rintro _ ⟨⟩; decide),
      runs_cons (by decide), runs_cons (by decide),
      runs_run (by decide) (List.all_eq_true.mp (by decide)) (by rintro _ ⟨⟩; decide),
      runs_cons (by decide),
      runs_eq_singleton (by rw [htoken]; decide) (List.all_eq_true.mp hinside)]
  have hrun : IsRun isTokenByte (generateSubscriptionToken random) text.toList := by
    rw [← mem_runs, hruns]
    simp
  have hsame : redactSecrets text = text := by
    rw [← String.toList_inj, redactSecrets_eq]
    refine mapRuns_eq_self fun t ht => ?_
    rw [hruns, htoken] at ht
    simp only [List.mem_cons, List.not_mem_nil, or_false] at ht
    rcases ht with rfl | rfl | rfl
    all_goals decide +kernel
  refine ⟨hrun, hsame, fun h => h.hidden _ ?_ (sensitive_subscriptionToken random)⟩
  rw [hsame]
  exact hrun

end SingboxVpn.Redact
