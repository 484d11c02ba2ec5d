import Mathlib.Data.List.Basic
import ProviderGlue.Go.Source
import ProviderGlue.Proofs.Text.Cut
import ProviderGlue.Proofs.Text.Word

/-!
# Integer literals

A literal is read into a word of 64 bits.  Its digits are refused if they do not fit, but a minus sign
before it negates the word without a check.  That is safe for the digits of a literal, which make no
negative number; it is not for a second minus sign, which is read together with the digits.

## Key results

- `magnitude?_text`: the value of a literal
- `intLiteral?_exact`: reading is exact unless the negation overflows, and when it does
- `negation_overflows`: a source file in which it does
-/

namespace ProviderGlue.Text

/-! ## Numerals -/

/-- A digit is no sign. -/
theorem digitIn_sign (radix : Nat) : digitIn radix '-' = none ∧ digitIn radix '+' = none :=
  ⟨rfl, rfl⟩

/-- Digits are letters or decimal digits. -/
theorem isAlphanum_of_digitIn {radix d : Nat} {c : Char} (h : digitIn radix c = some d) :
    c.isAlphanum = true := by
  obtain ⟨h, -⟩ := Option.filter_eq_some_iff.1 h
  rw [digitValue] at h
  show (c.isUpper || c.isLower || c.isDigit) = true
  split at h
  · next hc => rw [hc, Bool.or_true]
  · split at h
    · next hc => rw [hc, Bool.or_true, Bool.true_or]
    · split at h
      · next hc => rw [hc, Bool.true_or, Bool.true_or]
      · contradiction

/-- What is not part of words is no digit. -/
theorem digitIn_eq_none {radix : Nat} {c : Char} (h : Unicode.isWordChar c = false) :
    digitIn radix c = none := by
  rw [Option.eq_none_iff_forall_ne_some]
  intro d hd
  rw [Unicode.isWordChar_of_isAlphanum (isAlphanum_of_digitIn hd)] at h
  contradiction

/-- A numeral has nothing but digits. -/
theorem exists_digit_of_continueNat {radix value n : Nat} {digits : List Char}
    (h : continueNat radix value digits = some n) : ∀ c ∈ digits, ∃ d, digitIn radix c = some d := by
  induction digits generalizing value with
  | nil => exact fun c hc => absurd hc List.not_mem_nil
  | cons c digits ih =>
    obtain ⟨d, hd, h⟩ := Option.bind_eq_some_iff.1 h
    exact List.forall_mem_cons.2 ⟨⟨d, hd⟩, ih h⟩

theorem exists_digit_of_readNat? {radix n : Nat} {digits : List Char}
    (h : readNat? radix digits = some n) : ∀ c ∈ digits, ∃ d, digitIn radix c = some d := by
  rw [readNat?] at h
  split at h
  · contradiction
  · exact exists_digit_of_continueNat h

/-- What has another character than digits is no numeral. -/
theorem readNat?_eq_none {radix : Nat} {digits : List Char} {c : Char} (hc : c ∈ digits)
    (hdigit : digitIn radix c = none) : readNat? radix digits = none := by
  rw [Option.eq_none_iff_forall_ne_some]
  intro n h
  obtain ⟨d, hd⟩ := exists_digit_of_readNat? h c hc
  rw [hdigit] at hd
  contradiction

/-- A numeral without sign is a number that fits. -/
theorem readInt64?_of_digit {radix d : Nat} {c : Char} (cs : List Char)
    (hd : digitIn radix c = some d) :
    readInt64? radix (c :: cs) = (readNat? radix (c :: cs)).bind fun n => toInt64? n := by
  rw [readInt64?]
  · rintro digits ⟨⟩
    rw [(digitIn_sign radix).1] at hd
    contradiction
  · rintro digits ⟨⟩
    rw [(digitIn_sign radix).2] at hd
    contradiction

/-- A word that is read is negative only if a minus sign stands before its digits. -/
theorem readInt64?_eq_minValue_iff {radix : Nat} {numeral : List Char} :
    readInt64? radix numeral = some Int64.minValue ↔
      ∃ digits, numeral = '-' :: digits ∧ readNat? radix digits = some (2 ^ 63) := by
  have not_negative : ∀ {digits : List Char},
      ((readNat? radix digits).bind fun n => toInt64? n) ≠ some Int64.minValue := fun h => by
    obtain ⟨n, -, hn⟩ := Option.bind_eq_some_iff.1 h
    have hvalue := toInt64?_eq_some_iff.1 hn
    rw [Int64.toInt_minValue] at hvalue
    omega
  constructor
  · intro h
    unfold readInt64? at h
    split at h
    · next digits =>
      obtain ⟨n, hn, hword⟩ := Option.bind_eq_some_iff.1 h
      have hvalue := toInt64?_eq_some_iff.1 hword
      rw [Int64.toInt_minValue] at hvalue
      have heq : n = 2 ^ 63 := by omega
      exact ⟨digits, rfl, heq ▸ hn⟩
    · exact absurd h not_negative
    · exact absurd h not_negative
  · rintro ⟨digits, rfl, hdigits⟩
    rw [readInt64?, hdigits, Option.bind_some, toInt64?_eq_some_iff]
    rfl

end ProviderGlue.Text

namespace ProviderGlue.Go

open Text

/-- What is not part of words is no underscore. -/
theorem mem_filter_underscore {c : Char} {text : List Char} (h : c ∈ text)
    (hword : Unicode.isWordChar c = false) : c ∈ text.filter (· ≠ '_') := by
  refine List.mem_filter.2 ⟨h, decide_eq_true ?_⟩
  rintro rfl
  exact absurd hword (by decide)

/-! ## Spelled literals -/

/-- A digit of a literal, which an underscore may separate from what stands before it. -/
structure Digit (radix : Nat) where
  separated : Bool
  char : Char
  /-- The value of the digit. -/
  value : Nat
  digit : digitIn radix char = some value

/-- The ways in which a literal announces its radix. -/
inductive Announcement where
  | none
  | zero
  | octal (upper : Bool)
  | binary (upper : Bool)
  | hexadecimal (upper : Bool)
deriving DecidableEq

namespace Announcement

/-- The announcement as it is written. -/
def text : Announcement → List Char
  | none => []
  | zero => ['0']
  | octal upper => ['0', if upper then 'O' else 'o']
  | binary upper => ['0', if upper then 'B' else 'b']
  | hexadecimal upper => ['0', if upper then 'X' else 'x']

/-- The radix that is announced. -/
def radix : Announcement → Nat
  | none => 10
  | zero | octal _ => 8
  | binary _ => 2
  | hexadecimal _ => 16

end Announcement

/-- An integer literal without sign. -/
structure Literal where
  announcement : Announcement
  digits : List (Digit announcement.radix)
  ne_nil : digits ≠ []
  /-- A decimal literal starts with a digit, which is no zero unless it is the only one. -/
  start : announcement = .none → ∀ d ∈ digits.head?,
    d.separated = false ∧ (d.char = '0' → digits.length = 1)

namespace Literal

variable (l : Literal)

/-- The digits without the underscores between them. -/
def chars : List Char := l.digits.map (·.char)

/-- The literal as it is written. -/
def text : List Char :=
  l.announcement.text ++ l.digits.flatMap fun d => (if d.separated then ['_'] else []) ++ [d.char]

/-- The number that is written. -/
def value : Nat := l.digits.foldl (fun n d => n * l.announcement.radix + d.value) 0

/-- Whether the literal is the decimal `0`. -/
def IsZero : Prop := l.announcement = .none ∧ l.chars = ['0']

instance : Decidable l.IsZero := inferInstanceAs (Decidable (_ ∧ _))

/-- A lone zero is written without anything around it. -/
theorem text_of_isZero (h : l.IsZero) : l.text = ['0'] := by
  obtain ⟨hnone, hchars⟩ := h
  obtain ⟨d, hd, hchar⟩ := List.map_eq_singleton_iff.1 hchars
  have hseparated := (l.start hnone d (by rw [hd]; rfl)).1
  rw [text, hd, List.flatMap_singleton, hseparated, hchar, hnone]
  rfl

theorem chars_ne_nil : l.chars ≠ [] :=
  fun h => l.ne_nil (List.map_eq_nil_iff.1 h)

/-- An underscore is no digit. -/
theorem filter_text : l.text.filter (· ≠ '_') = l.announcement.text ++ l.chars := by
  have hannouncement : l.announcement.text.filter (· ≠ '_') = l.announcement.text := by
    cases l.announcement with
    | none | zero => rfl
    | octal upper | binary upper | hexadecimal upper => cases upper <;> rfl
  rw [text, List.filter_append, hannouncement, chars]
  congr 1
  induction l.digits with
  | nil => rfl
  | cons d ds ih =>
    have hchar : d.char ≠ '_' := by
      intro heq
      have hdigit := d.digit
      rw [heq] at hdigit
      contradiction
    rw [List.flatMap_cons, List.filter_append, ih, List.map_cons, List.filter_append]
    cases d.separated <;> simp [hchar]

/-- The digits of a literal are read one after another. -/
theorem readNat?_chars : readNat? l.announcement.radix l.chars = some l.value := by
  have hdigits : ∀ (ds : List (Digit l.announcement.radix)) (n : Nat),
      continueNat l.announcement.radix n (ds.map (·.char)) =
        some (ds.foldl (fun n d => n * l.announcement.radix + d.value) n) := by
    intro ds
    induction ds with
    | nil => exact fun n => rfl
    | cons d ds ih =>
      intro n
      rw [List.map_cons, continueNat, d.digit, Option.bind_some, ih]
      rfl
  rw [readNat?, if_neg (mt List.isEmpty_iff.1 l.chars_ne_nil)]
  exact hdigits l.digits 0

/-- Every character of a literal that is no underscore and announces nothing is a digit. -/
theorem exists_digit_of_mem {c : Char} (h : c ∈ l.chars) :
    ∃ d, digitIn l.announcement.radix c = some d := by
  obtain ⟨d, -, rfl⟩ := List.mem_map.1 h
  exact ⟨_, d.digit⟩

/-- A literal is a word. -/
theorem isWordChar_of_mem {c : Char} (h : c ∈ l.text) : Unicode.isWordChar c = true := by
  rcases List.mem_append.1 h with h | h
  · have hall : l.announcement.text.all Unicode.isWordChar = true := by
      cases l.announcement with
      | none | zero => decide
      | octal upper | binary upper | hexadecimal upper => cases upper <;> decide
    exact List.all_eq_true.1 hall c h
  · obtain ⟨d, -, hd⟩ := List.mem_flatMap.1 h
    rcases List.mem_append.1 hd with hd | hd
    · split at hd
      · rw [List.mem_singleton.1 hd]
        decide
      · contradiction
    · rw [List.mem_singleton.1 hd]
      exact Unicode.isWordChar_of_isAlphanum (isAlphanum_of_digitIn d.digit)

/-- No digit of a literal is an `i`. -/
theorem not_mem_i : 'i' ∉ l.text := by
  intro h
  have hmem : 'i' ∈ l.announcement.text ++ l.chars := by
    rw [← l.filter_text]
    exact List.mem_filter.2 ⟨h, by decide⟩
  rcases List.mem_append.1 hmem with hmem | hmem
  · have hall : 'i' ∉ l.announcement.text := by
      cases l.announcement with
      | none | zero => decide
      | octal upper | binary upper | hexadecimal upper => cases upper <;> decide
    exact hall hmem
  · obtain ⟨d, hd⟩ := l.exists_digit_of_mem hmem
    have hnone : digitIn l.announcement.radix 'i' = none := by
      cases l.announcement <;> rfl
    rw [hnone] at hd
    contradiction

theorem text_ne_nil : l.text ≠ [] := by
  intro h
  have hfilter := l.filter_text
  rw [h] at hfilter
  exact l.chars_ne_nil (List.append_eq_nil_iff.1 hfilter.symm).2

/-- The announcement of a literal is recognized, whatever follows the digits, unless the literal is a
lone zero. -/
theorem radixOf_append (tail : List Char) (h : l.IsZero → tail = []) :
    radixOf (l.announcement.text ++ l.chars ++ tail) = (l.announcement.radix, l.chars ++ tail) := by
  obtain ⟨announcement, digits, hne, hstart⟩ := l
  obtain ⟨d, ds, rfl⟩ := List.exists_cons_of_ne_nil hne
  have hdigit := d.digit
  cases announcement with
  | none =>
    by_cases hzero : d.char = '0'
    · obtain rfl : ds = [] := List.length_eq_zero_iff.1 (by
        simpa using (hstart rfl d rfl).2 hzero)
      have htail := h ⟨rfl, by simp [chars, hzero]⟩
      simp only [chars, List.map_cons, List.map_nil, hzero, htail]
      rfl
    · -- without a zero in front there is nothing to announce
      show radixOf (d.char :: (ds.map (·.char) ++ tail)) = _
      rw [radixOf]
      · rfl
      all_goals
        intros
        next heq => exact hzero (List.cons.inj heq).1
  | zero =>
    show radixOf ('0' :: d.char :: (ds.map (·.char) ++ tail)) = _
    rw [radixOf]
    · rfl
    all_goals
      rintro heq
      rw [heq] at hdigit
      contradiction
  | octal upper | binary upper | hexadecimal upper => cases upper <;> rfl

/-- What is read of a literal and the text behind it. -/
theorem magnitude?_append (tail : List Char) (h : l.IsZero → tail = []) :
    magnitude? (l.text ++ tail) =
      (readNat? l.announcement.radix (l.chars ++ tail.filter (· ≠ '_'))).bind fun n =>
        toInt64? n := by
  have hradix := l.radixOf_append (tail.filter (· ≠ '_')) fun hzero => by rw [h hzero]; rfl
  obtain ⟨c, cs, hchars⟩ := List.exists_cons_of_ne_nil l.chars_ne_nil
  obtain ⟨d, hd⟩ := l.exists_digit_of_mem (hchars ▸ List.mem_cons_self)
  rw [magnitude?, List.filter_append, filter_text, hradix, hchars]
  exact readInt64?_of_digit _ hd

/-- A literal has its value, if that fits. -/
theorem magnitude?_text : magnitude? l.text = toInt64? l.value := by
  have happend := l.magnitude?_append [] fun _ => rfl
  rw [List.filter_nil, List.append_nil, List.append_nil, readNat?_chars, Option.bind_some] at happend
  exact happend

/-- A literal with anything but word characters behind it is refused, unless it is a lone zero. -/
theorem magnitude?_eq_none {tail : List Char} {c : Char} (h : ¬ l.IsZero) (hc : c ∈ tail)
    (hword : Unicode.isWordChar c = false) : magnitude? (l.text ++ tail) = none := by
  have hmem : c ∈ l.chars ++ tail.filter (· ≠ '_') :=
    List.mem_append_right _ (mem_filter_underscore hc hword)
  rw [l.magnitude?_append tail fun hzero => absurd hzero h,
    readNat?_eq_none hmem (digitIn_eq_none hword)]
  rfl

end Literal

/-! ## Marks -/

/-- Only letters and digits announce a radix. -/
theorem mem_radixOf {c : Char} {digits : List Char} (h : c ∈ digits)
    (hword : Unicode.isWordChar c = false) : c ∈ (radixOf digits).2 := by
  have hne : ∀ d, Unicode.isWordChar d = true → c ≠ d := by
    rintro d hd rfl
    rw [hd] at hword
    contradiction
  have hzero := hne '0' (by decide)
  unfold radixOf
  split
  case h_7 => exact List.mem_of_ne_of_mem hzero h
  case h_8 => exact h
  all_goals exact List.mem_of_ne_of_mem (hne _ (by decide)) (List.mem_of_ne_of_mem hzero h)

/-- A mark that is neither part of a word nor a sign occurs in no literal. -/
theorem magnitude?_eq_none {c : Char} {text : List Char} (h : c ∈ text)
    (hword : Unicode.isWordChar c = false) (hplus : c ≠ '+') (hminus : c ≠ '-') :
    magnitude? text = none := by
  have hmem := mem_radixOf (mem_filter_underscore h hword) hword
  have hdigit : ∀ radix, digitIn radix c = none := fun radix => digitIn_eq_none hword
  rw [magnitude?]
  generalize radixOf (text.filter (· ≠ '_')) = announced at hmem
  obtain ⟨radix, body⟩ := announced
  show readInt64? radix body = none
  unfold readInt64?
  split
  · rw [readNat?_eq_none (List.mem_of_ne_of_mem hminus hmem) (hdigit radix)]
    rfl
  · rw [readNat?_eq_none (List.mem_of_ne_of_mem hplus hmem) (hdigit radix)]
    rfl
  · rw [readNat?_eq_none hmem (hdigit radix)]
    rfl

/-! ## Negation -/

/-- The word that a minus sign at the start of a text negates. -/
def negated? (text : List Char) : Option Int64 :=
  match trim text with
  | '-' :: rest => magnitude? (trimStart rest)
  | _ => none

/-- The integer that a text writes, with its sign taken as it is meant. -/
def writtenInt? (text : List Char) : Option Int :=
  match trim text with
  | '-' :: rest => (magnitude? (trimStart rest)).map fun v => -v.toInt
  | literal => (magnitude? literal).map Int64.toInt

/-- Whether a minus sign is followed by another one that is read together with the digits of `2 ^ 63`,
perhaps behind the announcement of a radix: `--9223372036854775808` or `-0x-8000000000000000`. -/
def TwiceNegated (text : List Char) : Prop :=
  ∃ rest radix digits, trim text = '-' :: rest ∧
    radixOf ((trimStart rest).filter (· ≠ '_')) = (radix, '-' :: digits) ∧
    readNat? radix digits = some (2 ^ 63)

theorem intLiteral?_of_minus {text rest : List Char} (h : trim text = '-' :: rest) :
    intLiteral? text = (magnitude? (trimStart rest)).map (- ·) := by
  rw [intLiteral?, h]
  rfl

theorem intLiteral?_of_not_minus {text : List Char} (h : ∀ rest, trim text ≠ '-' :: rest) :
    intLiteral? text = magnitude? (trim text) := by
  unfold intLiteral?
  split
  · next rest htrim => exact absurd htrim (h rest)
  · rfl

/-- Only the digits behind a second minus sign make the least word. -/
theorem negated?_eq_minValue_iff (text : List Char) :
    negated? text = some Int64.minValue ↔ TwiceNegated text := by
  rw [negated?, TwiceNegated]
  split
  · next rest htrim =>
    rw [magnitude?, readInt64?_eq_minValue_iff]
    constructor
    · rintro ⟨digits, hbody, hdigits⟩
      exact ⟨rest, _, digits, htrim, Prod.ext rfl hbody, hdigits⟩
    · rintro ⟨rest', radix, digits, htrim', hradix, hdigits⟩
      obtain rfl : rest = rest' := by
        rw [htrim] at htrim'
        exact (List.cons.inj htrim').2
      rw [hradix]
      exact ⟨digits, rfl, hdigits⟩
  · next hnot =>
    refine ⟨nofun, ?_⟩
    rintro ⟨rest, radix, digits, htrim, -⟩
    exact absurd htrim (hnot rest)

/-- What follows the announcement of a radix is the end of the literal. -/
theorem radixOf_suffix (digits : List Char) : (radixOf digits).2 <:+ digits := by
  unfold radixOf
  split
  case h_7 => exact List.suffix_cons _ _
  case h_8 => exact List.suffix_refl _
  all_goals exact (List.suffix_cons _ _).trans (List.suffix_cons _ _)

/-- How the integer that a text writes is read. -/
structure ReadExactly (text : List Char) : Prop where
  /-- The negation overflows for a second minus sign before `2 ^ 63` and for nothing else. -/
  overflows : negated? text = some Int64.minValue ↔ TwiceNegated text
  /-- Where it does not, the integer is read as it is written. -/
  exact : ¬ TwiceNegated text → (intLiteral? text).map Int64.toInt = writtenInt? text
  /-- Where it does, the sign is lost. -/
  wraps : TwiceNegated text →
    intLiteral? text = some Int64.minValue ∧ writtenInt? text = some (2 ^ 63)
  /-- A text with one minus sign at most is safe. -/
  single : text.count '-' ≤ 1 → ¬ TwiceNegated text

/-- **Integers are read exactly**, up to the negation of the least word. -/
theorem intLiteral?_exact (text : List Char) : ReadExactly text := by
  constructor
  case overflows => exact negated?_eq_minValue_iff text
  case exact =>
    intro h
    rw [← negated?_eq_minValue_iff, negated?] at h
    rw [writtenInt?]
    split
    · next rest htrim =>
      rw [htrim] at h
      rw [intLiteral?_of_minus htrim]
      cases hv : magnitude? (trimStart rest) with
      | none => rfl
      | some v =>
        have hne : v ≠ Int64.minValue := by
          rintro rfl
          exact h hv
        exact congrArg some (toInt_neg hne)
    · next hnot => rw [intLiteral?_of_not_minus hnot]
  case wraps =>
    rintro ⟨rest, radix, digits, htrim, hradix, hdigits⟩
    have hword : magnitude? (trimStart rest) = some Int64.minValue := by
      rw [magnitude?, hradix]
      exact readInt64?_eq_minValue_iff.2 ⟨digits, rfl, hdigits⟩
    have hwritten : writtenInt? text = (magnitude? (trimStart rest)).map fun v => -v.toInt := by
      rw [writtenInt?, htrim]
      rfl
    rw [intLiteral?_of_minus htrim, hwritten, hword]
    exact ⟨rfl, rfl⟩
  case single =>
    rintro hcount ⟨rest, radix, digits, htrim, hradix, -⟩
    -- the second sign is one of the characters behind the first
    have hmem : '-' ∈ rest := by
      have hsuffix := (radixOf_suffix ((trimStart rest).filter (· ≠ '_'))).subset
      rw [hradix] at hsuffix
      have hkept := List.mem_of_mem_filter (hsuffix List.mem_cons_self)
      exact (List.dropWhile_sublist _).mem hkept
    have htwo : 2 ≤ (trim text).count '-' := by
      rw [htrim, List.count_cons_self]
      have hone := List.count_pos_iff.2 hmem
      omega
    have hle := (trim_sublist text).count_le '-'
    omega

/-- A second minus sign in a source file: the constant is `2 ^ 63`, which no word holds. -/
theorem negation_overflows :
    negated? "- -9223372036854775808".toList = some Int64.minValue ∧
      writtenInt? "- -9223372036854775808".toList = some (2 ^ 63) ∧
      ((SourceFile.read? "flags.go" "package a\n\nconst Top Flag = - -9223372036854775808\n".toList).map
        (·.constants)) = some [⟨"Top", "Flag", Int64.minValue⟩] := by
  decide +kernel

end ProviderGlue.Go
