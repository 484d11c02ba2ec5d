import ProviderGlue.Json.Layout

/-!
# Reading what is written: strings and words

A string or a word that is written to a document is read back, and the text behind it is left.

## Key results

- `readString_escaped`: strings, for all characters
- `readWord_wordText`: all 64-bit words
-/

namespace ProviderGlue.Json

/-! ## White space -/

theorem skipSpace_cons {c : Char} (h : isSpace c = false) (cs : List Char) :
    skipSpace (c :: cs) = c :: cs := by
  rw [skipSpace, List.dropWhile_cons, h]
  rfl

/-- White space in front does not count. -/
theorem skipSpace_append {space : List Char} (h : ∀ c ∈ space, isSpace c = true)
    (text : List Char) : skipSpace (space ++ text) = skipSpace text := by
  rw [skipSpace, List.dropWhile_append_of_pos h]
  rfl

theorem isSpace_of_mem_newLine {level : Nat} {c : Char} (h : c ∈ newLine level) :
    isSpace c = true := by
  rcases List.mem_cons.1 h with rfl | h
  · rfl
  · rw [(List.mem_replicate.1 h).2]
    rfl

theorem skipSpace_newLine (level : Nat) (text : List Char) :
    skipSpace (newLine level ++ text) = skipSpace text :=
  skipSpace_append (fun _ => isSpace_of_mem_newLine) text

/-! ## Strings -/

theorem hexValue?_hexDigit {n : Nat} (h : n < 16) : hexValue? (hexDigit n) = some n := by
  revert n
  decide

/-- The digits of a number below 256 behind two zeros. -/
theorem hexEscape_hexDigits {n : Nat} (h : n < 256) (rest : List Char) :
    hexEscape ('0' :: '0' :: hexDigit (n / 16) :: hexDigit (n % 16) :: rest) = .ok (n, rest) := by
  have hzero : hexValue? '0' = some 0 := rfl
  have hhigh := hexValue?_hexDigit (show n / 16 < 16 by omega)
  have hlow := hexValue?_hexDigit (show n % 16 < 16 by omega)
  have hnumber : hexNumber? '0' '0' (hexDigit (n / 16)) (hexDigit (n % 16)) = some n := by
    rw [hexNumber?, hzero, hhigh, hlow]
    show some (((0 * 16 + 0) * 16 + n / 16) * 16 + n % 16) = some n
    rw [Option.some.injEq]
    omega
  have hwidth : ¬ totalWidth
      (('0' :: '0' :: hexDigit (n / 16) :: hexDigit (n % 16) :: rest).take 4) < 4 := by
    have hpos := Char.utf8Size_pos (hexDigit (n / 16))
    have hpos' := Char.utf8Size_pos (hexDigit (n % 16))
    show ¬ 1 + (1 + ((hexDigit (n / 16)).utf8Size + ((hexDigit (n % 16)).utf8Size + 0))) < 4
    omega
  rw [hexEscape, if_neg hwidth, hnumber]

/-- A control character is read from its number. -/
theorem unicodeEscape_control {c : Char} (h : c.toNat < 0x20) (rest : List Char) :
    unicodeEscape ('0' :: '0' :: hexDigit (c.toNat / 16) :: hexDigit (c.toNat % 16) :: rest) =
      .ok (c, rest) := by
  have hlow : ¬ (0xDC00 ≤ c.toNat ∧ c.toNat ≤ 0xDFFF) := by omega
  have hhigh : ¬ (0xD800 ≤ c.toNat ∧ c.toNat ≤ 0xDBFF) := by omega
  rw [unicodeEscape, hexEscape_hexDigits (by omega)]
  show (if 0xDC00 ≤ c.toNat ∧ c.toNat ≤ 0xDFFF then _ else _) = _
  rw [if_neg hlow, if_neg hhigh, Char.ofNat_toNat]

/-- A character stands for itself, or for what is read behind a backslash. -/
theorem escapeChar_spec (c : Char) :
    (escapeChar c = [c] ∧ c ≠ '"' ∧ c ≠ '\\' ∧ isControl c = false) ∨
      ∃ letters, escapeChar c = '\\' :: letters ∧
        ∀ rest, escape (letters ++ rest) = .ok (c, rest) := by
  have of_toNat : ∀ {n : Nat}, c.toNat = n → Char.ofNat n = c := fun h => by
    rw [← h, Char.ofNat_toNat]
  -- one case for each branch of the writer; only the last two depend on the character
  unfold escapeChar
  split
  · next h => exact .inr ⟨['"'], rfl, fun rest => by rw [h]; rfl⟩
  · next hquote =>
    split
    · next h => exact .inr ⟨['\\'], rfl, fun rest => by rw [h]; rfl⟩
    · next hslash =>
      split
      · next h => exact .inr ⟨['b'], rfl, fun rest => by rw [← of_toNat h]; rfl⟩
      split
      · next h => exact .inr ⟨['f'], rfl, fun rest => by rw [← of_toNat h]; rfl⟩
      split
      · next h => exact .inr ⟨['n'], rfl, fun rest => by rw [h]; rfl⟩
      split
      · next h => exact .inr ⟨['r'], rfl, fun rest => by rw [h]; rfl⟩
      split
      · next h => exact .inr ⟨['t'], rfl, fun rest => by rw [h]; rfl⟩
      split
      · next h => exact .inr ⟨_, rfl, fun rest => unicodeEscape_control h rest⟩
      · next h => exact .inl ⟨rfl, hquote, hslash, decide_eq_false h⟩

/-- One character is read from what is written for it. -/
theorem stringBody_escapeChar (c : Char) (fuel : Nat) (text : List Char) :
    stringBody (fuel + 1) (escapeChar c ++ text) =
      (stringBody fuel text).map fun r => (c :: r.1, r.2) := by
  rcases escapeChar_spec c with ⟨heq, hquote, hslash, hcontrol⟩ | ⟨letters, heq, hescape⟩
  · rw [heq, List.singleton_append, stringBody]
    · rw [hcontrol]
      cases stringBody fuel text <;> rfl
    · exact hquote
    · exact hslash
  · rw [heq, List.cons_append, stringBody, hescape]
    show (stringBody fuel text).bind (fun r => .ok (c :: r.1, r.2)) = _
    cases stringBody fuel text <;> rfl

/-- The characters of a string are read up to the quote. -/
theorem stringBody_escaped (cs rest : List Char) {fuel : Nat} (h : cs.length < fuel) :
    stringBody fuel (cs.flatMap escapeChar ++ '"' :: rest) = .ok (cs, rest) := by
  obtain ⟨fuel, rfl⟩ : ∃ n, fuel = n + 1 := ⟨fuel - 1, by omega⟩
  induction cs generalizing fuel with
  | nil =>
    rw [List.flatMap_nil, List.nil_append, stringBody]
    exact Nat.succ_ne_zero fuel
  | cons c cs ih =>
    rw [List.length_cons] at h
    obtain ⟨fuel, rfl⟩ : ∃ n, fuel = n + 1 := ⟨fuel - 1, by omega⟩
    rw [List.flatMap_cons, List.append_assoc, stringBody_escapeChar, ih fuel (by omega)]
    rfl

theorem length_le_flatMap_escapeChar (cs : List Char) :
    cs.length ≤ (cs.flatMap escapeChar).length := by
  induction cs with
  | nil => exact Nat.le_refl 0
  | cons c cs ih =>
    have hpos : 0 < (escapeChar c).length := by
      rcases escapeChar_spec c with ⟨heq, -⟩ | ⟨letters, heq, -⟩ <;> rw [heq] <;> simp
    rw [List.flatMap_cons, List.length_append, List.length_cons]
    omega

/-- A string is read back, whatever its characters. -/
theorem readString_escaped (cs rest : List Char) :
    readString (cs.flatMap escapeChar ++ '"' :: rest) = .ok (cs, rest) := by
  refine stringBody_escaped cs rest ?_
  have hle := length_le_flatMap_escapeChar cs
  rw [List.length_append, List.length_cons]
  omega

theorem stringText_append (s : String) (rest : List Char) :
    stringText s ++ rest = '"' :: (s.toList.flatMap escapeChar ++ '"' :: rest) := by
  rw [stringText, List.append_assoc, List.cons_append, List.singleton_append]

theorem readText_stringText (s : String) (rest : List Char) :
    readText (stringText s ++ rest) = .ok (.text s, rest) := by
  rw [stringText_append, readText, readString_escaped]
  show Except.ok (Value.text (String.ofList s.toList), rest) = _
  rw [String.ofList_toList]

/-! ## Words -/

/-- What stands behind a value that is written to a document. -/
def Ends : (text : List Char) → Prop
  | [] => True
  | c :: _ => c = ',' ∨ c = '\n'

theorem Ends.digitNext {rest : List Char} (h : Ends rest) : digitNext rest = false := by
  cases rest with
  | nil => rfl
  | cons c cs => rcases h with rfl | rfl <;> rfl

/-- Digits only make a number greater. -/
theorem le_ofDigitChars (ds : List Char) (n : Nat) : n ≤ Nat.ofDigitChars 10 ds n := by
  have hpos : 0 < 10 ^ ds.length := Nat.pow_pos (by omega)
  rw [Nat.ofDigitChars_eq_ofDigitChars_zero]
  exact Nat.le_trans (Nat.le_mul_of_pos_left n hpos) (Nat.le_add_right _ _)

theorem appendDigit?_of_not_isDigit (n : Nat) {c : Char} (h : c.isDigit = false) :
    appendDigit? n c = none := by
  rw [appendDigit?, h]
  exact if_neg fun hc => absurd hc.1 Bool.false_ne_true

theorem appendDigit?_of_isDigit {n : Nat} {c : Char} (h : c.isDigit = true)
    (hfit : 10 * n + (c.toNat - '0'.toNat) < 0x10000000000000000) :
    appendDigit? n c = some (10 * n + (c.toNat - '0'.toNat)) := by
  have hmul : n * 10 + (c.toNat - '0'.toNat) = 10 * n + (c.toNat - '0'.toNat) := by omega
  simp only [appendDigit?, hmul]
  exact if_pos ⟨h, hfit⟩

/-- All digits are read if the number that they write fits. -/
theorem appendDigits_of_digits {ds rest : List Char} {n : Nat} (hds : ∀ d ∈ ds, d.isDigit = true)
    (hfit : Nat.ofDigitChars 10 ds n < 0x10000000000000000) (hrest : digitNext rest = false) :
    appendDigits n (ds ++ rest) = (Nat.ofDigitChars 10 ds n, ds.length, rest) := by
  induction ds generalizing n with
  | nil =>
    rw [List.nil_append, Nat.ofDigitChars_nil]
    cases rest with
    | nil => rfl
    | cons c cs =>
      rw [appendDigits, appendDigit?_of_not_isDigit n hrest]
      rfl
  | cons d ds ih =>
    obtain ⟨hd, hds⟩ := List.forall_mem_cons.1 hds
    rw [Nat.ofDigitChars_cons] at hfit
    -- what has been read so far is no greater than the whole number
    have hlt := Nat.lt_of_le_of_lt (le_ofDigitChars ds _) hfit
    rw [List.cons_append, appendDigits, appendDigit?_of_isDigit hd hlt, Nat.ofDigitChars_cons]
    dsimp only
    rw [ih hds hfit, List.length_cons]

/-- What is written for a number starts with a digit. -/
theorem exists_toDigits_eq_cons (n : Nat) :
    ∃ c cs, Nat.toDigits 10 n = c :: cs ∧ c.isDigit = true := by
  obtain ⟨c, cs, heq⟩ := List.exists_cons_of_ne_nil (Nat.toDigits_ne_nil (n := n) (b := 10))
  refine ⟨c, cs, heq, ?_⟩
  exact Nat.isDigit_of_mem_toDigits (by omega) (by omega) (heq ▸ List.mem_cons_self)

/-- Only zero starts with a zero. -/
theorem toDigits_cons {n : Nat} (h : 0 < n) :
    ∃ c cs, Nat.toDigits 10 n = c :: cs ∧ c ≠ '0' := by
  have hdigit : ∀ d, d < 10 → 0 < d → d.digitChar ≠ '0' := by decide
  induction n using Nat.strongRecOn with
  | ind n ih =>
    rcases Nat.lt_or_ge n 10 with hlt | hge
    · rw [Nat.toDigits_of_lt_base hlt]
      exact ⟨_, _, rfl, hdigit n hlt h⟩
    · rw [Nat.toDigits_of_base_le (by omega) hge]
      obtain ⟨c, cs, heq, hc⟩ := ih (n / 10) (by omega) (by omega)
      rw [heq]
      exact ⟨c, _, rfl, hc⟩

/-- Behind its whole digits a number ends. -/
theorem afterWhole_of_ends (positive : Bool) (n : Nat) {rest : List Char} (h : Ends rest) :
    afterWhole positive n rest =
      if positive then .ok (.natural n, rest)
      else if 0 < n ∧ n ≤ 0x8000000000000000 then .ok (.negative (-n), rest)
      else .ok (.floating (-Float.ofNat n), rest) := by
  cases rest with
  | nil => rfl
  | cons c cs => rcases h with rfl | rfl <;> rfl

/-- The digits of a number that fits are read up to its end. -/
theorem readMagnitude_toDigits (positive : Bool) {n : Nat} (hn : n < 0x10000000000000000)
    {rest : List Char} (hrest : Ends rest) :
    readMagnitude positive (Nat.toDigits 10 n ++ rest) = afterWhole positive n rest := by
  -- a number may start with a zero only if it is zero
  rcases Nat.eq_zero_or_pos n with rfl | hpos
  · rw [Nat.toDigits_zero, List.singleton_append, readMagnitude, hrest.digitNext]
    rfl
  · obtain ⟨c, cs, heq, hc⟩ := toDigits_cons hpos
    have hdigits : ∀ d ∈ c :: cs, d.isDigit = true := fun d hd =>
      Nat.isDigit_of_mem_toDigits (by omega) (by omega) (heq ▸ hd)
    have hvalue : Nat.ofDigitChars 10 (c :: cs) 0 = n := by
      rw [← heq, Nat.ofDigitChars_ten_toDigits]
    have happend := appendDigits_of_digits hdigits (hvalue ▸ hn) hrest.digitNext
    rw [hvalue, List.cons_append] at happend
    rw [heq, List.cons_append, readMagnitude]
    · rw [hdigits c List.mem_cons_self, happend]
      dsimp only
      rw [hrest.digitNext]
      rfl
    · exact hc

/-- What is written for a word starts with a sign or a digit. -/
theorem wordText_cons (i : Int64) :
    ∃ c cs, wordText i = c :: cs ∧ (c = '-' ∨ c.isDigit = true) := by
  unfold wordText
  cases i.toInt with
  | ofNat n =>
    obtain ⟨c, cs, heq, hc⟩ := exists_toDigits_eq_cons n
    exact ⟨c, cs, heq, .inr hc⟩
  | negSucc n => exact ⟨_, _, rfl, .inl rfl⟩

/-- A word is read as the number that it is. -/
theorem readNumber_wordText (i : Int64) {rest : List Char} (hrest : Ends rest) :
    ∃ n, readNumber (wordText i ++ rest) = .ok (n, rest) ∧ wordOf n rest = .ok i := by
  have hle := i.le_toInt
  have hlt := i.toInt_lt
  have hof : Int64.ofInt i.toInt = i := Int64.ofInt_toInt i
  -- the least word is the only one whose magnitude is no word
  unfold wordText
  generalize i.toInt = k at hle hlt hof
  cases k with
  | ofNat n =>
    rw [Int.ofNat_eq_natCast] at hlt
    have hn : n < 0x8000000000000000 := by omega
    refine ⟨.natural n, ?_, ?_⟩
    · have hdigit : ∀ cs, Nat.toDigits 10 n ++ rest ≠ '-' :: cs := fun cs heq => by
        obtain ⟨c, ds, hds, hc⟩ := exists_toDigits_eq_cons n
        rw [hds, List.cons_append, List.cons.injEq] at heq
        rw [heq.1] at hc
        exact nomatch hc
      rw [readNumber]
      · rw [readMagnitude_toDigits true (by omega) hrest, afterWhole_of_ends true n hrest]
        rfl
      · exact hdigit
    · rw [wordOf, if_pos hn]
      exact congrArg Except.ok hof
  | negSucc n =>
    have hn : n + 1 ≤ 0x8000000000000000 := by omega
    refine ⟨.negative (-(n + 1 : Nat)), ?_, ?_⟩
    · rw [List.cons_append, readNumber, readMagnitude_toDigits false (by omega) hrest,
        afterWhole_of_ends false _ hrest, if_neg Bool.false_ne_true, if_pos ⟨by omega, hn⟩]
    · exact congrArg Except.ok hof

/-- A word is read back. -/
theorem readWord_wordText (i : Int64) {rest : List Char} (hrest : Ends rest) :
    readWord (wordText i ++ rest) = .ok (.word i, rest) := by
  obtain ⟨n, hread, hword⟩ := readNumber_wordText i hrest
  obtain ⟨c, cs, heq, hc⟩ := wordText_cons i
  rw [heq, List.cons_append] at hread ⊢
  rw [readWord, if_pos hc, hread]
  show (wordOf n rest).bind _ = _
  rw [hword]
  rfl

end ProviderGlue.Json
