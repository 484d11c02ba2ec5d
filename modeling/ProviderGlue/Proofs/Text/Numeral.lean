import ProviderGlue.Text.Numeral

/-!
# Numerals

What is written for a number in decimal digits is read as this number.

## Key results

- `readBelow?_toDigits`: a number is read back from its digits
- `readBelow?_eq_none`: what starts with something else is no number
-/

namespace ProviderGlue.Text

/-- The decimal digits. -/
theorem digitIn_ten (c : Char) :
    digitIn 10 c = if c.isDigit then some (c.toNat - '0'.toNat) else none := by
  rw [digitIn, digitValue]
  by_cases h : c.isDigit
  · have hle : c.toNat ≤ 57 := by
      simp only [Char.isDigit, Bool.and_eq_true, decide_eq_true_eq, UInt32.le_iff_toNat_le] at h
      exact h.2
    have hlt : c.toNat - '0'.toNat < 10 := by
      show c.toNat - 48 < 10
      omega
    rw [if_pos h, if_pos h, Option.filter_some, if_pos (decide_eq_true hlt)]
  · -- letters have values of ten and more
    rw [if_neg h, if_neg h]
    split
    · rw [Option.filter_some, if_neg (by simp)]
    · split
      · rw [Option.filter_some, if_neg (by simp)]
      · rfl

/-- Digits continue a number. -/
theorem continueNat_of_isDigit {digits : List Char} (h : ∀ c ∈ digits, c.isDigit = true)
    (value : Nat) : continueNat 10 value digits = some (Nat.ofDigitChars 10 digits value) := by
  induction digits generalizing value with
  | nil => rfl
  | cons c digits ih =>
    obtain ⟨hc, hdigits⟩ := List.forall_mem_cons.1 h
    rw [continueNat, digitIn_ten, if_pos hc, Option.bind_some, ih hdigits, Nat.ofDigitChars_cons,
      Nat.mul_comm]

/-- A number is read back from its digits. -/
theorem readBelow?_toDigits {bound n : Nat} (h : n < bound) :
    readBelow? bound (Nat.toDigits 10 n) = some n := by
  have hdigits : ∀ c ∈ Nat.toDigits 10 n, c.isDigit = true := fun _ =>
    Nat.isDigit_of_mem_toDigits (by decide) (by decide)
  have hplus : afterPrefix? ['+'] (Nat.toDigits 10 n) = none := by
    refine Option.eq_none_iff_forall_ne_some.2 fun rest hrest => ?_
    have hmem : '+' ∈ Nat.toDigits 10 n :=
      afterPrefix?_eq_some_iff.1 hrest ▸ List.mem_cons_self
    exact absurd (hdigits _ hmem) (by decide)
  rw [readBelow?, hplus, Option.getD_none, readNat?, if_neg, continueNat_of_isDigit hdigits,
    Nat.ofDigitChars_ten_toDigits, Option.filter_some, if_pos (decide_eq_true h)]
  rw [List.isEmpty_iff]
  exact Nat.toDigits_ne_nil

/-- What starts with something else than a sign or a digit is no number. -/
theorem readBelow?_eq_none {bound : Nat} {c : Char} (chars : List Char) (hplus : c ≠ '+')
    (hdigit : c.isDigit = false) : readBelow? bound (c :: chars) = none := by
  rw [readBelow?, afterPrefix?, if_neg hplus.symm, Option.getD_none, readNat?,
    if_neg (by simp), continueNat, digitIn_ten, hdigit]
  rfl

end ProviderGlue.Text
