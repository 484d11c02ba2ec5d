import ProviderGlue.Text.Unicode.CodePoints

/-!
# ASCII

Letters and digits are characters of ASCII.  A fact about all of ASCII is checked one by one.

## Key results

- `of_ascii`: what holds of the first 128 code points
- `toNat_lt_of_isAlphanum`: letters and digits are among them
- `toLower_of_isUpper`, `toLower_eq_iff`: which letters are small letters of others
-/

namespace ProviderGlue.Text

/-- A text of ASCII. -/
def IsAscii (text : List Char) : Prop := ∀ c ∈ text, c.toNat < 0x80

instance (text : List Char) : Decidable (IsAscii text) :=
  List.decidableBAll _ text

namespace Unicode

/-- What holds of the first 128 code points holds of every character of ASCII. -/
theorem of_ascii {P : Char → Prop} (h : ∀ n < 0x80, P (Char.ofNat n)) {c : Char}
    (hc : c.toNat < 0x80) : P c := by
  have hcode := h c.toNat hc
  rwa [Char.ofNat_toNat] at hcode

theorem toNat_lt_of_isAlphanum {c : Char} (h : c.isAlphanum = true) : c.toNat < 0x80 := by
  change (decide (c.val ≥ 'A'.val ∧ c.val ≤ 'Z'.val) ||
    (decide (c.val ≥ 'a'.val) && decide (c.val ≤ 'z'.val)) ||
    (decide (c.val ≥ '0'.val) && decide (c.val ≤ '9'.val))) = true at h
  simp only [Bool.or_eq_true, Bool.and_eq_true, decide_eq_true_eq, UInt32.le_iff_toNat_le] at h
  have hle : c.toNat ≤ 'z'.toNat := by
    rcases h with (⟨-, h⟩ | ⟨-, h⟩) | ⟨-, h⟩
    · exact Nat.le_trans h (by decide)
    · exact h
    · exact Nat.le_trans h (by decide)
  exact Nat.lt_of_le_of_lt hle (by decide)

end Unicode

/-! ## Letter case -/

open Unicode

/-- A text with small letters for the capitals of ASCII, as texts are compared where case does not
count. -/
def foldCase (text : List Char) : List Char := text.map Char.toLower

/-- A string with small letters for the capitals of ASCII. -/
def foldedCase (s : String) : String := String.ofList (foldCase s.toList)

theorem foldedCase_append (s s' : String) :
    foldedCase (s ++ s') = foldedCase s ++ foldedCase s' := by
  rw [foldedCase, foldCase, String.toList_append, List.map_append, String.ofList_append]
  rfl

theorem toLower_eq_self {c : Char} (h : c.isUpper = false) : c.toLower = c :=
  dif_neg (of_decide_eq_false h)

/-- The small letter of a capital is one, and leads back to it. -/
theorem toLower_of_isUpper {c : Char} (h : c.isUpper = true) :
    c.toLower.isLower = true ∧ c.toLower.isUpper = false ∧ c.toLower.toUpper = c := by
  have hall : ∀ n < 0x80, (Char.ofNat n).isUpper = true →
      (Char.ofNat n).toLower.isLower = true ∧ (Char.ofNat n).toLower.isUpper = false ∧
        (Char.ofNat n).toLower.toUpper = Char.ofNat n := by
    decide +kernel
  have halphanum : c.isAlphanum = true := by
    show (c.isUpper || c.isLower || c.isDigit) = true
    rw [h, Bool.true_or, Bool.true_or]
  exact of_ascii (P := fun c => c.isUpper = true → c.toLower.isLower = true ∧
    c.toLower.isUpper = false ∧ c.toLower.toUpper = c) hall (toNat_lt_of_isAlphanum halphanum) h

/-- What is no small letter is the small letter of nothing else. -/
theorem toLower_eq_iff {c d : Char} (hlower : d.isLower = false) (hupper : d.isUpper = false) :
    c.toLower = d ↔ c = d := by
  cases hc : c.isUpper with
  | false => rw [toLower_eq_self hc]
  | true =>
    have hsmall := (toLower_of_isUpper hc).1
    refine iff_of_false ?_ ?_
    · rintro rfl
      rw [hlower] at hsmall
      contradiction
    · rintro rfl
      rw [hupper] at hc
      contradiction

end ProviderGlue.Text
