import Mathlib.Algebra.Group.Int.Defs
import Mathlib.Algebra.Group.Nat.Defs
import ProviderGlue.Text.Numeral

/-!
# Words

Facts about words of 64 bits and the integers that they stand for.

## Key results

- `toInt64?_eq_some_iff`: which integers fit a word
- `toInt_neg`: all words but the least one are negated exactly
- `toInt_shiftLeft`: a shift is exact up to the bits that leave the word
-/

namespace ProviderGlue.Text

/-- Whether an integer is the value of a word. -/
def FitsWord (i : Int) : Prop := Int64.minValue.toInt ≤ i ∧ i ≤ Int64.maxValue.toInt

/-- A word is given for its value only. -/
theorem toInt64?_eq_some_iff {i : Int} {v : Int64} : toInt64? i = some v ↔ v.toInt = i := by
  rw [toInt64?]
  constructor
  · intro h
    split at h
    · next hfits =>
      have hmax : i < 2 ^ 63 := Int.lt_of_le_of_lt hfits.2 (by decide)
      rw [← Option.some.inj h, Int64.toInt_ofInt_of_le hfits.1 hmax]
    · contradiction
  · rintro rfl
    rw [if_pos ⟨v.minValue_le_toInt, v.toInt_le⟩, Int64.ofInt_toInt]

theorem toInt64?_eq_none_iff {i : Int} : toInt64? i = none ↔ ¬ FitsWord i := by
  rw [toInt64?, FitsWord]
  split <;> simp_all

/-- The value of a word fits it. -/
theorem fitsWord_toInt (v : Int64) : FitsWord v.toInt :=
  ⟨v.minValue_le_toInt, v.toInt_le⟩

/-- A word is negated exactly, unless it is the least one. -/
theorem toInt_neg {v : Int64} (h : v ≠ Int64.minValue) : (-v).toInt = -v.toInt := by
  have hne : v.toInt ≠ -2 ^ 63 := fun heq => h (Int64.toInt_inj.1 heq)
  have hle := v.le_toInt
  have hlt := v.toInt_lt
  rw [Int64.toInt_neg, Int.bmod_eq_of_le (by omega) (by omega)]

/-- An integer that fits a word is its own remainder. -/
theorem FitsWord.bmod_eq {i : Int} (h : FitsWord i) : i.bmod (2 ^ 64) = i := by
  obtain ⟨hmin, hmax⟩ := h
  rw [Int64.toInt_minValue] at hmin
  rw [Int64.toInt_maxValue] at hmax
  exact Int.bmod_eq_of_le (by omega) (by omega)

/-- A word is shifted by the value of another one, up to the bits that leave it. -/
theorem toInt_shiftLeft {a n : Int64} (hpos : 0 ≤ n.toInt) (hlt : n.toInt < 64) :
    (a <<< n).toInt = (a.toInt * 2 ^ n.toInt.toNat).bmod (2 ^ 64) := by
  have hsmod : n.toBitVec.smod 64 = n.toBitVec := by
    apply BitVec.eq_of_toInt_eq
    rw [BitVec.toInt_smod]
    exact Int.fmod_eq_of_lt hpos hlt
  have hamount : n.toBitVec.toNat = n.toInt.toNat := by
    have hcond := n.toBitVec.toInt_eq_toNat_cond
    have htoInt : n.toBitVec.toInt = n.toInt := rfl
    have hbound := n.toBitVec.isLt
    omega
  have ha : a.toInt = (a.toBitVec.toNat : Int).bmod (2 ^ 64) := a.toBitVec.toInt_eq_toNat_bmod
  rw [← Int64.toInt_toBitVec (a <<< n), Int64.toBitVec_shiftLeft, hsmod, BitVec.shiftLeft_eq',
    BitVec.toInt_shiftLeft, hamount, Nat.shiftLeft_eq, ha, Int.bmod_mul_bmod, Int.natCast_mul,
    Int.natCast_pow]
  rfl

end ProviderGlue.Text
