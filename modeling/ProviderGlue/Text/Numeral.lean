import ProviderGlue.Text.Basic

/-!
# Reading numerals

Numerals of a given radix with an optional sign, refused when the value does not fit the word they
are read into.
-/

namespace ProviderGlue.Text

/-- The value of a digit in some radix up to 36. -/
def digitValue (c : Char) : Option Nat :=
  if c.isDigit then some (c.toNat - '0'.toNat)
  else if c.isLower then some (c.toNat - 'a'.toNat + 10)
  else if c.isUpper then some (c.toNat - 'A'.toNat + 10)
  else none

/-- The value of a digit in the given radix. -/
def digitIn (radix : Nat) (c : Char) : Option Nat :=
  (digitValue c).filter (· < radix)

/-- The number that `digits` writes after the digits of `value`. -/
def continueNat (radix value : Nat) : (digits : List Char) → Option Nat
  | [] => some value
  | c :: cs => (digitIn radix c).bind fun d => continueNat radix (value * radix + d) cs

/-- The number that a non-empty list of digits writes. -/
def readNat? (radix : Nat) (digits : List Char) : Option Nat :=
  if digits.isEmpty then none else continueNat radix 0 digits

/-- The number below `bound` that a decimal numeral writes; a plus sign may precede it. -/
def readBelow? (bound : Nat) (numeral : List Char) : Option Nat :=
  (readNat? 10 ((afterPrefix? ['+'] numeral).getD numeral)).filter (· < bound)

/-- The word whose value is `i`, if there is one. -/
def toInt64? (i : Int) : Option Int64 :=
  if Int64.minValue.toInt ≤ i ∧ i ≤ Int64.maxValue.toInt then some (Int64.ofInt i) else none

/-- The word that a numeral with an optional sign writes. -/
def readInt64? (radix : Nat) : (numeral : List Char) → Option Int64
  | '-' :: digits => (readNat? radix digits).bind fun n => toInt64? (-n)
  | '+' :: digits => (readNat? radix digits).bind fun n => toInt64? n
  | digits => (readNat? radix digits).bind fun n => toInt64? n

end ProviderGlue.Text
