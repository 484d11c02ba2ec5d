import ProviderGlue.Text.Numeral

/-!
# Integer literals and constant expressions

The value of a Go integer literal, and of the constant expressions that enumerations are declared
with: one operand, or two operands joined by `<<`, `+`, `-` or `*`.  Values are 64-bit words.  A
sum, difference or product that does not fit has no value; a shift drops the bits that leave the
word.
-/

namespace ProviderGlue.Go

open Text

/-! ## Literals -/

/-- The radix that the start of a literal announces, and the digits after the announcement. -/
def radixOf : (digits : List Char) → Nat × List Char
  | '0' :: 'x' :: body => (16, body)
  | '0' :: 'X' :: body => (16, body)
  | '0' :: 'o' :: body => (8, body)
  | '0' :: 'O' :: body => (8, body)
  | '0' :: 'b' :: body => (2, body)
  | '0' :: 'B' :: body => (2, body)
  | '0' :: d :: body => (8, d :: body)
  | body => (10, body)

/-- The value of a literal without sign.  Underscores only separate digits. -/
def magnitude? (literal : List Char) : Option Int64 :=
  let (radix, body) := radixOf (literal.filter (· ≠ '_'))
  readInt64? radix body

/-- The value of an integer literal, which a minus sign and blanks may surround. -/
def intLiteral? (text : List Char) : Option Int64 :=
  match trim text with
  | '-' :: rest => (magnitude? (trimStart rest)).map (- ·)
  | literal => magnitude? literal

/-! ## Constant expressions -/

/-- The value of one operand: `iota` or a literal, with parentheses and blanks around it. -/
def operand? (iota : Int64) (text : List Char) : Option Int64 :=
  let inner := trim (dropEndWhile (· = ')') ((trim text).dropWhile (· = '(')))
  if inner = "iota".toList then some iota else intLiteral? inner

/-- `a` shifted left by `amount`, if `amount` is one of `0, …, 63`. -/
def shiftLeft? (a amount : Int64) : Option Int64 :=
  if 0 ≤ amount ∧ amount < 64 then some (a <<< amount) else none

/-- The operators that may join two operands, in the order in which they are looked for. -/
def arithmetic : List (Char × (Int → Int → Int)) :=
  [('+', (· + ·)), ('-', (· - ·)), ('*', (· * ·))]

/-- The text on both sides of the first `op`, if the left side is not blank. -/
def splitOperator? (op : Char) (text : List Char) : Option (List Char × List Char) :=
  (splitOnce? [op] (trim text)).filter fun (left, _) => ! (trim left).isEmpty

/-- The value of two operands joined by the first of the operators that occurs in the text. -/
def joined? (iota : Int64) (text : List Char) :
    List (Char × (Int → Int → Int)) → Option Int64
  | [] => none
  | (op, f) :: ops =>
    match splitOperator? op text with
    | none => joined? iota text ops
    | some (left, right) => do
      let a ← operand? iota left
      let b ← operand? iota right
      toInt64? (f a.toInt b.toInt)

/-- The value of a constant expression at the given `iota`. -/
def constant? (iota : Int64) (text : List Char) : Option Int64 :=
  match operand? iota text with
  | some value => some value
  | none =>
    match splitOnce? ['<', '<'] text with
    | some (left, right) => do
      let a ← operand? iota left
      let n ← operand? iota right
      shiftLeft? a n
    | none => joined? iota text arithmetic

end ProviderGlue.Go
