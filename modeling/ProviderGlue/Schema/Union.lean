import ProviderGlue.Shape
import ProviderGlue.Text.Numeral

/-!
# Unions

A union is a struct with a field for each type that its value may have.  The names of such fields
tell apart the members for results from those for errors.
-/

namespace ProviderGlue.Schema

open Text Unicode

/-- What the names of union members start with. -/
def unionMark : List Char := "oneOfType".toList

/-- Whether a name is that of a union member. -/
def isUnionMember (name : String) : Bool := unionMark.isPrefixOf name.toList

/-- Whether a text mentions a status of a failed request: a 4 or 5 with two digits after it. -/
def mentionsErrorStatus : (text : List Char) → Bool
  | a :: b :: c :: cs =>
    ((a = '4' || a = '5') && isDecimalDigit b && isDecimalDigit c) || mentionsErrorStatus (b :: c :: cs)
  | _ => false

/-- Whether a union member stands for an error.  What follows the mark is a number, which is a
status then, or mentions one. -/
def isErrorBranch (name : String) : Bool :=
  let suffix := (afterPrefix? unionMark name.toList).getD name.toList
  match readBelow? 0x100000000 suffix with
  | some status => 400 ≤ status && status < 600
  | none => mentionsErrorStatus suffix

end ProviderGlue.Schema
