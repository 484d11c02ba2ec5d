import ProviderGlue.Go.Declaration
import ProviderGlue.Go.Integer

/-!
# Constant declarations

A declaration lists specifications, numbered from zero by `iota`.  A specification without values
repeats the type and the expressions of the nearest one above that has values, its *governing*
specification.  Only constants of a named type whose expression has a value are kept.
-/

namespace ProviderGlue.Go

/-- One specification of a constant declaration. -/
structure ConstSpec where
  /-- What is declared: the names and the commas between them. -/
  slots : List String
  /-- The type, if one is written. -/
  type : Option String := none
  /-- The expressions, if there are any. -/
  values : Option (List String) := none
deriving DecidableEq, Inhabited

/-- The type and the expressions that govern a specification. -/
structure Governing where
  /-- The type, if one is written. -/
  type : Option String
  /-- The expressions. -/
  values : List String
deriving DecidableEq, Inhabited

namespace ConstSpec

/-- What governs a specification, given what governs the one above it. -/
def governedBy (above : Option Governing) (spec : ConstSpec) : Option Governing :=
  match spec.values with
  | some values => some ⟨spec.type, values⟩
  | none => above

/-- The constant that a name and an expression declare, unless the name is blank or the expression
has no value. -/
def pair? (type : String) (iota : Int64) (name value : String) : Option Constant :=
  if name = "_" then none else (constant? iota value.toList).map fun v => ⟨name, type, v⟩

/-- The constants that a specification declares under `governing`. -/
def declared (governing : Governing) (iota : Int64) (spec : ConstSpec) : List Constant :=
  match governing.type with
  | none => []
  | some type =>
    (spec.slots.zip governing.values).filterMap fun (name, value) => pair? type iota name value

/-- The constants of specifications of which the first has the number `iota`. -/
def constantsFrom (above : Option Governing) (iota : Int64) : List ConstSpec → List Constant
  | [] => []
  | spec :: specs =>
    let governing := spec.governedBy above
    (match governing with
      | none => []
      | some g => spec.declared g iota) ++ constantsFrom governing (iota + 1) specs

/-- The constants of a declaration in source order. -/
def constants (specs : List ConstSpec) : List Constant :=
  constantsFrom none 0 specs

end ConstSpec

end ProviderGlue.Go
