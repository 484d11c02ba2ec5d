import ProviderGlue.Failure

/-!
# Enumerations

Named types whose values are integers with symbolic names.  Ordinals may repeat; `symbolFor` gives
the name of the first variant with an ordinal.
-/

namespace ProviderGlue

/-- A named value of an enumeration. -/
structure Variant where
  /-- The symbolic name. -/
  name : String
  /-- The value. -/
  ordinal : Int64
deriving DecidableEq, Inhabited

/-- An enumeration with its variants in the order of their declaration. -/
structure Enumeration where
  /-- The name of the type. -/
  name : String
  /-- The file that declares the type, empty if unknown. -/
  file : String := ""
  /-- The variants. -/
  variants : List Variant
deriving DecidableEq, Inhabited

namespace Enumeration

/-- The symbolic name of an ordinal. -/
def symbolFor (e : Enumeration) (ordinal : Int64) : Except Failure String :=
  match e.variants.find? (·.ordinal == ordinal) with
  | some variant => .ok variant.name
  | none => .error (.noVariant e.name ordinal)

end Enumeration

end ProviderGlue
