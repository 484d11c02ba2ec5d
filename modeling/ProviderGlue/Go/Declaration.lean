import ProviderGlue.Table

/-!
# Declarations of Go source

What is kept of a source file: its structs and methods, and the constants of named types.  Types
are kept as text.
-/

namespace ProviderGlue.Go

/-- The paths of imported packages by their aliases in one source file. -/
abbrev Imports := Table String

/-- A field of a struct. -/
structure Field where
  /-- The name, empty for an embedded field. -/
  name : String
  /-- The type as written, with single blanks. -/
  type : String
  /-- The tag with its quotes, empty if there is none. -/
  tag : String := ""
deriving DecidableEq, Inhabited

/-- Whether the field is embedded. -/
def Field.isEmbedded (f : Field) : Bool := f.name.isEmpty

/-- A struct declaration. -/
structure Struct where
  /-- The declared name. -/
  name : String
  /-- The fields in source order. -/
  fields : List Field
  /-- The path of the declaring file. -/
  file : String := ""
  /-- The imports of the declaring file. -/
  imports : Imports := ∅
deriving DecidableEq, Inhabited

/-- A parameter of a method. -/
structure Parameter where
  /-- The name, which may be empty. -/
  name : String
  /-- The type as written, with single blanks. -/
  type : String
deriving DecidableEq, Inhabited

/-- A method declaration. -/
structure Method where
  /-- The declared name. -/
  name : String
  /-- The type of the receiver without its pointer. -/
  owner : String
  /-- The path of the declaring file. -/
  file : String := ""
  /-- The parameters in order. -/
  params : List Parameter := []
  /-- The types of the results. -/
  returns : List String := []
  /-- The imports of the declaring file. -/
  imports : Imports := ∅
deriving DecidableEq, Inhabited

/-- A constant of a named type with an integer value. -/
structure Constant where
  /-- The declared name. -/
  name : String
  /-- The type as written. -/
  type : String
  /-- The value. -/
  value : Int64
deriving DecidableEq, Inhabited

end ProviderGlue.Go
