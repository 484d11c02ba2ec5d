/-!
# Shapes

A shape is a struct with its fields expanded: below each field whose type is a known struct stand
the fields of that type.  An import alias and the path behind it tell where the type of a field or
shape is declared.
-/

namespace ProviderGlue

/-- A field of a shape, with the fields of its type. -/
structure ShapeField where
  /-- The name, empty for an embedded field. -/
  name : String
  /-- The type as written. -/
  type : String
  /-- The tag with its quotes, empty if there is none. -/
  tag : String := ""
  /-- Whether the type is a known struct. -/
  isComposite : Bool := false
  /-- The fields of the type. -/
  children : List ShapeField := []
  /-- The alias under which the package of the type is imported. -/
  importAlias : Option String := none
  /-- The path of that package. -/
  importPath : Option String := none
deriving BEq, Inhabited

/-- A struct with its fields expanded. -/
structure Shape where
  /-- The name of the struct. -/
  name : String
  /-- The type as written. -/
  type : String
  /-- The declaring file, empty if unknown. -/
  file : String := ""
  /-- The fields. -/
  fields : List ShapeField := []
  /-- The alias under which the package of the struct is imported. -/
  importAlias : Option String := none
  /-- The path of that package. -/
  importPath : Option String := none
deriving BEq, Inhabited

end ProviderGlue
