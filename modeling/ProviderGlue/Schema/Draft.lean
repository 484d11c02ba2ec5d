import ProviderGlue.Enumeration
import ProviderGlue.Go.TypeText
import ProviderGlue.Schema.Node
import ProviderGlue.Shape
import ProviderGlue.Table
import ProviderGlue.Text.Case
import ProviderGlue.Text.Numbered

/-!
# Drafts of a plan

What the nodes of a schema call for in the code around them: functions that flatten structs, tables
that name the values of enumerations, and aliases of packages.  A `Draft` collects all three while
nodes are made.  Functions and tables take their names from one set, and a path has one alias.
-/

namespace ProviderGlue.Schema

open Text Go

/-- The member of a union whose fields are read. -/
structure UnionBranch where
  /-- The type of the union's value. -/
  type : String
  /-- Whether that type is a slice. -/
  isSlice : Bool
deriving DecidableEq

/-- A function that flattens a struct. -/
structure FlattenFunction where
  /-- The name of the function. -/
  name : String
  /-- The type that the function takes a pointer to. -/
  type : String
  /-- The member whose fields are read, if the struct holds a union. -/
  union : Option UnionBranch
  /-- What is read. -/
  fields : List Node
deriving DecidableEq

/-- A table with the names of an enumeration's values, and the function that looks them up. -/
structure EnumTable where
  /-- The name of the function. -/
  flatten : String
  /-- The name of the table. -/
  table : String
  /-- The type of the values. -/
  type : String
  /-- The enumeration. -/
  enumeration : Enumeration
deriving DecidableEq

/-- The package that a type is declared in. -/
structure Package where
  /-- The import path, if it is known. -/
  path : Option String
  /-- The preferred alias. -/
  preferred : Option String
deriving DecidableEq

/-- The package of the types that a field leads to, where `outer` is that of the field itself. -/
def Package.below (outer : Package) (f : ShapeField) : Package :=
  match f.importAlias with
  | some name => ⟨f.importPath, some name⟩
  | none => outer

/-- What nodes call for. -/
structure Draft where
  /-- The aliases of packages, by import path. -/
  aliases : Table String := {}
  /-- The names that are taken. -/
  names : List String := []
  /-- The functions, the latest first. -/
  functions : List FlattenFunction := []
  /-- The tables, by the types of their values. -/
  tables : Table EnumTable := {}

namespace Draft

/-! ## Aliases -/

/-- The alias of an import path: the one it has, or else the preferred one if that is free, or else
the first free one of `import1`, `import2` and so on. -/
def aliasFor (path : String) (preferred : Option String) : StateM Draft String := do
  let d ← get
  match d.aliases.get? path with
  | some name => return name
  | none =>
    let taken := d.aliases.values
    let name := match preferred with
      | some name =>
        if name ∈ taken then firstFree (numbered 0 "" "import") 1 taken else name
      | none => firstFree (numbered 0 "" "import") 1 taken
    set { d with aliases := d.aliases.insert path name }
    return name

/-- The declared name of a field's type with the alias of its package.  There is none if the type
is written with a package whose path is not known. -/
def qualified? (outer : Package) (f : ShapeField) : StateM Draft (Option String) := do
  let base := baseName f.type
  let element := TypeText.elementType f.type.toList
  if '.' ∈ element then
    match (TypeText.importAlias? element).map String.ofList, f.importPath with
    | some name, some path => return some ((← aliasFor path (some name)) ++ "." ++ base)
    | _, _ => return none
  else
    match outer.path with
    | some path => return some ((← aliasFor path outer.preferred) ++ "." ++ base)
    | none => return some base

/-- The type of the value of a union whose member is `f`. -/
def unionType? (outer : Package) (f : ShapeField) : StateM Draft (Option String) := do
  let type ← qualified? outer f
  let wrapping := match TypeText.sliceElement? f.type.toList with
    | some ('*' :: _) => "[]*"
    | some _ => "[]"
    | none => ""
  return type.map (wrapping ++ ·)

/-! ## Functions and tables -/

/-- Takes a name: the base, or the base with the least number from 2 on that makes it free. -/
def takeName (base : String) : StateM Draft String := do
  let d ← get
  let name := firstFree (numbered 2 "" base) 1 d.names
  set { d with names := name :: d.names }
  return name

/-- The name of a function that flattens a struct: one function serves all structs with the same
type, union and fields. -/
def flattenFor (type : String) (union : Option UnionBranch) (fields : List Node) :
    StateM Draft String := do
  let d ← get
  match d.functions.find? fun f => f.type = type ∧ f.union = union ∧ f.fields = fields with
  | some f => return f.name
  | none =>
    let name ← takeName ("flatten" ++ onChars capitalize (baseName type))
    modify fun d => { d with functions := ⟨name, type, union, fields⟩ :: d.functions }
    return name

/-- The name of the function that flattens the values of an enumeration: there is one for each
type. -/
def enumFlattenFor (e : Enumeration) (type : String) : StateM Draft String := do
  let d ← get
  match d.tables.get? type with
  | some t => return t.flatten
  | none =>
    let flatten ← takeName ("flatten" ++ onChars capitalize e.name)
    let table ← takeName (onChars lowerFirst e.name ++ "Names")
    modify fun d => { d with tables := d.tables.insert type ⟨flatten, table, type, e⟩ }
    return flatten

end Draft

end ProviderGlue.Schema
