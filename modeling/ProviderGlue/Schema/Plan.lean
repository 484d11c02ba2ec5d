import ProviderGlue.Schema.Draft
import ProviderGlue.Schema.Union
import ProviderGlue.Text.Case

/-!
# Plans

A `Plan` says what a data source for a shape consists of: the nodes of its schema, the functions
that flatten the values of the shape to these nodes, and the tables and imports that these functions
need.  The schema and the functions come from the same nodes, so they agree on the keys.

* A field whose type is a known struct gives a node with nodes below it and a function.
* A union gives no node for its members.  The fields of its first usable member take the member's
  place, and are read from the value of the union.
* Keys are the names of fields in snake case.  Where a key repeats in a scope, it is numbered.
-/

namespace ProviderGlue.Schema

open Text Go

/-- What a flatten function is called with. -/
structure RootCall where
  /-- The name of the function. -/
  flatten : String
  /-- The argument. -/
  argument : String
deriving DecidableEq

/-- An import of a package. -/
structure Import where
  /-- The alias. -/
  name : String
  /-- The path. -/
  path : String
deriving DecidableEq

/-- What a data source consists of. -/
structure Plan where
  /-- The schema. -/
  root : List Node
  /-- The call that flattens a response. -/
  rootCall : Option RootCall
  /-- The functions, each before those that it calls. -/
  functions : List FlattenFunction
  /-- The tables, in the order of the types of their values. -/
  tables : List EnumTable
  /-- The imports, in the order of their paths. -/
  imports : List Import

/-! ## Fields -/

/-- The name that selects a field.  An embedded field is selected by the name of its type. -/
def selector (f : ShapeField) : String :=
  if f.name.isEmpty then baseName f.type else f.name

/-- The key for a name in a scope with some keys taken. -/
def keyFor (taken : List String) (name : String) : String :=
  firstFree (numbered 2 "_" (onChars snakeCase name)) 1 taken

/-- How a struct is held by a field of a type. -/
def access (type : List Char) : Access :=
  match TypeText.sliceElement? type with
  | some ('*' :: _) => .slice true
  | some _ => .slice false
  | none => if TypeText.isPointer type then .pointer else .value

/-- The enumeration of a name; of several the last counts. -/
def enumNamed? (enums : List Enumeration) (name : String) : Option Enumeration :=
  (enums.filter (·.name = name)).getLast?

/-- What a field holds whose type is neither a known struct nor an enumeration. -/
def plainKind (type : List Char) : NodeKind :=
  let pointer := TypeText.isPointer type
  let element := TypeText.sliceElement? type
  if TypeText.isTime type then
    if element.isSome then .unfilled else .time pointer
  else if TypeText.isMap type then .map pointer
  else
    match element with
    | some element =>
      match ValueType.ofBasic? (String.ofList (element.dropWhile (· = '*'))) with
      | some basic => .scalarList basic (['*'].isPrefixOf element)
      | none => .unfilled
    | none =>
      match ValueType.ofBasic? (String.ofList (TypeText.unpointed type)) with
      | some basic => .scalar basic pointer
      | none => .unfilled

/-- What a field holds whose values are of an enumeration. -/
def enumKind (e : Enumeration) (outer : Package) (f : ShapeField) : StateM Draft NodeKind := do
  let type := f.type.toList
  if TypeText.isMap type then return .unfilled
  match ← Draft.qualified? outer f with
  | none => return .unfilled
  | some name =>
    let flatten ← Draft.enumFlattenFor e name
    match TypeText.sliceElement? type with
    | some element => return .enumList flatten (['*'].isPrefixOf element)
    | none => return .enum flatten (TypeText.isPointer type)

/-- What a field holds whose type is no known struct. -/
def leafKind (enums : List Enumeration) (outer : Package) (f : ShapeField) :
    StateM Draft NodeKind := do
  match enumNamed? enums (baseName f.type) with
  | some e =>
    if TypeText.isTime f.type.toList then return plainKind f.type.toList
    else enumKind e outer f
  | none => return plainKind f.type.toList

/-- Whether a member of a union can take the place of the union. -/
def isResultBranch (f : ShapeField) : Bool :=
  ! isErrorBranch f.name && f.isComposite && ! f.children.isEmpty

/-- What a field with a known struct as its type holds, given the nodes below it. -/
def objectKind (outer : Package) (f : ShapeField) (children : List Node)
    (union : Option UnionBranch) : StateM Draft (NodeKind × List Node) := do
  if children.isEmpty then return (.unfilled, [])
  match ← Draft.qualified? outer f with
  | none => return (.unfilled, [])
  | some type =>
    let flatten ← Draft.flattenFor type union children
    return (.object flatten (access f.type.toList), children)

/-! ## Scopes -/

mutual

/-- What a field holds, and the nodes below it; `reserved` are keys that these cannot have. -/
def content (enums : List Enumeration) (reserved : List String) (outer : Package) :
    ShapeField → StateM Draft (NodeKind × List Node)
  | f@⟨_, type, _, isComposite, children, _, _⟩ => do
    if isComposite then
      if children.isEmpty ∨ TypeText.isMap type.toList then return (.unfilled, [])
      let (nodes, union) ← scope enums reserved false (outer.below f) children
      objectKind outer f nodes union
    else return (← leafKind enums outer f, [])

/-- The nodes of a scope, with the member that takes the place of a union; `spliced` tells whether
an earlier field did so. -/
def scope (enums : List Enumeration) (taken : List String) (spliced : Bool) (outer : Package) :
    List ShapeField → StateM Draft (List Node × Option UnionBranch)
  | [] => return ([], none)
  | f :: fs => do
    if isUnionMember f.name then
      match ← if spliced then pure none else member enums taken outer f with
      | none => scope enums taken spliced outer fs
      | some (nodes, union) =>
        let (rest, _) ← scope enums (nodes.map (·.key) ++ taken) true outer fs
        return (nodes ++ rest, some union)
    else
      let key := keyFor taken (selector f)
      let (kind, below) ← content enums [] outer f
      let (rest, union) ← scope enums (key :: taken) spliced outer fs
      return (⟨key, selector f, .receiver, kind, below⟩ :: rest, union)

/-- The nodes that take the place of a union, if its member `f` gives any. -/
def member (enums : List Enumeration) (taken : List String) (outer : Package) :
    ShapeField → StateM Draft (Option (List Node × UnionBranch))
  | f@⟨_, _, _, _, children, _, _⟩ => do
    if ! isResultBranch f then return none
    match ← Draft.unionType? outer f with
    | none => return none
    | some type =>
      let nodes ← branch enums taken (outer.below f) children
      if nodes.isEmpty then return none
      return some (nodes, ⟨type, "[]".toList.isPrefixOf type.toList⟩)

/-- The nodes for the fields of a union member. -/
def branch (enums : List Enumeration) (taken : List String) (outer : Package) :
    List ShapeField → StateM Draft (List Node)
  | [] => return []
  | f :: fs => do
    if isUnionMember f.name then branch enums taken outer fs
    else
      let key := keyFor taken (selector f)
      let (kind, below) ← content enums [] outer f
      let rest ← branch enums (key :: taken) outer fs
      return ⟨key, selector f, .union, kind, below⟩ :: rest

end

/-! ## The plan of a shape -/

namespace Plan

/-- The field that wraps the payload of a response, if the first field does. -/
def envelope? (s : Shape) : Option ShapeField :=
  s.fields.head?.filter fun f =>
    f.isComposite && ! f.children.isEmpty &&
      ! TypeText.isSlice f.type.toList && ! TypeText.isMap f.type.toList

/-- The field whose nodes form the schema, and how it is reached in a response. -/
def payload (s : Shape) : ShapeField × String :=
  match envelope? s with
  | some f =>
    (f, (if TypeText.isPointer f.type.toList then "resp." else "&resp.") ++ selector f)
  | none =>
    ({ name := s.name, type := "*" ++ s.name, isComposite := true, children := s.fields }, "resp")

/-- The types that the code of a draft mentions. -/
def mentionedTypes (d : Draft) : List String :=
  d.functions.flatMap (fun f => f.type :: (f.union.map (·.type)).toList) ++
    d.tables.values.map (·.type)

/-- The packages that the code of a draft mentions. -/
def mentionedPackages (d : Draft) : List String :=
  (mentionedTypes d).flatMap fun type =>
    (TypeText.qualifiers type.toList).map String.ofList

/-- The plan for a shape; `reserved` are keys that the schema has already. -/
def build (s : Shape) (enums : List Enumeration) (reserved : List String) : Plan :=
  let (f, argument) := payload s
  let ((kind, root), d) := (content enums reserved ⟨s.importPath, s.importAlias⟩ f).run {}
  let packages := mentionedPackages d
  { root
    rootCall := match kind with
      | .object flatten _ => some ⟨flatten, argument⟩
      | _ => none
    functions := d.functions
    tables := d.tables.values
    imports := d.aliases.entries.filterMap fun (path, name) =>
      if packages.contains name then some ⟨name, path⟩ else none }

/-- Whether the code reports errors of its own. -/
def reportsErrors (p : Plan) : Bool :=
  ! p.tables.isEmpty || p.functions.any (·.union.isSome)

end Plan

end ProviderGlue.Schema
