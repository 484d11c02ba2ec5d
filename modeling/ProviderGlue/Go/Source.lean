import ProviderGlue.Go.Constants
import ProviderGlue.Go.TypeText
import ProviderGlue.Go.Grammar.Rules

/-!
# Source files

`SourceFile.read?` reads the declarations of a source file, and refuses a text with any syntax
error.  What counts are the nodes at the top of the file; any parser of Go can give them
(`SourceFile.readWith`).  Imports count only under aliases of the form `importN`, and all records of a
file see all of them.  Methods that only serve serialization are left out.
-/

namespace ProviderGlue.Go

open Text Grammar

/-- The declarations of one source file, each kind in source order. -/
structure SourceFile where
  /-- The path of the file. -/
  path : String
  /-- The imports under aliases of the form `importN`. -/
  imports : Imports := ∅
  /-- The structs. -/
  structs : List Struct := []
  /-- The methods. -/
  methods : List Method := []
  /-- The names declared for integer types. -/
  integerTypes : List String := []
  /-- The constants of named types. -/
  constants : List Constant := []

namespace SourceFile

/-- The methods that every generated type has for its serialization. -/
def plumbing : List String :=
  ["UnmarshalJSON", "MarshalJSON", "SetValue", "GetValue", "SetData", "GetData"]

/-- The predeclared integer types. -/
def integerNames : List String :=
  ["int", "int8", "int16", "int32", "int64", "uint", "uint8", "uint16", "uint32", "uint64"]

/-- A marked node of a source file. -/
abbrev Node := Grammar.Tree Kind

/-- The text of a node as a string. -/
def asWritten (node : Node) : String := String.ofList node.text

/-- The text of a node with single blanks. -/
def normalized (node : Node) : String := String.ofList (TypeText.normalize node.text)

/-- The kinds of nodes that stand for types. -/
def isType (node : Node) : Bool :=
  [Kind.structType, .typeName, .pointerType, .genericType, .otherType].any node.is

/-- The type inside a node. -/
def type? (node : Node) : Option Node := node.children.find? isType

/-- The names directly inside a node. -/
def names (node : Node) : List String := (node.all .name).map asWritten

/-! ## Imports -/

/-- The alias and the path of an import that counts. -/
def import? (spec : Node) : Option (String × String) := do
  let name ← spec.first? .name
  let path ← spec.first? .path
  let isQuote (c : Char) := c = '"' || c = Lexeme.rawQuote
  if TypeText.isImportAlias name.text then
    some (asWritten name, String.ofList (dropEndWhile isQuote (path.text.dropWhile isQuote)))
  else none

/-! ## Structs -/

/-- The fields that a field declaration declares. -/
def fieldsOf (decl : Node) : List Field :=
  match decl.first? .embedded with
  | some embedded => [{ name := "", type := normalized embedded }]
  | none =>
    match type? decl with
    | none => []
    | some type =>
      let tag := ((decl.first? .tag).map asWritten).getD ""
      (names decl).map fun name => { name, type := normalized type, tag }

/-! ## Methods -/

/-- An entry of a parameter list: its name if it has one, its type, and whether the type stands
alone as a plain word. -/
structure Entry where
  /-- The name, or the empty string. -/
  name : String
  /-- The type with single blanks. -/
  type : String
  /-- Whether the entry is a plain word, which may be a name for the type of a later entry. -/
  isWord : Bool

/-- An entry of a parameter list. -/
def entry? (node : Node) : Option Entry := do
  let type ← type? node
  let name := ((node.first? .name).map asWritten).getD ""
  if node.is .variadic then some ⟨name, "..." ++ normalized type, false⟩
  else if node.is .parameter then
    some ⟨name, normalized type, name.isEmpty && type.is .typeName⟩
  else none

/-- The type that the entries give to the words in front of them: that of the first entry which is
no word, if it has a name and is not variadic. -/
def sharedType? : List Entry → Option String
  | [] => none
  | e :: es =>
    if e.isWord then sharedType? es
    else if e.name.isEmpty || "...".toList.isPrefixOf e.type.toList then none
    else some e.type

/-- The parameters of a list of entries. -/
def parametersOf : List Entry → List Parameter
  | [] => []
  | e :: es =>
    (match if e.isWord then sharedType? es else none with
      | some type => ⟨e.type, type⟩
      | none => ⟨e.name, e.type⟩) :: parametersOf es

/-- The parameters of a node that holds a parameter list. -/
def parameters (node : Node) : List Parameter :=
  parametersOf (node.children.filterMap entry?)

/-- The name of the type that a receiver belongs to. -/
def owner? (receiver : Node) : Option String := do
  let decl ← receiver.first? .parameter
  let type ← type? decl
  let pointee ← if type.is .pointerType then type.children.head? else some type
  let named ← if pointee.is .genericType then type? pointee else some pointee
  some (String.ofList (named.text.dropWhile (· = '*')))

/-- The types of the results of a method. -/
def returns (node : Node) : List String :=
  match node.first? .results, (node.first? .result).bind type? with
  | some list, _ => (parameters list).map (·.type)
  | none, some type => [normalized type]
  | none, none => []

/-- The method that a node declares, unless it only serves serialization. -/
def method? (path : String) (imports : Imports) (node : Node) : Option Method := do
  let name ← (node.first? .name).map asWritten
  if plumbing.contains name then none else
    let owner ← (node.first? .receiver).bind owner?
    some {
      name, owner, file := path, imports
      params := ((node.first? .parameters).map parameters).getD []
      returns := returns node }

/-! ## Constants -/

/-- A specification of constants. -/
def constSpec (node : Node) : ConstSpec where
  slots := (node.children.filter fun n => n.is .name || n.is .separator).map asWritten
  type := (type? node).map asWritten
  values := (node.first? .values).map fun values => values.children.map asWritten

/-! ## Files -/

/-- Adds the declarations of a node to those of the file. -/
def add (file : SourceFile) (node : Node) : SourceFile :=
  match node with
  | .node .typeSpec _ _ =>
    match (node.first? .name).map asWritten, type? node with
    | some name, some type =>
      if type.is .structType then
        let fields := (type.all .field).flatMap fieldsOf
        { file with
          structs := file.structs ++ [{ name, fields, file := file.path, imports := file.imports }] }
      else if type.is .typeName && integerNames.contains (asWritten type) then
        { file with integerTypes := file.integerTypes ++ [name] }
      else file
    | _, _ => file
  | .node .method _ _ =>
    { file with methods := file.methods ++ (method? file.path file.imports node).toList }
  | .node .constants _ _ =>
    { file with
      constants := file.constants ++ ConstSpec.constants ((node.all .constSpec).map constSpec) }
  | _ => file

/-- The declarations of a source file with these nodes at its top. -/
def ofNodes (path : String) (nodes : List Node) : SourceFile :=
  let imports := Table.ofList ((nodes.filter (·.is .importSpec)).filterMap import?)
  nodes.foldl add { path, imports }

/-- How source files are read: from the path and the text to the declarations, or to nothing if the
text has syntax errors. -/
abbrev Reader := (path : String) → (text : List Char) → Option SourceFile

/-- Reads source files whose nodes are given by `parse`. -/
def readWith (parse : (text : List Char) → Option (List Node)) : Reader :=
  fun path text => (parse text).map (ofNodes path)

/-- Reads source files by the grammar. -/
def read? : Reader := readWith sourceFile?

end SourceFile

end ProviderGlue.Go
