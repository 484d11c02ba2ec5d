import ProviderGlue.Enumeration
import ProviderGlue.Shape
import ProviderGlue.Go.Declaration
import ProviderGlue.Json.Layout

/-!
# Extracted models

A `Model` is what an extraction finds out about a module: its operations, with the shapes of their
requests and responses, and the enumerations that the shapes mention.  It is handed on as a JSON
document: `toJson` gives the document, `text` its text, and `read?` reads a text back.
-/

namespace ProviderGlue

/-- The method behind an operation. -/
structure ApiMethod where
  /-- The name. -/
  name : String
  /-- The type that the method belongs to. -/
  owner : String
  /-- The declaring file. -/
  file : String
  /-- The parameters. -/
  params : List Go.Parameter := []
deriving DecidableEq, Inhabited

/-- An operation of the module's interface. -/
structure ApiOperation where
  /-- The method. -/
  method : ApiMethod
  /-- The shape of the request, if there is a known one. -/
  request : Option Shape := none
  /-- The shape of the response, if there is a known one. -/
  response : Option Shape := none
deriving BEq, Inhabited

/-- What is known about a module. -/
structure Model where
  /-- The module as requested, with its version. -/
  package : String
  /-- The path of the module or of a package in it, without version. -/
  packagePath : String
  /-- The operations. -/
  operations : List ApiOperation := []
  /-- The enumerations that the shapes mention. -/
  enums : List Enumeration := []
deriving BEq, Inhabited

/-- The first operation of a name. -/
def Model.operation? (m : Model) (name : String) : Option ApiOperation :=
  m.operations.find? (·.method.name == name)

/-- The first enumeration of a name. -/
def Model.enum? (m : Model) (name : String) : Option Enumeration :=
  m.enums.find? (·.name == name)

/-! ## The layout of a model document -/

/-- The records of a model document. -/
inductive ModelRecord where
  | model | operation | method | parameter | shape | field | enumeration | variant
deriving DecidableEq

namespace ModelRecord

/-- The names of the records. -/
def name : ModelRecord → String
  | model => "IntermediateModel"
  | operation => "ApiOperation"
  | method => "ApiMethod"
  | parameter => "Parameter"
  | shape => "ResolvedShape"
  | field => "ResolvedField"
  | enumeration => "EnumRecord"
  | variant => "EnumVariant"

/-- A text member. -/
def text (key : String) (required : Bool) : Json.Member ModelRecord :=
  { key, content := .text, required }

/-- A text member that may be null. -/
def nullableText (key : String) : Json.Member ModelRecord :=
  { key, content := .text, nullable := true }

/-- The members of the records. -/
def members : ModelRecord → List (Json.Member ModelRecord)
  | model => [text "package" true, text "package_path" true,
      { key := "api_request_response_struct", content := .list operation },
      { key := "enums", content := .list enumeration }]
  | operation => [{ key := "api_method", content := .record method, required := true },
      { key := "request_struct", content := .record shape, nullable := true },
      { key := "response_struct", content := .record shape, nullable := true }]
  | method => [text "name" true, text "receiver" true, text "file" true,
      { key := "params", content := .list parameter }]
  | parameter => [text "name" true, text "type" true]
  | shape => [text "name" true, text "type" true, text "file" false,
      { key := "fields", content := .list field },
      nullableText "import_alias", nullableText "import_path"]
  | field => [text "name" true, text "type" true, text "tag" false,
      { key := "is_struct", content := .flag },
      { key := "fields", content := .list field },
      nullableText "import_alias", nullableText "import_path"]
  | enumeration => [text "name" true, text "file" false,
      { key := "variants", content := .list variant, required := true }]
  | variant => [text "name" true, { key := "ordinal", content := .word, required := true }]

/-- The layout of a model document. -/
def layout : Json.Layout ModelRecord := ⟨name, members⟩

end ModelRecord

/-! ## From and to JSON -/

open Json (Value)

namespace ModelRecord

/-- A member that is left out if it holds nothing. -/
def unlessEmpty (isEmpty : Bool) (key : String) (v : Value) : List (String × Value) :=
  if isEmpty then [] else [(key, v)]

/-- A member that is left out if there is no value. -/
def ifSome (key : String) : Option Value → List (String × Value)
  | none => []
  | some v => [(key, v)]

/-- The members for the package of a type. -/
def importMembers (importAlias importPath : Option String) : List (String × Value) :=
  ifSome "import_alias" (importAlias.map .text) ++ ifSome "import_path" (importPath.map .text)

end ModelRecord

open ModelRecord (unlessEmpty ifSome importMembers)

namespace Go.Parameter

/-- The JSON value of a parameter. -/
def toJson (p : Parameter) : Value := .object [("name", .text p.name), ("type", .text p.type)]

/-- The parameter of a JSON value. -/
def ofJson (v : Value) : Parameter := ⟨v.textAt "name", v.textAt "type"⟩

end Go.Parameter

namespace ShapeField

mutual

/-- The JSON value of a field. -/
def toJson : ShapeField → Value
  | ⟨name, type, tag, isComposite, children, importAlias, importPath⟩ =>
    .object ([("name", .text name), ("type", .text type)] ++
      unlessEmpty tag.isEmpty "tag" (.text tag) ++
      unlessEmpty (! isComposite) "is_struct" (.flag isComposite) ++
      unlessEmpty children.isEmpty "fields" (.list (listToJson children)) ++
      importMembers importAlias importPath)

/-- The JSON values of fields. -/
def listToJson : List ShapeField → List Value
  | [] => []
  | f :: fs => f.toJson :: listToJson fs

end

/-- The field of a JSON value. -/
def ofJson (v : Value) : ShapeField :=
  { name := v.textAt "name"
    type := v.textAt "type"
    tag := v.textAt "tag"
    isComposite := v.flagAt "is_struct"
    children := (v.itemsAt "fields").attach.map fun ⟨w, _⟩ => ofJson w
    importAlias := v.textAt? "import_alias"
    importPath := v.textAt? "import_path" }
termination_by v
decreasing_by exact Value.sizeOf_itemsAt ‹_›

end ShapeField

namespace Shape

/-- The JSON value of a shape. -/
def toJson (s : Shape) : Value :=
  .object ([("name", .text s.name), ("type", .text s.type)] ++
    unlessEmpty s.file.isEmpty "file" (.text s.file) ++
    [("fields", .list (s.fields.map ShapeField.toJson))] ++
    importMembers s.importAlias s.importPath)

/-- The shape of a JSON value. -/
def ofJson (v : Value) : Shape where
  name := v.textAt "name"
  type := v.textAt "type"
  file := v.textAt "file"
  fields := (v.itemsAt "fields").map ShapeField.ofJson
  importAlias := v.textAt? "import_alias"
  importPath := v.textAt? "import_path"

end Shape

namespace ApiMethod

/-- The JSON value of a method. -/
def toJson (m : ApiMethod) : Value :=
  .object [("name", .text m.name), ("receiver", .text m.owner), ("file", .text m.file),
    ("params", .list (m.params.map Go.Parameter.toJson))]

/-- The method of a JSON value. -/
def ofJson (v : Value) : ApiMethod where
  name := v.textAt "name"
  owner := v.textAt "receiver"
  file := v.textAt "file"
  params := (v.itemsAt "params").map Go.Parameter.ofJson

end ApiMethod

namespace ApiOperation

/-- The JSON value of an operation. -/
def toJson (o : ApiOperation) : Value :=
  .object ([("api_method", o.method.toJson)] ++
    ifSome "request_struct" (o.request.map Shape.toJson) ++
    ifSome "response_struct" (o.response.map Shape.toJson))

/-- The operation of a JSON value. -/
def ofJson (v : Value) : ApiOperation where
  method := ((v.objectAt? "api_method").map ApiMethod.ofJson).getD default
  request := (v.objectAt? "request_struct").map Shape.ofJson
  response := (v.objectAt? "response_struct").map Shape.ofJson

end ApiOperation

namespace Variant

/-- The JSON value of a variant. -/
def toJson (x : Variant) : Value := .object [("name", .text x.name), ("ordinal", .word x.ordinal)]

/-- The variant of a JSON value. -/
def ofJson (v : Value) : Variant := ⟨v.textAt "name", v.wordAt "ordinal"⟩

end Variant

namespace Enumeration

/-- The JSON value of an enumeration. -/
def toJson (e : Enumeration) : Value :=
  .object ([("name", .text e.name)] ++ unlessEmpty e.file.isEmpty "file" (.text e.file) ++
    [("variants", .list (e.variants.map Variant.toJson))])

/-- The enumeration of a JSON value. -/
def ofJson (v : Value) : Enumeration where
  name := v.textAt "name"
  file := v.textAt "file"
  variants := (v.itemsAt "variants").map Variant.ofJson

end Enumeration

namespace Model

/-- The JSON value of a model. -/
def toJson (m : Model) : Value :=
  .object ([("package", .text m.package), ("package_path", .text m.packagePath),
      ("api_request_response_struct", .list (m.operations.map ApiOperation.toJson))] ++
    unlessEmpty m.enums.isEmpty "enums" (.list (m.enums.map Enumeration.toJson)))

/-- The model of a JSON value. -/
def ofJson (v : Value) : Model where
  package := v.textAt "package"
  packagePath := v.textAt "package_path"
  operations := (v.itemsAt "api_request_response_struct").map ApiOperation.ofJson
  enums := (v.itemsAt "enums").map Enumeration.ofJson

/-- The text of a model document. -/
def text (m : Model) : List Char := m.toJson.pretty 0

/-- The model that a text holds. -/
def read? (text : List Char) : Except Failure Model :=
  match ModelRecord.layout.read .model text with
  | .ok v => .ok (ofJson v)
  | .error fault => .error (.model text fault)

end Model

end ProviderGlue
