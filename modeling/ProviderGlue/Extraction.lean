import ProviderGlue.Catalog.Build
import ProviderGlue.ModuleCache
import ProviderGlue.Narrowing

/-!
# Extraction

From the sources of a module to its `Model`: the declarations are cataloged, the operations are
selected and narrowed, and their shapes are expanded.
-/

namespace ProviderGlue

/-- What is to be extracted. -/
structure Request where
  /-- The module, with a version if one is wanted. -/
  package : String
  /-- The package that is recorded if the module keeps its interface in a directory of its own. -/
  apiPackage : Option String := none
  /-- Which operations are kept. -/
  narrowing : Narrowing := .all

/-- What has been extracted. -/
structure Extraction where
  /-- The model. -/
  model : Model
  /-- The directory of the sources. -/
  directory : String
  /-- How many operations were selected. -/
  operationCount : Nat
  /-- How many structs are left in the catalog. -/
  typeCount : Nat

namespace ShapeField

mutual

/-- The types of a field and of all fields below it, by their declared names. -/
def types : ShapeField → List String
  | ⟨_, type, _, _, children, _, _⟩ => Go.baseName type :: listTypes children

/-- The types of fields and of all fields below them. -/
def listTypes : List ShapeField → List String
  | [] => []
  | f :: fs => f.types ++ listTypes fs

end

end ShapeField

namespace Extraction

/-- The enumerations that some operations mention, by name. -/
def mentionedEnums (operations : List ApiOperation) (enums : Table Enumeration) :
    List Enumeration :=
  let shapes := operations.flatMap fun o => o.request.toList ++ o.response.toList
  let types := shapes.flatMap fun s => ShapeField.listTypes s.fields
  (enums.filterKeys types.contains).values

/-- The methods of a catalog that are operations and are kept. -/
def select (isOperation : MethodTest) (narrowing : Narrowing) (c : Catalog) : List Go.Method :=
  (c.methods.filter isOperation).filter narrowing.keeps

/-- The catalog with only what the selected methods need. -/
def narrow (narrowing : Narrowing) (selected : List Go.Method) (c : Catalog) : Catalog :=
  if narrowing = .all then c else c.retain (c.types.closure selected)

/-- The extraction of a catalog. -/
def ofCatalog (isOperation : MethodTest) (narrowing : Narrowing)
    (package packagePath directory : String) (c : Catalog) : Extraction :=
  let selected := select isOperation narrowing c
  let c := narrow narrowing selected c
  let operations := selected.map c.types.operation
  { model := ⟨package, packagePath, operations, mentionedEnums operations c.enums⟩
    directory
    operationCount := selected.length
    typeCount := c.types.keys.length }

/-- The catalog of a directory, with the structs and enumerations of a directory `models` beside
it. -/
def catalogOf (read : Go.SourceFile.Reader) (tree : FileTree) (directory : String) :
    Except Failure Catalog := do
  let c ← Catalog.ofDirectoryWith read tree directory
  let models := (Path.parent? directory).map (Path.join · "models")
  match models with
  | none => .ok c
  | some models =>
    if tree.isDirectory models ∧ Path.components models ≠ Path.components directory then
      match Catalog.ofDirectoryWith read tree models with
      | .ok other => .ok (c.merge other)
      | .error _ => .ok c
    else .ok c

/-- The extraction of a directory whose source files are read by `read`. -/
def ofDirectoryWith (read : Go.SourceFile.Reader) (isOperation : MethodTest) (narrowing : Narrowing)
    (tree : FileTree) (package packagePath directory : String) : Except Failure Extraction := do
  let c ← catalogOf read tree directory
  .ok (ofCatalog isOperation narrowing package packagePath directory c)

/-- The extraction of a directory. -/
def ofDirectory (isOperation : MethodTest) (narrowing : Narrowing) (tree : FileTree)
    (package packagePath directory : String) : Except Failure Extraction :=
  ofDirectoryWith Go.SourceFile.read? isOperation narrowing tree package packagePath directory

/-- The extraction that a request asks for. -/
def run (isOperation : MethodTest) (cache : ModuleCache) (tree : FileTree) (r : Request) :
    Except Failure Extraction := do
  let m := ModuleSpec.ofIdentifier r.package
  let directory ← cache.locate tree m
  let api := Path.join directory "api"
  match r.apiPackage.filter (! ·.isEmpty) with
  | some packagePath =>
    if tree.isDirectory api then
      ofDirectory isOperation r.narrowing tree r.package packagePath api
    else ofDirectory isOperation r.narrowing tree r.package m.path directory
  | none => ofDirectory isOperation r.narrowing tree r.package m.path directory

end Extraction

end ProviderGlue
