import ProviderGlue.Client
import ProviderGlue.DataSource.Names
import ProviderGlue.Schema.Layout
import ProviderGlue.Schema.Plan
import ProviderGlue.Schema.Statement

/-!
# Data sources

The data source for an operation looks an object up by its external identifier: it calls the
operation through the client of the namespace, and flattens the response into the values of the
schema.
-/

namespace ProviderGlue

open Text Go Schema

/-- A data source. -/
structure DataSource where
  /-- The names around it. -/
  names : DataSource.Names
  /-- What it consists of. -/
  plan : Plan
  /-- The field of the client that holds the operations of the type. -/
  apiField : String
  /-- The operation. -/
  method : String
  /-- The module of the provider. -/
  providerModule : String
  /-- The layout of written times. -/
  timeLayout : String

namespace DataSource

/-- The key of the identifier that objects are looked up by. -/
def lookupKey : String := "ext_id"

/-- The package of data sources for a model, if none is given. -/
def defaultPackage (m : Model) : Except Failure String := do
  return (← namespaceToken m.packagePath) ++ "v2"

/-- The field that holds the operations of a type in the client for a model. -/
def apiFieldFor (m : Model) (owner : String) : String :=
  match (clientFields m.owners).find? (·.type = owner) with
  | some f => f.name
  | none => fieldNameFor owner

/-- The data source for an operation of a model.  An empty package stands for the default one. -/
def ofModel (s : Settings) (m : Model) (method : String) (package : Option String) :
    Except Failure DataSource := do
  let some operation := m.operation? method | .error (.noOperation method)
  let some shape := operation.response | .error (.noResponse method)
  let package ← match package.filter (! ·.isEmpty) with
    | some package => pure package
    | none => defaultPackage m
  return {
    names := .ofOperation s.provider package method
    plan := .build shape m.enums [lookupKey]
    apiField := apiFieldFor m operation.method.owner
    method := operation.method.name
    providerModule := s.providerModule
    timeLayout := s.timeLayout }

/-! ## Imports -/

/-- The imports of the file. -/
def importLines (d : DataSource) : List Line :=
  group 0 "import " (
    [⟨1, inQuotes "context"⟩, ⟨1, inQuotes "encoding/json"⟩] ++
    (if d.plan.reportsErrors then [⟨1, inQuotes "fmt"⟩] else []) ++
    [.blank,
     ⟨1, inQuotes "github.com/hashicorp/terraform-plugin-sdk/v2/diag"⟩,
     ⟨1, inQuotes "github.com/hashicorp/terraform-plugin-sdk/v2/helper/schema"⟩] ++
    d.plan.imports.map (fun i => ⟨1, i.name ++ " " ++ inQuotes i.path⟩) ++
    [⟨1, "conns " ++ inQuotes (d.providerModule ++ "/nutanix")⟩,
     ⟨1, inQuotes (d.providerModule ++ "/utils")⟩])

/-! ## The schema -/

/-- The function that makes the data source. -/
def makerLines (d : DataSource) : List Line :=
  [⟨0, "// " ++ d.names.maker ++ " reads " ++ d.names.resource ++ " by its external ID"⟩] ++
  block 0 ("func " ++ d.names.maker ++ "() *schema.Resource ")
    (block 1 "return &schema.Resource" (
      [⟨2, "ReadContext: " ++ d.names.reader ++ ","⟩] ++
      entry 2 "Schema: map[string]*schema.Schema" (
        entry 3 (inQuotes lookupKey ++ ": ")
          [⟨4, "Type:     schema." ++ ValueType.string.name ++ ","⟩, ⟨4, "Required: true,"⟩] ++
        schemaLines 3 d.plan.root)))

/-! ## Reading -/

/-- Reports the message that a failed call comes with, or else the error of the call. -/
def failureLines (d : DataSource) : List Line :=
  let complaint := "return diag.Errorf(\"error while fetching " ++ d.names.resource ++ ": %v\", "
  let ifA (depth : Nat) (value type more : String) (body : List Line) :=
    block depth ("if " ++ value ++ ".(" ++ type ++ "); ok" ++ more ++ " ") body
  block 1 "if err != nil " (
    [⟨2, "var errordata " ++ recordType⟩] ++
    block 2 "if e := json.Unmarshal([]byte(err.Error()), &errordata); e != nil "
      [⟨3, "return diag.FromErr(e)"⟩] ++
    ifA 2 "data, ok := errordata[\"data\"]" recordType ""
      (ifA 3 "errorList, ok := data[\"error\"]" ("[]" ++ anyType) " && len(errorList) > 0"
        (ifA 4 "errorMessage, ok := errorList[0]" recordType ""
          [⟨5, complaint ++ "errorMessage[\"message\"])"⟩])) ++
    [⟨2, complaint ++ "err)"⟩])

/-- Flattens the response and sets what comes out. -/
def settingLines (call : RootCall) : List Line :=
  let onError (depth : Nat) (head : String) :=
    block depth ("if " ++ head ++ "err != nil ") [⟨depth + 1, "return diag.FromErr(err)"⟩]
  [⟨1, "items, err := " ++ call.flatten ++ "(" ++ call.argument ++ ")"⟩] ++
  onError 1 "" ++
  block 1 "if len(items) > 0 "
    (block 2 "for key, value := range items[0] " (onError 3 "err := d.Set(key, value); "))

/-- The function that reads the data source. -/
def readerLines (d : DataSource) : List Line :=
  let response := if d.plan.rootCall.isSome then "resp" else "_"
  let setting := match d.plan.rootCall with
    | some call => [.blank] ++ settingLines call
    | none => []
  block 0 ("func " ++ d.names.reader ++
      "(ctx context.Context, d *schema.ResourceData, meta " ++ anyType ++ ") diag.Diagnostics ") (
    [⟨1, "conn := meta.(*conns.Client)." ++ d.names.clientField⟩,
     .blank,
     ⟨1, "extID := d.Get(" ++ inQuotes lookupKey ++ ").(string)"⟩,
     .blank,
     ⟨1, response ++ ", err := conn." ++ d.apiField ++ "." ++ d.method ++
       "(utils.StringPtr(extID))"⟩] ++
    failureLines d ++ setting ++
    [.blank, ⟨1, "d.SetId(extID)"⟩, ⟨1, "return nil"⟩])

/-! ## Enumerations -/

/-- The variants whose ordinals have not occurred before. -/
def firstOfOrdinal (seen : List Int64) : List Variant → List Variant
  | [] => []
  | v :: vs =>
    if v.ordinal ∈ seen then firstOfOrdinal seen vs
    else v :: firstOfOrdinal (v.ordinal :: seen) vs

/-- The entries of the table of an enumeration, one for each ordinal, with the name that is looked up
for it. -/
def tableEntries (e : Enumeration) : List Variant :=
  (firstOfOrdinal [] e.variants).filterMap fun v =>
    (e.symbolFor v.ordinal).toOption.map fun name => ⟨name, v.ordinal⟩

/-- The table of an enumeration. -/
def tableLines (t : EnumTable) : List Line :=
  block 0 ("var " ++ t.table ++ " = map[" ++ t.type ++ "]string")
    ((tableEntries t.enumeration).map fun v =>
      ⟨1, toString v.ordinal.toInt ++ ": " ++ inQuotes v.name ++ ","⟩)

/-- The function that looks values up in the table of an enumeration. -/
def lookupLines (t : EnumTable) : List Line :=
  block 0 ("func " ++ t.flatten ++ "(v " ++ t.type ++ ") (string, error) ") (
    [⟨1, "name, ok := " ++ t.table ++ "[v]"⟩] ++
    block 1 "if !ok "
      [⟨2, "return \"\", fmt.Errorf(\"" ++ t.enumeration.name ++
        " has no variant with ordinal %d\", int(v))"⟩] ++
    [⟨1, "return name, nil"⟩])

/-! ## Flatten functions -/

/-- A fresh record. -/
def newItem (depth : Nat) : Line := ⟨depth, "item := make(" ++ recordType ++ ")"⟩

/-- The body of a function that flattens the value of a union, with the statements for its nodes. -/
def unionLines (f : FlattenFunction) (u : UnionBranch) (statements : List Line) : List Line :=
  [⟨1, "value, ok := pr.GetValue().(" ++ u.type ++ ")"⟩] ++
  block 1 "if !ok "
    [⟨2, "return nil, fmt.Errorf(\"unexpected " ++ f.type ++ " value %T\", pr.GetValue())"⟩] ++
  [⟨1, "values := " ++ if u.isSlice then "value" else "[]" ++ u.type ++ "\x7bvalue\x7d"⟩,
   .blank,
   ⟨1, "result := make([]" ++ recordType ++ ", 0, len(values))"⟩] ++
  block 1 "for _, v := range values " (
    [⟨2, "_ = v"⟩, newItem 2] ++ statements ++ [⟨2, "result = append(result, item)"⟩]) ++
  [⟨1, "return result, nil"⟩]

/-- The body of a function that flattens a struct, with the statements for its nodes. -/
def structLines (statements : List Line) : List Line :=
  [newItem 1] ++ statements ++ [⟨1, "return []" ++ recordType ++ "\x7bitem\x7d, nil"⟩]

/-- A function that flattens a struct, given what statements look like at some depth. -/
def flattenLines (statement : (depth : Nat) → Node → List Line) (f : FlattenFunction) : List Line :=
  block 0 ("func " ++ f.name ++ "(pr *" ++ f.type ++ ") ([]" ++ recordType ++ ", error) ") (
    block 1 "if pr == nil " [⟨2, "return nil, nil"⟩] ++
    [.blank] ++
    match f.union with
    | some u => unionLines f u (f.fields.flatMap (statement 2))
    | none => structLines (f.fields.flatMap (statement 1)))

/-! ## The file -/

/-- The lines of the file, given what statements look like at some depth. -/
def linesWith (statement : (depth : Nat) → Node → List Line) (d : DataSource) : List Line :=
  [⟨0, "package " ++ d.names.package⟩, .blank] ++ d.importLines ++ [.blank] ++
    d.makerLines ++ [.blank] ++ d.readerLines ++
    d.plan.tables.flatMap (fun t => [.blank] ++ tableLines t ++ [.blank] ++ lookupLines t) ++
    d.plan.functions.flatMap (fun f => [.blank] ++ flattenLines statement f) ++
    [.blank]

/-- The lines of the file. -/
def lines (d : DataSource) : List Line :=
  d.linesWith fun depth n => n.statementLines d.timeLayout depth

/-- The text of the file. -/
def text (d : DataSource) : String := render d.lines

end DataSource

end ProviderGlue
