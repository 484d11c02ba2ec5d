import ProviderGlue.Go.Code
import ProviderGlue.Model
import ProviderGlue.Settings
import ProviderGlue.Text.Case
import ProviderGlue.Text.Numbered

/-!
# Clients of a namespace

The generated client of a namespace holds one field for each type with operations, and one for the
transport.  The namespace is read off the path of the package: it is the name of the first directory
in it that ends in `-go-client`.
-/

namespace ProviderGlue

open Text Go

/-! ## Namespaces -/

/-- Whether a character may stand in the name of a namespace. -/
def isNamespaceChar (c : Char) : Bool := c.isLower || c.isDigit || c = '-'

/-- The namespace that a component of a path names. -/
def namespaceOf? (component : List Char) : Option (List Char) :=
  (beforeSuffix? "-go-client".toList component).filter fun name =>
    ! name.isEmpty && name.all isNamespaceChar

/-- The namespace of a package path: that of the first component that names one.  The first and the
last component do not count. -/
def namespaceToken (path : String) : Except Failure String :=
  let inner := (splitAt '/' path.toList).tail.dropLast
  match inner.findSome? namespaceOf? with
  | some name => .ok (String.ofList name)
  | none => .error (.noNamespace path)

/-! ## Fields -/

/-- A field of a client, which holds the operations of a type. -/
structure ClientField where
  /-- The name of the field. -/
  name : String
  /-- The type. -/
  type : String
deriving DecidableEq

/-- The function that makes a value of the field's type. -/
def ClientField.maker (f : ClientField) : String := "New" ++ f.type

/-- The name of the field for a type. -/
def fieldNameFor (type : String) : String :=
  match beforeSuffix? "Api".toList type.toList with
  | none => type ++ "API"
  | some base =>
    match beforeSuffix? ['s'] base with
    | none => String.ofList base ++ "API"
    | some singular => String.ofList singular ++ "APIInstance"

/-- The type of the transport. -/
def transportType : String := "ApiClient"

/-- Whether a type has operations that a client offers. -/
def isOffered (type : String) : Bool :=
  type != transportType && Text.endsWith "Api".toList type.toList

/-- Fields for some types; a name that is taken gets a number. -/
def nameFields (taken : List String) : (types : List String) → List ClientField
  | [] => []
  | type :: types =>
    let name := firstFree (numbered 1 "" (fieldNameFor type)) 0 taken
    ⟨name, type⟩ :: nameFields (name :: taken) types

/-- The fields for the owners of some operations, in the order of the types. -/
def clientFields (owners : List String) : List ClientField :=
  let types := Table.ofList ((owners.filter isOffered).map fun type => (type, ()))
  nameFields [] types.keys

/-- The types that own the operations of a model. -/
def Model.owners (m : Model) : List String := m.operations.map (·.method.owner)

/-! ## Clients -/

/-- The client of a namespace. -/
structure Client where
  /-- The namespace. -/
  token : String
  /-- The fields. -/
  fields : List ClientField
  /-- The path of the package. -/
  packagePath : String
  /-- The module of the provider. -/
  providerModule : String
  /-- The TCP number that the client connects to. -/
  tcpPort : UInt16

namespace Client

/-- The client for a model. -/
def ofModel (s : Settings) (m : Model) : Except Failure Client := do
  let token ← namespaceToken m.packagePath
  return ⟨token, clientFields m.owners, m.packagePath, s.providerModule, s.tcpPort⟩

/-- The alias under which the package of the transport is imported. -/
def transportAlias (c : Client) : String :=
  String.ofList (c.token.toList.takeWhile (· ≠ '-'))

/-- The function that makes a client. -/
def maker (c : Client) : String := "New" ++ onChars camelCase c.token ++ "Client"

/-- The imports of the file. -/
def importLines (c : Client) : List Line :=
  group 0 "import " [
    ⟨1, inQuotes (c.packagePath ++ "/api")⟩,
    ⟨1, c.transportAlias ++ " " ++ inQuotes (c.packagePath ++ "/client")⟩,
    ⟨1, inQuotes (c.providerModule ++ "/nutanix/client")⟩]

/-- The type of the client. -/
def typeLines (c : Client) : List Line :=
  block 0 "type Client struct " (
    c.fields.map (fun f => ⟨1, f.name ++ " *api." ++ f.type⟩) ++
    [⟨1, "APIClientInstance *" ++ c.transportAlias ++ "." ++ transportType⟩])

/-- The function that makes a client from credentials. -/
def makerLines (c : Client) : List Line :=
  let newTransport := c.transportAlias ++ ".New" ++ transportType ++ "()"
  block 0 ("func " ++ c.maker ++ "(credentials client.Credentials) (*Client, error) ") (
    [⟨1, "var baseClient *" ++ c.transportAlias ++ "." ++ transportType⟩,
     .blank,
     ⟨1, "// check if all required fields are present. Else create an empty client"⟩] ++
    block 1 ("if credentials.Username != \"\" && credentials.Password != \"\" && " ++
        "credentials.Endpoint != \"\" ") [
      ⟨2, "pcClient := " ++ newTransport⟩,
      .blank,
      ⟨2, "pcClient.Host = credentials.Endpoint"⟩,
      ⟨2, "pcClient.Password = credentials.Password"⟩,
      ⟨2, "pcClient.Username = credentials.Username"⟩,
      ⟨2, "pcClient.Port = " ++ toString c.tcpPort.toNat⟩,
      ⟨2, "pcClient.VerifySSL = false"⟩,
      .blank,
      ⟨2, "baseClient = pcClient"⟩] ++
    [.blank] ++
    block 1 "f := &Client" (
      c.fields.map (fun f => ⟨2, f.name ++ ": api." ++ f.maker ++ "(baseClient),"⟩) ++
      [⟨2, "APIClientInstance: " ++ newTransport ++ ","⟩]) ++
    [.blank, ⟨1, "return f, nil"⟩])

/-- The text of the file. -/
def text (c : Client) : String :=
  render ([⟨0, "package " ++ c.token⟩, .blank] ++ c.importLines ++ [.blank] ++ c.typeLines ++
    [.blank] ++ c.makerLines)

end Client

end ProviderGlue
