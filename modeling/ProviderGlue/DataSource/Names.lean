import ProviderGlue.Text.Basic
import ProviderGlue.Text.Case

/-!
# The names of a data source

All names around a data source derive from the provider, the namespace and the operation.
-/

namespace ProviderGlue.DataSource

open Text

/-- The names around a data source. -/
structure Names where
  /-- The package. -/
  package : String
  /-- The data source itself. -/
  resource : String
  /-- The function that makes the data source. -/
  maker : String
  /-- The function that reads it. -/
  reader : String
  /-- The field of the provider's client that holds the client of the namespace. -/
  clientField : String
  /-- The file. -/
  file : String
deriving DecidableEq

/-- The names for an operation of a namespace. -/
def Names.ofOperation (provider package method : String) : Names :=
  let resource := provider ++ "_" ++ onChars snakeCase package ++ "_" ++ onChars snakeCase method
  let maker := "Datasource" ++ onChars camelCase resource
  let camel := camelCase package.toList
  { package, resource, maker
    reader := maker ++ "Read"
    clientField := String.ofList ((beforeSuffix? "v2".toList camel).getD camel) ++ "API"
    file := "data_source_" ++ onChars snakeCase resource ++ ".go" }

end ProviderGlue.DataSource
