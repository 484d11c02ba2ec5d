import ProviderGlue.Json.Fault

/-!
# Failures

Why an extraction or a generation gives no result.  Each failure has a `Category`, which its text
starts with.
-/

namespace ProviderGlue

/-- Why the file system refuses an access. -/
inductive AccessFault where
  | notFound
  | notADirectory
  | isADirectory
  | alreadyExists
  /-- The file holds no text. -/
  | notText
deriving DecidableEq

/-- The text of an access fault. -/
def AccessFault.message : AccessFault → String
  | notFound => "No such file or directory (os error 2)"
  | notADirectory => "Not a directory (os error 20)"
  | isADirectory => "Is a directory (os error 21)"
  | alreadyExists => "File exists (os error 17)"
  | notText => "stream did not contain valid UTF-8"

/-- What a failure is about. -/
inductive Category where
  | configuration | access | source | serialization | formatting | lookup
deriving DecidableEq

/-- Why there is no result. -/
inductive Failure where
  /-- A path that should be a directory is none. -/
  | noDirectory (path : String)
  /-- A module is not in the cache. -/
  | noModule (path : String) (version : Option String) (root : String)
  /-- No namespace can be read off a package path. -/
  | noNamespace (path : String)
  /-- The file system refuses an access. -/
  | access (path : String) (cause : AccessFault)
  /-- A source file has syntax errors. -/
  | source (path : String)
  /-- A text is no model. -/
  | model (text : List Char) (fault : Json.Fault)
  /-- A text holds no settings. -/
  | settings
  /-- A formatter cannot be run. -/
  | noFormatter (program : String) (cause : AccessFault)
  /-- A formatter gives up. -/
  | formatter (program : String) (status : Nat) (complaint : String)
  /-- An enumeration has no variant of an ordinal. -/
  | noVariant (enumeration : String) (ordinal : Int64)
  /-- A model has no operation of a name. -/
  | noOperation (method : String)
  /-- An operation has no response. -/
  | noResponse (method : String)

namespace Failure

/-- What the failure is about. -/
def category : Failure → Category
  | noDirectory _ | noModule _ _ _ | noNamespace _ => .configuration
  | access _ _ => .access
  | source _ => .source
  | model _ _ | settings => .serialization
  | noFormatter _ _ | formatter _ _ _ => .formatting
  | noVariant _ _ | noOperation _ | noResponse _ => .lookup

/-- A name in the quotes that commands stand in. -/
private def command (s : String) : String :=
  String.singleton (Char.ofNat 0x60) ++ s ++ String.singleton (Char.ofNat 0x60)

/-- The text of the failure.  `place` is put behind the fault of a document. -/
def messageWith (place : List Char → Json.Fault → String) : Failure → String
  | noDirectory path => "Configuration error: " ++ path ++ " is not a directory"
  | noModule path version root =>
    let identifier := match version with
      | some v => path ++ "@" ++ v
      | none => path
    "Configuration error: Could not locate module " ++ path ++ " under " ++ root ++
      "; download it with " ++ command ("go mod download " ++ identifier)
  | noNamespace path =>
    "Configuration error: Cannot derive a namespace from '" ++ path ++
      "': expected a '<name>-go-client' path segment"
  | access path cause => "I/O error on " ++ path ++ ": " ++ cause.message
  | source path => "Parse error in " ++ path ++ ": source contains syntax errors"
  | model text fault =>
    "Serialization error: Failed to parse intermediate model: " ++ fault.cause.message ++
      place text fault
  | settings => "Serialization error: Failed to parse settings YAML"
  | noFormatter program cause =>
    "Formatting error: failed to run " ++ program ++ ": " ++ cause.message
  | formatter program status complaint =>
    "Formatting error: " ++ program ++ " exited with exit status: " ++ toString status ++ ": " ++
      complaint
  | noVariant enumeration ordinal =>
    "Lookup error: enum " ++ enumeration ++ " has no variant with ordinal " ++
      toString ordinal.toInt
  | noOperation method =>
    "Lookup error: API method '" ++ method ++ "' not found in intermediate model"
  | noResponse method =>
    "Lookup error: No response structure found for API method '" ++ method ++ "'"

/-- The text of the failure. -/
def message (f : Failure) : String := f.messageWith fun _ _ => ""

/-- The text of the failure with the line and column of a fault. -/
def placedMessage (f : Failure) : String := f.messageWith Json.Fault.position

end Failure

end ProviderGlue
