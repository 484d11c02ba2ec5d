import ProviderGlue.CommandLine.Option

/-!
# Invocations

What a command line asks for: one of three commands with its options.  Options that all commands
have may stand before the command or after it, and count as given after it.
-/

namespace ProviderGlue.CommandLine

/-- What is to be done. -/
inductive Command where
  /-- Extracts the interface of a module. -/
  | extract (package outputDirectory : String) (apiPackage owner keyword : Option String)
  /-- Generates the client of a namespace. -/
  | generateClient (document outputDirectory : String)
  /-- Generates the data source for an operation. -/
  | generateDataSource (document method outputDirectory : String) (package : Option String)
deriving DecidableEq

/-- A command with the options that all commands have. -/
structure Invocation where
  /-- Whether more is told. -/
  isVerbose : Bool
  /-- The path of the settings. -/
  settings : Option String
  /-- The command. -/
  command : Command
deriving DecidableEq

/-- The options that all commands have. -/
def commonOptions : List OptionSpec :=
  [⟨"verbose", some 'v', .flag⟩, ⟨"config", some 'c', .path⟩, ⟨"help", some 'h', .help⟩]

/-- The option that asks for the version. -/
def versionOption : OptionSpec := ⟨"version", some 'V', .version⟩

/-- The commands with their options. -/
def commands : List (String × List OptionSpec) := [
  ("extract", [⟨"package", some 'p', .text⟩, ⟨"output-dir", some 'o', .path⟩,
    ⟨"api-package", none, .text⟩, ⟨"receiver", none, .text⟩, ⟨"keyword", none, .text⟩]),
  ("generate-client", [⟨"json", some 'j', .path⟩, ⟨"output-dir", some 'o', .path⟩]),
  ("generate-datasource", [⟨"json", some 'j', .path⟩, ⟨"method", some 'm', .text⟩,
    ⟨"output-dir", some 'o', .path⟩, ⟨"namespace", some 'n', .text⟩])]

/-- The command that asks for help. -/
def helpCommand : String := "help"

/-- The names of the commands. -/
def commandNames : List String := commands.map (·.1) ++ [helpCommand]

/-- The command of a name with some options, if none is missing. -/
def commandOf? (name : String) (given : List (String × String)) : Option Command := do
  let outputDirectory := given.lookup "output-dir"
  match name with
  | "extract" =>
    let package ← given.lookup "package"
    return .extract package (outputDirectory.getD "code_gen/sdk_extract_output")
      (given.lookup "api-package") (given.lookup "receiver") (given.lookup "keyword")
  | "generate-client" =>
    let document ← given.lookup "json"
    return .generateClient document (outputDirectory.getD ".")
  | "generate-datasource" =>
    let document ← given.lookup "json"
    let method ← given.lookup "method"
    return .generateDataSource document method (outputDirectory.getD ".") (given.lookup "namespace")
  | _ => none

/-- Why a request for help with some commands ends. -/
def helpWith : (arguments : List String) → Stop
  | [] => .help
  | [name] => if name ∈ commandNames then .help else .misuse
  | _ => .misuse

/-- The invocation that arguments ask for. -/
def Invocation.ofArguments (arguments : List String) : Except Stop Invocation := do
  let (outer, rest) ← Reading.read (versionOption :: commonOptions) commandNames {} arguments
  let some (name, arguments) := rest | .error .misuse
  if name = helpCommand then .error (helpWith arguments)
  let options := (commands.lookup name).getD []
  let (inner, _) ← Reading.read (commonOptions ++ options) [] {} arguments
  let given := inner ++ outer
  let some command := commandOf? name given | .error .misuse
  return {
    isVerbose := (given.lookup "verbose").isSome
    settings := given.lookup "config"
    command }

end ProviderGlue.CommandLine
