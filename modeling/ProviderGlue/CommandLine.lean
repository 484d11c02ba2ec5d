import ProviderGlue.CommandLine.Invocation
import ProviderGlue.Extraction
import ProviderGlue.Generation
import ProviderGlue.Text.Quoted

/-!
# The command line

Runs of the program as functions on a file tree.  A run tells what it does line by line, and ends
with a report if something fails.
-/

namespace ProviderGlue.CommandLine

open Text

/-! ## Reports -/

/-- What went wrong, and why. -/
structure Report where
  /-- What could not be done. -/
  context : String
  /-- The causes, each explained by the next. -/
  causes : List String

namespace Report

/-- The text with its later lines indented. -/
def indented (indent : Nat) (text : String) : String :=
  String.intercalate ("\n" ++ String.ofList (List.replicate indent ' '))
    ((splitAt '\n' text.toList).map String.ofList)

/-- A number at the right end of five places. -/
def places (n : Nat) : String :=
  let digits := toString n
  String.ofList (List.replicate (5 - digits.length) ' ') ++ digits

/-- The lines of the causes, which are numbered if there are several. -/
def causeLines : (causes : List String) → List String
  | [] => []
  | [cause] => ["    " ++ indented 4 cause]
  | causes => causes.zipIdx.map fun (cause, n) => places n ++ ": " ++ indented 7 cause

/-- The text of a report. -/
def text (r : Report) : String :=
  let causes := match causeLines r.causes with
    | [] => []
    | lines => ["", "Caused by:"] ++ lines
  "Error: " ++ "\n".intercalate (r.context :: causes) ++ "\n"

end Report

/-- The causes of a failure. -/
def causesOf (f : Failure) : List String :=
  f.placedMessage :: match f with
    | .access _ cause => [cause.message]
    | _ => []

/-! ## Sessions -/

/-- What surrounds a run. -/
structure Environment where
  /-- Where the module cache is said to be. -/
  cachePlaces : CacheVariables
  /-- The programs that may format files. -/
  formatter : (program : String) → Formatter

/-- The state of a run. -/
structure Session where
  /-- The files. -/
  tree : FileTree
  /-- What has been told. -/
  output : String := ""

/-- Tells a line. -/
def say (line : String) : EStateM Report Session Unit :=
  modify fun s => { s with output := s.output ++ line ++ "\n" }

/-- Goes on with a result, or ends with a report. -/
def orReport {α : Type} (context : String) : Except Failure α → EStateM Report Session α
  | .ok a => pure a
  | .error f => throw ⟨context, causesOf f⟩

/-- The absolute form of a path. -/
def absolute (path : String) : EStateM Report Session String := do
  return Path.absolute (Path.ofComponents true (← get).tree.current) path

/-! ## Commands -/

/-- The name of the file that holds a model. -/
def modelFile : String := "sdk_info.json"

/-- How a narrowing is shown, if it leaves anything out. -/
def shown? : Narrowing → Option String
  | .all => none
  | .owner name => some ("Receiver(" ++ onChars quoted name ++ ")")
  | .keyword word => some ("Keyword(" ++ onChars quoted word ++ ")")

/-- Writes a model into a directory, and gives the path of the file. -/
def save (m : Model) (directory : String) : EStateM Report Session String := do
  let (tree, outcome) := (← get).tree.ensureDirectories directory
  modify ({ · with tree })
  match outcome with
  | .error f =>
    throw ⟨"Failed to create output directory " ++ directory, (causesOf f).drop 1⟩
  | .ok () =>
    let path := Path.join directory modelFile
    let tree ← orReport "Failed to write intermediate model" (tree.write path m.text)
    modify ({ · with tree })
    return path

/-- Extracts the interface of a module. -/
def extract (e : Environment) (s : Settings) (isVerbose : Bool) (request : Request)
    (outputDirectory : String) : EStateM Report Session Unit := do
  say ("→ Extracting SDK: " ++ request.package)
  let cache := ModuleCache.ofVariables e.cachePlaces
  if isVerbose then
    say ("  Module cache: " ++ cache.root)
    match shown? request.narrowing with
    | some narrowing => say ("  Filter: " ++ narrowing)
    | none => pure ()
  let extraction ← orReport ("Failed to extract " ++ request.package)
    (Extraction.run (ownerMentions s.ownerToken) cache (← get).tree request)
  say ("✓ Found " ++ toString extraction.operationCount ++ " API operations (" ++
    toString extraction.typeCount ++ " types)")
  let path ← save extraction.model (← absolute outputDirectory)
  say "\n✓ Extraction complete!"
  say ("  " ++ path)
  if isVerbose then
    say "\nOperations:"
    extraction.model.operations.forM fun o =>
      say ("  • " ++ o.method.owner ++ "." ++ o.method.name)

/-- Reads the model of a document. -/
def load (path : String) : EStateM Report Session Model := do
  let tree := (← get).tree
  let m ← orReport ("Failed to load " ++ path) (tree.readText path >>= Model.read?)
  say ("✓ Loaded " ++ toString m.operations.length ++ " operations from " ++ m.package)
  return m

/-- Takes up what a generation gives. -/
def conclude (context : String) (result : FileTree × Except Failure Generated) :
    EStateM Report Session Unit := do
  modify ({ · with tree := result.1 })
  let g ← orReport context result.2
  say "\n✓ Generation complete!"
  say ("  " ++ g.path)
  if ! g.isFormatted then say "  ! gofmt did not run; the file is unformatted"

/-- Generates the client of a namespace. -/
def generateClient (e : Environment) (s : Settings) (document outputDirectory : String) :
    EStateM Report Session Unit := do
  let document ← absolute document
  let directory ← absolute outputDirectory
  say ("→ Generating namespace client from: " ++ document)
  let m ← load document
  conclude "Failed to generate namespace client"
    (Generated.client s (← get).tree (e.formatter s.formatter) m directory)

/-- Generates the data source for an operation. -/
def generateDataSource (e : Environment) (s : Settings) (document method outputDirectory : String)
    (package : Option String) : EStateM Report Session Unit := do
  let document ← absolute document
  let directory ← absolute outputDirectory
  say ("→ Generating data source for " ++ method ++ " from: " ++ document)
  let m ← load document
  conclude ("Failed to generate data source for " ++ method)
    (Generated.dataSource s (← get).tree (e.formatter s.formatter) m directory method package)

/-! ## Runs -/

/-- The settings at a path, or the default ones. -/
def settingsAt (path : Option String) : EStateM Report Session Settings := do
  match path with
  | none => return {}
  | some path =>
    let tree := (← get).tree
    orReport "Failed to load settings" (tree.readText path >>= Settings.read?)

/-- Runs an invocation. -/
def perform (e : Environment) (i : Invocation) : EStateM Report Session Unit := do
  if i.isVerbose then say "→ Verbose mode enabled"
  let s ← settingsAt i.settings
  match i.command with
  | .extract package outputDirectory apiPackage owner keyword =>
    let narrowing := Narrowing.ofOptions owner keyword
    extract e s i.isVerbose ⟨package, apiPackage, narrowing⟩ outputDirectory
  | .generateClient document outputDirectory => generateClient e s document outputDirectory
  | .generateDataSource document method outputDirectory package =>
    generateDataSource e s document method outputDirectory package

/-- How a run ends. -/
structure Outcome where
  /-- The status. -/
  status : UInt8
  /-- What has been told. -/
  output : String
  /-- The report, if something failed. -/
  report : Option String
  /-- The files. -/
  tree : FileTree

/-- The name and version of the program. -/
def versionText : String := "provider-codegen 0.1.0\n"

/-- Runs the program with some arguments. -/
def run (e : Environment) (tree : FileTree) (arguments : List String) : Outcome :=
  match Invocation.ofArguments arguments with
  | .error .misuse => ⟨2, "", none, tree⟩
  | .error .help => ⟨0, "", none, tree⟩
  | .error .version => ⟨0, versionText, none, tree⟩
  | .ok i =>
    match (perform e i).run ⟨tree, ""⟩ with
    | .ok _ s => ⟨0, s.output, none, s.tree⟩
    | .error r s => ⟨1, s.output, some r.text, s.tree⟩

end ProviderGlue.CommandLine
