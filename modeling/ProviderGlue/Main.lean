import ProviderGlue.CommandLine

/-!
# The program

A run works on a file tree.  The program first reads the part of the file system that the run can
touch, and afterwards writes the files and directories that the run has added.  External formatters
are not run, so written files stay as they are.
-/

namespace ProviderGlue.Program

open CommandLine

/-- The path of a location. -/
def pathOf (l : Location) : String := Path.ofComponents true l

/-- Reads the file at a location. -/
def readEntry (l : Location) : IO Entry := do
  let bytes ← IO.FS.readBinFile (pathOf l)
  match String.fromUTF8? bytes with
  | some text => return .text text.toList
  | none => return .binary

/-- Adds an entry, unless there is one already. -/
def add (tree : FileTree) (l : Location) (e : Entry) : FileTree :=
  if (tree.get? l).isSome then tree else tree.put l e

/-- Adds the entry at a location, with the content of a file if it is asked for. -/
def addEntry (tree : FileTree) (l : Location) (withContent : Bool) : IO FileTree := do
  let path := (← IO.currentDir) / pathOf l
  if ← path.isDir then return add tree l .directory
  if ← path.pathExists then
    if withContent then return add tree l (← readEntry l)
    return add tree l .binary
  return tree

/-- Adds the entries below a location, down to some depth. -/
def addBelow (tree : FileTree) (l : Location) (withContent : Bool) :
    (depth : Nat) → IO FileTree
  | 0 => return tree
  | depth + 1 => do
    let path := (← IO.currentDir) / pathOf l
    unless ← path.isDir do return tree
    (← path.readDir).foldlM (fun tree entry => do
      let next := l ++ [entry.fileName]
      let tree ← addEntry tree next withContent
      addBelow tree next withContent depth) tree

/-- The locations that a path leads through, the last first. -/
def stops (current : Location) (path : String) : List Location :=
  (Path.components path).foldl (fun ls c =>
    let l := ls.headD []
    (if c = ".." then l.dropLast else l ++ [c]) :: ls)
    [if Path.isAbsolute path then [] else current]

/-- The location that a path leads to. -/
def locationOf (current : Location) (path : String) : Location :=
  (stops current path).headD []

/-- Adds everything that a path leads through. -/
def addPath (tree : FileTree) (path : String) : IO FileTree :=
  (stops tree.current path).foldlM (fun tree l => addEntry tree l true) tree

/-- How deep the directories of a module are read. -/
def moduleDepth : Nat := 64

/-- Adds what the extraction of a module reads. -/
def addModule (tree : FileTree) (cache : ModuleCache) (package : String) : IO FileTree := do
  let m := ModuleSpec.ofIdentifier package
  let path := Path.join cache.root (ModuleSpec.escaped m.path)
  let base := locationOf tree.current path
  let tree ← addPath tree path
  let tree ← addBelow tree base.dropLast false 1
  let tree ← addBelow tree base false 1
  match cache.locate tree m with
  | .error _ => return tree
  | .ok directory =>
    let l := locationOf tree.current directory
    let models := l.dropLast ++ ["models"]
    let tree ← addBelow tree l true moduleDepth
    addBelow (← addEntry tree models false) models true moduleDepth

/-- Adds what the generation into a directory meets. -/
def addOutput (tree : FileTree) (path : String) : IO FileTree := do
  let l := locationOf tree.current path
  addBelow (← addPath tree path) l false 2

/-- The part of the file system that an invocation can touch. -/
def snapshot (places : CacheVariables) (i : Invocation) : IO FileTree := do
  let start := (← IO.currentDir).toString
  let tree ← addPath { current := Path.components start } start
  let tree ← match i.settings with
    | some path => addPath tree path
    | none => pure tree
  match i.command with
  | .extract package outputDirectory _ _ _ =>
    addOutput (← addModule tree (.ofVariables places) package) outputDirectory
  | .generateClient document outputDirectory
  | .generateDataSource document _ outputDirectory _ =>
    addOutput (← addPath tree document) outputDirectory

/-- Writes what the second tree adds to the first. -/
def writeChanges (before after : FileTree) : IO Unit :=
  after.entries.reverse.forM fun (l, e) => do
    unless before.get? l = some e do
      match e with
      | .directory => IO.FS.createDirAll (pathOf l)
      | .text content => IO.FS.writeFile (pathOf l) (String.ofList content)
      | .binary => pure ()

/-- A formatter that is never found. -/
def noFormatter (program : String) : Formatter := ⟨program, fun _ => .missing .notFound⟩

end ProviderGlue.Program

open ProviderGlue ProviderGlue.Program in
/-- Runs the program with the arguments of the command line. -/
def main (arguments : List String) : IO UInt32 := do
  let places : CacheVariables :=
    ⟨← IO.getEnv "GOMODCACHE", ← IO.getEnv "GOPATH", ← IO.getEnv "HOME"⟩
  let before ← match CommandLine.Invocation.ofArguments arguments with
    | .ok i => snapshot places i
    | .error _ => pure {}
  let outcome := CommandLine.run ⟨places, noFormatter⟩ before arguments
  writeChanges before outcome.tree
  IO.print outcome.output
  match outcome.report with
  | some report => IO.eprint report
  | none => pure ()
  return outcome.status.toUInt32
