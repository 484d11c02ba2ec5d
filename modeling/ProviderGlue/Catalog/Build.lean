import ProviderGlue.Catalog
import ProviderGlue.FileTree
import ProviderGlue.Go.Source
import ProviderGlue.Text.Case

/-!
# Catalogs of source trees

`Catalog.ofDirectory` reads every Go file below a directory, in the order of the walk that goes
through each directory by name.  Test files, files without text and files with syntax errors are
passed over.  Of several structs with one name the last one counts.  How a single file is read is left
open in `Catalog.ofDirectoryWith`.
-/

namespace ProviderGlue

open Text

namespace Catalog

/-! ## Enumerations -/

/-- The symbolic name of a constant: without the name of its type in front. -/
def symbolOf (type constant : String) : String :=
  let start := (onChars uppercase type) ++ "_"
  match afterPrefix? start.toList constant.toList with
  | some rest => String.ofList rest
  | none => constant

/-- The enumeration of an integer type that some constants have, if there is one. -/
def enumeration? (constants : List Go.Constant) (name file : String) : Option Enumeration :=
  match constants.filter (·.type == name) with
  | [] => none
  | own => some ⟨name, file, own.map fun c => ⟨symbolOf name c.name, c.value⟩⟩

/-- The enumerations of source files. -/
def enumerations (files : List Go.SourceFile) : Table Enumeration :=
  let constants := files.flatMap (·.constants)
  let found := files.flatMap fun f =>
    f.integerTypes.filterMap fun name => enumeration? constants name f.path
  Table.ofList (found.map fun e => (e.name, e))

/-! ## Source files -/

/-- The catalog of source files. -/
def ofFiles (files : List Go.SourceFile) : Catalog where
  types := ((files.flatMap (·.structs)).foldl insert {}).types
  enums := enumerations files
  methods := files.flatMap (·.methods)

/-- Whether a file of that name is a Go file and no test. -/
def isSourceName (name : String) : Bool :=
  endsWith ".go".toList name.toList && ! endsWith "_test.go".toList name.toList

/-- The declarations of an entry below a directory, if it is a source file that can be read. -/
def sourceFile? (read : Go.SourceFile.Reader) (location : Location) (entry : Entry) :
    Option Go.SourceFile :=
  match entry with
  | .text content =>
    if (location.getLast?.map isSourceName).getD false then
      read ("/".intercalate location) content
    else none
  | _ => none

/-- The catalog of a directory whose source files are read by `read`. -/
def ofDirectoryWith (read : Go.SourceFile.Reader) (tree : FileTree) (path : String) :
    Except Failure Catalog :=
  match tree.entry path with
  | .error fault => .error (.access path fault)
  | .ok (root, .directory) =>
    .ok (ofFiles ((tree.filesBelow root).filterMap fun (l, e) => sourceFile? read l e))
  | .ok _ => .error (.noDirectory path)

/-- The catalog of a directory. -/
def ofDirectory (tree : FileTree) (path : String) : Except Failure Catalog :=
  ofDirectoryWith Go.SourceFile.read? tree path

end Catalog

end ProviderGlue
