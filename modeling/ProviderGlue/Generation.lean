import ProviderGlue.DataSource
import ProviderGlue.FileTree
import ProviderGlue.Formatter

/-!
# Generation

Generated files are written into a directory for their package and then handed to a formatter.  A
generation that fails leaves all files as they were, though it may have made directories.
-/

namespace ProviderGlue

/-- What has been generated. -/
structure Generated where
  /-- The path of the file. -/
  path : String
  /-- Whether it could be formatted. -/
  isFormatted : Bool
deriving DecidableEq

namespace Generated

/-- Writes a file into a directory, which is made if it is missing, and formats it. -/
def write (tree : FileTree) (formatter : Formatter) (directory file text : String) :
    FileTree × Except Failure Generated :=
  match tree.ensureDirectories directory with
  | (made, .error e) => (made, .error e)
  | (made, .ok ()) =>
    let path := Path.join directory file
    match made.write path text.toList with
    | .error e => (made, .error e)
    | .ok written => (written, .ok ⟨path, formatter.succeeds path⟩)

/-- Generates the client for a model. -/
def client (s : Settings) (tree : FileTree) (formatter : Formatter) (m : Model)
    (directory : String) : FileTree × Except Failure Generated :=
  match Client.ofModel s m with
  | .error e => (tree, .error e)
  | .ok c => write tree formatter (Path.join directory c.token) (c.token ++ ".go") c.text

/-- Generates the data source for an operation of a model. -/
def dataSource (s : Settings) (tree : FileTree) (formatter : Formatter) (m : Model)
    (directory method : String) (package : Option String) : FileTree × Except Failure Generated :=
  match DataSource.ofModel s m method package with
  | .error e => (tree, .error e)
  | .ok d => write tree formatter (Path.join directory d.names.package) d.names.file d.text

end Generated

end ProviderGlue
