import ProviderGlue.FileTree
import ProviderGlue.Text.Numeral

/-!
# The module cache

Modules are kept in directories below the root of a cache.  `ModuleCache.locate` finds the directory
of a module; without a version it finds the newest one.
-/

namespace ProviderGlue

open Text

/-- A module with a version, if one is given. -/
structure ModuleSpec where
  /-- The path of the module. -/
  path : String
  /-- The version. -/
  version : Option String
deriving DecidableEq

namespace ModuleSpec

/-- The module of an identifier such as `example.com/widgets@v1.0.0`. -/
def ofIdentifier (identifier : String) : ModuleSpec :=
  match splitLast? '@' identifier.toList with
  | none => ⟨identifier, none⟩
  | some (path, version) =>
    ⟨String.ofList path, if version.isEmpty then none else some (String.ofList version)⟩

/-- How a path is written in the cache: `!` and the lower case for an upper case letter. -/
def escape (path : List Char) : List Char :=
  path.flatMap fun c => if c.isUpper then ['!', c.toLower] else [c]

/-- How a text is written in the cache. -/
def escaped (s : String) : String := String.ofList (escape s.toList)

end ModuleSpec

/-- A module cache. -/
structure ModuleCache where
  /-- The path of its directory. -/
  root : String

/-- Where the environment says that the module cache is. -/
structure CacheVariables where
  /-- The cache itself. -/
  modules : Option String
  /-- The directories that hold a cache. -/
  workspaces : Option String
  /-- The home directory. -/
  home : Option String

namespace ModuleCache

/-- The cache that the environment names. -/
def ofVariables (v : CacheVariables) : ModuleCache :=
  match v.modules.filter (! ·.isEmpty) with
  | some root => ⟨root⟩
  | none =>
    let workspace := match v.workspaces.filter (! ·.isEmpty) with
      | some list => String.ofList (list.toList.takeWhile (· ≠ ':'))
      | none =>
        match v.home with
        | some home => Path.join home "go"
        | none => "go"
    ⟨Path.join (Path.join workspace "pkg") "mod"⟩

/-- The leading numbers of a version, by which versions are compared. -/
def versionKey (version : List Char) : List Nat :=
  let parts := splitWhere (fun c => c = '.' ∨ c = '-' ∨ c = '+') (version.dropWhile (· = 'v'))
  ((parts.map (readBelow? 0x10000000000000000)).takeWhile Option.isSome).filterMap id

/-- A directory that may hold the module. -/
structure Candidate where
  /-- The numbers of its version. -/
  key : List Nat
  /-- Its path. -/
  path : String
deriving DecidableEq

/-- Whether `b` is at least as new as `a`; between equal versions the later path counts. -/
def Candidate.le (a b : Candidate) : Bool :=
  if a.key = b.key then notBehind (Path.components a.path) (Path.components b.path)
  else notBehind a.key b.key

/-- The candidates for a module without version: the directories for major versions below its own
path, and the directories beside it whose names add a version. -/
def candidates (tree : FileTree) (base : String) : List Candidate :=
  let isVersion (name : List Char) := ['v'].isPrefixOf name
  let inside := ((tree.subdirectories base).filter (isVersion ·.toList)).map fun name =>
    ⟨versionKey name.toList, Path.join base name⟩
  let beside := match Path.parent? base, Path.fileName? base with
    | some parent, some last =>
      (tree.subdirectories parent).filterMap fun name =>
        ((afterPrefix? (last.toList ++ ['@']) name.toList).filter isVersion).map fun version =>
          ⟨versionKey version, Path.join parent name⟩
    | _, _ => []
  inside ++ beside

/-- The newest of some candidates. -/
def newest? (cs : List Candidate) : Option Candidate :=
  (cs.mergeSort Candidate.le).getLast?

/-- The directory of a module. -/
def locate (cache : ModuleCache) (tree : FileTree) (m : ModuleSpec) : Except Failure String :=
  let base := Path.join cache.root (ModuleSpec.escaped m.path)
  let found := match m.version with
    | some version =>
      let path := base ++ "@" ++ ModuleSpec.escaped version
      if tree.isDirectory path then some path else none
    | none => (newest? (candidates tree base)).map (·.path)
  match found with
  | some path => .ok path
  | none => .error (.noModule m.path m.version cache.root)

end ModuleCache

end ProviderGlue
