import ProviderGlue.Text.Basic

/-!
# Paths

Paths as text, with `/` between their components.  Empty components and `.` stand for the directory
that they are in, and count only for the text of the path.
-/

namespace ProviderGlue.Path

open Text

/-- The path of `name` seen from `base`: an absolute path stands for itself. -/
def join (base name : String) : String :=
  if ['/'].isPrefixOf name.toList then name
  else if base.isEmpty || Text.endsWith ['/'] base.toList then base ++ name
  else base ++ "/" ++ name

/-- All components of a path, with those that stand for the directory they are in. -/
def pieces (path : String) : List String :=
  (splitAt '/' path.toList).map String.ofList

/-- Whether a component stands for the directory it is in. -/
def isCurrent (component : String) : Bool := component.isEmpty || component == "."

/-- The components of a path that lead somewhere. -/
def components (path : String) : List String :=
  (pieces path).filter (! isCurrent ·)

/-- Whether a path starts at the root. -/
def isAbsolute (path : String) : Bool := ['/'].isPrefixOf path.toList

/-- The text of a path of components. -/
def ofComponents (absolute : Bool) (cs : List String) : String :=
  (if absolute then "/" else "") ++ "/".intercalate cs

/-- The path of the first components of a path.  A path that starts with `.` keeps this start. -/
def initial (path : String) (n : Nat) : String :=
  let start := if ¬ isAbsolute path ∧ (pieces path).head? = some "." then ["."] else []
  ofComponents (isAbsolute path) (start ++ (components path).take n)

/-- The path without its last component, if it has one. -/
def parent? (path : String) : Option String :=
  match components path with
  | [] => none
  | _ :: cs => some (initial path cs.length)

/-- The paths of the directories around the place of a path, the nearest first. -/
def around (path : String) : List String :=
  (List.range ((components path).length - 1)).reverse.map fun n => initial path (n + 1)

/-- The last component of a path, if it names an entry. -/
def fileName? (path : String) : Option String :=
  (components path).getLast?.filter (· != "..")

/-- The path seen from the root, where `current` is the directory at hand.  Two slashes at the start
and one at the end are kept. -/
def absolute (current path : String) : String :=
  let text := path.toList
  let whole := if isAbsolute path then path else join current path
  let two := ['/', '/'].isPrefixOf text && ! ['/', '/', '/'].isPrefixOf text
  let plain := (if two then "/" else "") ++ ofComponents true (components whole)
  if Text.endsWith ['/'] text && ! Text.endsWith ['/'] plain.toList then plain ++ "/" else plain

end ProviderGlue.Path
