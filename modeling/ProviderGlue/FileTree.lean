import ProviderGlue.Failure
import ProviderGlue.Path

/-!
# File trees

A tree of directories and files as a value.  `FileTree.get?` is its view: what stands at a
location, the list of names from the root down.  Writing gives a new tree:

* `get?_put`  `(t.put l e).get? l' = if l' = l then some e else t.get? l'`, for `l ≠ []`
-/

namespace ProviderGlue

/-- Where an entry stands: the names from the root down. -/
abbrev Location := List String

/-- What stands at a location. -/
inductive Entry where
  | directory
  /-- A file that holds text. -/
  | text (content : List Char)
  /-- A file that holds no text. -/
  | binary
deriving DecidableEq

/-- The entries below the root, and the directory that relative paths start from. -/
structure FileTree where
  /-- The entries by their locations. -/
  entries : List (Location × Entry) := []
  /-- The directory at hand. -/
  current : Location := []
  /-- No location has two entries. -/
  distinct : (entries.map (·.1)).Nodup := by exact List.nodup_nil

namespace FileTree

/-- What stands at a location.  The root is a directory. -/
def get? (t : FileTree) (l : Location) : Option Entry :=
  if l = [] then some .directory else t.entries.lookup l

/-- The tree with an entry at a location. -/
def put (t : FileTree) (l : Location) (e : Entry) : FileTree where
  entries := (l, e) :: t.entries.filter (·.1 ≠ l)
  current := t.current
  distinct := by
    refine List.nodup_cons.2 ⟨fun h => ?_, t.distinct.sublist (List.filter_sublist.map _)⟩
    obtain ⟨e', he', heq⟩ := List.mem_map.1 h
    exact of_decide_eq_true (List.mem_filter.1 he').2 heq

theorem lookup_filter_ne {l l' : Location} (h : l' ≠ l) (es : List (Location × Entry)) :
    (es.filter (·.1 ≠ l)).lookup l' = es.lookup l' := by
  induction es with
  | nil => rfl
  | cons e es ih =>
    obtain ⟨k, v⟩ := e
    by_cases hk : k = l
    · subst hk
      simpa [List.filter_cons, List.lookup_cons, beq_eq_false_iff_ne.2 h] using ih
    · by_cases hl : l' = k
      · subst hl
        simp [hk]
      · simpa [List.filter_cons, hk, List.lookup_cons, beq_eq_false_iff_ne.2 hl] using ih

theorem get?_put (t : FileTree) {l l' : Location} (e : Entry) (h : l ≠ []) :
    (t.put l e).get? l' = if l' = l then some e else t.get? l' := by
  by_cases hl : l' = l
  · subst hl
    simp [get?, put, h]
  · by_cases hn : l' = []
    · simp [get?, hn, Ne.symm h]
    · simp only [get?, hn, if_false, put, hl, List.lookup_cons]
      rw [beq_eq_false_iff_ne.2 hl]
      exact lookup_filter_ne hl t.entries

/-! ## Following paths -/

/-- What stands at a location that is to be passed through. -/
def enter (t : FileTree) (l : Location) : Except AccessFault Unit :=
  match t.get? l with
  | some .directory => .ok ()
  | some _ => .error .notADirectory
  | none => .error .notFound

/-- Where a path starts. -/
def start (t : FileTree) (path : String) : Location :=
  if Path.isAbsolute path then [] else t.current

/-- The location that components lead to from a location. -/
def follow (t : FileTree) : (l : Location) → (pieces : List String) → Except AccessFault Location
  | l, [] => if (t.get? l).isSome then .ok l else .error .notFound
  | l, p :: ps =>
    match t.enter l with
    | .error fault => .error fault
    | .ok () =>
      if Path.isCurrent p then follow t l ps
      else if p = ".." then follow t l.dropLast ps
      else follow t (l ++ [p]) ps

/-- The entry that a path leads to. -/
def entry (t : FileTree) (path : String) : Except AccessFault (Location × Entry) :=
  if path.isEmpty then .error .notFound
  else match t.follow (t.start path) (Path.pieces path) with
    | .error fault => .error fault
    | .ok l =>
      match t.get? l with
      | some e => .ok (l, e)
      | none => .error .notFound

/-- Whether a path leads to a directory. -/
def isDirectory (t : FileTree) (path : String) : Bool :=
  match t.entry path with
  | .ok (_, .directory) => true
  | _ => false

/-- The text of the file that a path leads to. -/
def readText (t : FileTree) (path : String) : Except Failure (List Char) :=
  match t.entry path with
  | .error fault => .error (.access path fault)
  | .ok (_, .directory) => .error (.access path .isADirectory)
  | .ok (_, .binary) => .error (.access path .notText)
  | .ok (_, .text content) => .ok content

/-- The names of the directories in the directory that a path leads to. -/
def subdirectories (t : FileTree) (path : String) : List String :=
  match t.entry path with
  | .ok (l, .directory) =>
    t.entries.filterMap fun (m, e) =>
      if m.dropLast = l ∧ e = .directory then m.getLast? else none
  | _ => []

/-- The files below a location, by the names from there on, in the order of these names. -/
def filesBelow (t : FileTree) (l : Location) : List (Location × Entry) :=
  let below := t.entries.filterMap fun (m, e) =>
    if m.take l.length = l ∧ m.length > l.length ∧ e ≠ .directory then
      some (m.drop l.length, e)
    else none
  below.mergeSort fun a b => Text.notBehind a.1 b.1

/-! ## Writing -/

/-- The tree with the directory of a path, which is made in the directory that it stands in. -/
def makeDirectory (t : FileTree) (path : String) : Except AccessFault FileTree :=
  -- slashes at the end of a path lead nowhere
  let pieces := Text.dropEndWhile String.isEmpty (Path.pieces path)
  match pieces.getLast? with
  | none => .error (if Path.isAbsolute path then .alreadyExists else .notFound)
  | some name =>
    match t.follow (t.start path) pieces.dropLast with
    | .error fault => .error fault
    | .ok l =>
      match t.enter l with
      | .error fault => .error fault
      | .ok () =>
        if Path.isCurrent name ∨ name = ".." ∨ (t.get? (l ++ [name])).isSome then
          .error .alreadyExists
        else .ok (t.put (l ++ [name]) .directory)

/-- The tree with the directory of a path, which is made if it is missing. -/
def ensureDirectory (t : FileTree) (path : String) : Except AccessFault FileTree :=
  if t.isDirectory path then .ok t else t.makeDirectory path

/-- Makes the directory of the first path.  The other paths are those of the directories around it,
the nearest first, and are made before it if it is missing for want of them.  What has been made
stays, even if a directory cannot be made. -/
def ensureWithin (t : FileTree) : (paths : List String) → FileTree × Except AccessFault Unit
  | [] => (t, .ok ())
  | path :: outer =>
    match t.ensureDirectory path with
    | .ok made => (made, .ok ())
    | .error .notFound =>
      match t.ensureWithin outer with
      | (around, .error fault) => (around, .error fault)
      | (around, .ok ()) =>
        match around.ensureDirectory path with
        | .ok made => (made, .ok ())
        | .error fault => (around, .error fault)
    | .error fault => (t, .error fault)

/-- Makes the directory of a path, and those on the way to it. -/
def ensureDirectories (t : FileTree) (path : String) : FileTree × Except Failure Unit :=
  let paths := if path.isEmpty then [] else path :: Path.around path
  let (made, outcome) := t.ensureWithin paths
  (made, outcome.mapError (.access path))

/-- The tree with the directory of a path, and with those on the way to it. -/
def makeDirectories (t : FileTree) (path : String) : Except Failure FileTree :=
  match t.ensureDirectories path with
  | (made, .ok ()) => .ok made
  | (_, .error e) => .error e

/-- Where a file can be written. -/
def place (t : FileTree) (path : String) : Except AccessFault Location :=
  let pieces := Path.pieces path
  match pieces.getLast? with
  | none => .error .notFound
  | some name =>
    match t.follow (t.start path) pieces.dropLast with
    | .error fault => .error fault
    | .ok l =>
      match t.enter l with
      | .error fault => .error fault
      | .ok () =>
        if Path.isCurrent name ∨ name = ".." ∨ t.get? (l ++ [name]) = some .directory then
          .error .isADirectory
        else .ok (l ++ [name])

/-- The tree with a file at a path. -/
def write (t : FileTree) (path : String) (content : List Char) : Except Failure FileTree :=
  match t.place path with
  | .ok l => .ok (t.put l (.text content))
  | .error fault => .error (.access path fault)

end FileTree

end ProviderGlue
