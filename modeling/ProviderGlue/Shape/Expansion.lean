import ProviderGlue.Catalog
import ProviderGlue.Shape
import ProviderGlue.Go.TypeText

/-!
# Expansion of structs

`expand?` gives the shape of a struct: below each field whose type is a known struct stand the
fields of that type, and so on.  A struct that occurs among its own ancestors is not expanded
again; a struct that occurs on separate paths is expanded on each of them.
-/

namespace ProviderGlue

/-- The names of fields that only serve serialization. -/
def reservedNames : List String := ["ObjectType_", "Reserved_", "UnknownFields_", "Discriminator"]

/-- Whether a field of that name only serves serialization.  Embedded fields never do. -/
def isReserved (name : String) : Bool :=
  ! name.isEmpty && (Text.endsWith ['_'] name.toList || reservedNames.contains name)

namespace Structs

/-- The structs that are not among `path`. -/
def unvisited (types : Structs) (path : List String) : List String :=
  types.keys.filter fun name => ! path.contains name

/-- A path that takes in one more known struct leaves fewer unvisited. -/
theorem length_unvisited_cons {types : Structs} {path : List String} {name : String}
    (hname : name ∈ types.keys) (hpath : name ∉ path) :
    (unvisited types (name :: path)).length < (unvisited types path).length := by
  have heq : unvisited types (name :: path) = (unvisited types path).filter (· ≠ name) := by
    simp only [unvisited, List.filter_filter]
    refine List.filter_congr fun n _ => ?_
    by_cases h : n = name <;> simp [h]
  rw [heq]
  refine List.length_filter_lt_length_iff_exists.2 ⟨name, ?_, by simp⟩
  simpa [unvisited] using ⟨hname, hpath⟩

theorem mem_keys_of_get? {types : Structs} {name : String} {s : Go.Struct}
    (h : types.get? name = some s) : name ∈ types.keys := by
  unfold Table.get? at h
  unfold Table.keys
  generalize types.entries = es at h
  induction es with
  | nil => simp at h
  | cons e es ih =>
    obtain ⟨k, v⟩ := e
    rw [List.lookup_cons] at h
    split at h
    · next heq => simp [eq_of_beq heq]
    · simpa using .inr (by simpa using ih h)

/-- The expanded fields of a struct below the structs of `path`. -/
def fieldsBelow (types : Structs) (path : List String) (name : String) : List ShapeField :=
  match _h : types.get? name with
  | none => []
  | some s =>
    if _hp : name ∈ path then []
    else
      (s.fields.filter fun f => ! isReserved f.name).map fun f =>
        let base := Go.baseName f.type
        let importAlias := Go.importAlias? f.type
        { name := f.name
          type := f.type
          tag := f.tag
          isComposite := types.contains base
          children := fieldsBelow types (name :: path) base
          importAlias
          importPath := importAlias.bind s.imports.get? }
termination_by (unvisited types path).length
decreasing_by exact length_unvisited_cons (mem_keys_of_get? _h) _hp

/-- The shape of a struct below the structs of `path`, if it is known. -/
def expandBelow? (types : Structs) (path : List String) (name : String) : Option Shape :=
  (types.get? name).map fun s =>
    { name := s.name, type := s.name, file := s.file, fields := fieldsBelow types path name }

/-- The shape of a struct, if it is known. -/
def expand? (types : Structs) (name : String) : Option Shape :=
  expandBelow? types [] name

end Structs

end ProviderGlue
