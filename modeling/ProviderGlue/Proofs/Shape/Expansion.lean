import Mathlib.Data.List.Forall2
import Mathlib.Data.List.Nodup
import Mathlib.Data.List.Perm.Subperm
import ProviderGlue.Proofs.Table
import ProviderGlue.Proofs.Shape.Field

/-!
# Expansion is faithful and free of cycles

The fields below a field are those that its type declares, unless the type occurs among its own
ancestors: no path of a shape expands a type twice.

The proof follows one field down its path.  What `fieldsBelow` was called with can be read off the
path itself (`Placed`), so all that holds of a field is known from the fields around it.

## Key results

- `fieldsBelow_of_get?`: the fields of a struct below other structs
- `placed_of_at`: what stands at a path of a shape
- `expand?_faithful`: the shape of a known struct is faithful to the declarations
-/

namespace ProviderGlue

/-- The declared name of the type of a field. -/
def ShapeField.base (f : ShapeField) : String := Go.baseName f.type

namespace Structs

variable {types : Structs} {path : List String} {name : String}

/-! ## Fields below a path -/

/-- The field of a shape for a declared field of a struct, below the structs of `path`. -/
def fieldBelow (types : Structs) (path : List String) (s : Go.Struct) (d : Go.Field) :
    ShapeField where
  name := d.name
  type := d.type
  tag := d.tag
  isComposite := types.contains (Go.baseName d.type)
  children := fieldsBelow types path (Go.baseName d.type)
  importAlias := Go.importAlias? d.type
  importPath := (Go.importAlias? d.type).bind s.imports.get?

/-- The declared fields of a struct that are not reserved. -/
def openFields (s : Go.Struct) : List Go.Field :=
  s.fields.filter fun d => ! isReserved d.name

theorem fieldsBelow_of_none (h : types.get? name = none) : fieldsBelow types path name = [] := by
  fun_cases fieldsBelow types path name with
  | case1 => rfl
  | case2 => rfl
  | case3 s hget => rw [h] at hget; exact nomatch hget

/-- A struct among its ancestors is not expanded. -/
theorem fieldsBelow_of_mem (h : name ∈ path) : fieldsBelow types path name = [] := by
  fun_cases fieldsBelow types path name with
  | case1 => rfl
  | case2 => rfl
  | case3 s hget hpath => exact absurd h hpath

/-- Any other struct has the fields that it declares. -/
theorem fieldsBelow_of_get? {s : Go.Struct} (h : types.get? name = some s) (hpath : name ∉ path) :
    fieldsBelow types path name = (openFields s).map (fieldBelow types (name :: path) s) := by
  fun_cases fieldsBelow types path name with
  | case1 hget => rw [h] at hget; exact nomatch hget
  | case2 s' hget hmem => exact absurd hmem hpath
  | case3 s' hget =>
    rw [h] at hget
    rw [← Option.some.inj hget]
    rfl

/-- A field that is found comes from a known struct that is not among its ancestors. -/
theorem exists_of_mem_fieldsBelow {f : ShapeField} (h : f ∈ fieldsBelow types path name) :
    name ∉ path ∧ ∃ s, types.get? name = some s ∧
      ∃ d ∈ openFields s, fieldBelow types (name :: path) s d = f := by
  by_cases hpath : name ∈ path
  · rw [fieldsBelow_of_mem hpath] at h
    exact absurd h List.not_mem_nil
  · cases hget : types.get? name with
    | none =>
      rw [fieldsBelow_of_none hget] at h
      exact absurd h List.not_mem_nil
    | some s =>
      rw [fieldsBelow_of_get? hget hpath, List.mem_map] at h
      exact ⟨hpath, s, rfl, h⟩

/-! ## Paths of a shape -/

/-- What is known of a field below the fields `as` in the shape of `top`. -/
structure Placed (types : Structs) (top : String) (as : List ShapeField) (f : ShapeField) :
    Prop where
  children : f.children = fieldsBelow types (as.map (·.base) ++ [top]) f.base
  composite : f.isComposite = types.contains f.base
  unreserved : isReserved f.name = false
  nodup : (as.map (·.base) ++ [top]).Nodup
  known : ∀ name ∈ as.map (·.base) ++ [top], name ∈ types.keys

/-- A field that a struct declares is placed if its path is the one that it is expanded with. -/
theorem placed_fieldBelow {top : String} (as : List ShapeField) {s : Go.Struct} {d : Go.Field}
    (hd : d ∈ openFields s) (hnodup : (as.map (·.base) ++ [top]).Nodup)
    (hknown : ∀ name ∈ as.map (·.base) ++ [top], name ∈ types.keys) :
    Placed types top as (fieldBelow types (as.map (·.base) ++ [top]) s d) where
  children := rfl
  composite := rfl
  unreserved := by
    have hopen := (List.mem_filter.1 hd).2
    rw [Bool.not_eq_true'] at hopen
    exact hopen
  nodup := hnodup
  known := hknown

/-- One step down a path: the type of the field above joins the ancestors. -/
theorem Placed.child {top : String} {as : List ShapeField} {f c : ShapeField}
    (h : Placed types top as f) (hc : c ∈ f.children) : Placed types top (f :: as) c := by
  rw [h.children] at hc
  -- as `f` has a field below it, its type is known and was not cut
  obtain ⟨hnew, s, hget, d, hd, rfl⟩ := exists_of_mem_fieldsBelow hc
  refine placed_fieldBelow (f :: as) hd (List.nodup_cons.2 ⟨hnew, h.nodup⟩) ?_
  intro name hname
  rcases List.mem_cons.1 hname with rfl | hname
  · exact Table.mem_keys_iff.2 ⟨s, hget⟩
  · exact h.known name hname

/-- Every field of a shape is placed. -/
theorem placed_of_at {top : String} {as : List ShapeField} {f : ShapeField}
    (h : f.At (fieldsBelow types [] top) as) : Placed types top as f := by
  -- down the path, so that the ancestors are known before the field
  induction h with
  | top hmem =>
    obtain ⟨-, s, hget, d, hd, rfl⟩ := exists_of_mem_fieldsBelow hmem
    refine placed_fieldBelow [] hd (List.nodup_singleton top) ?_
    intro name hname
    rw [List.mem_singleton.1 hname]
    exact Table.mem_keys_iff.2 ⟨s, hget⟩
  | child _ hc ih => exact ih.child hc

/-! ## Faithful shapes -/

/-- The types that are expanded along a path. -/
def expandedTypes (path : List ShapeField) : List String :=
  (path.filter fun f => f.isComposite && ! f.children.isEmpty).map (·.base)

/-- A field of a shape stands for a field that a struct declares. -/
structure Declared (s : Go.Struct) (d : Go.Field) (f : ShapeField) : Prop where
  name : f.name = d.name
  type : f.type = d.type
  tag : f.tag = d.tag
  importAlias : f.importAlias = Go.importAlias? d.type
  importPath : f.importPath = (Go.importAlias? d.type).bind s.imports.get?

/-- A shape of a struct agrees with the declarations. -/
structure Faithful (types : Structs) (top : String) (shape : Shape) : Prop where
  /-- No path expands a type twice. -/
  distinct : ∀ {as f}, ShapeField.At shape.fields as f → (top :: expandedTypes (f :: as)).Nodup
  /-- There are no more levels than structs. -/
  levels : ShapeField.listLevels shape.fields ≤ types.keys.length
  /-- Fields are composite exactly if their types are known. -/
  composite : ∀ {as f}, ShapeField.At shape.fields as f →
    (f.isComposite = true ↔ f.base ∈ types.keys)
  /-- Only composite fields have fields below them. -/
  leaf : ∀ {as f}, ShapeField.At shape.fields as f → f.isComposite = false → f.children = []
  /-- A composite field has no fields below it exactly if its type stands among its ancestors or
  declares only reserved fields. -/
  cut : ∀ {as f}, ShapeField.At shape.fields as f → f.isComposite = true →
    ∃ s, types.get? f.base = some s ∧ (f.children = [] ↔
      (f.base = top ∨ ∃ a ∈ as, f.base = a.base) ∨ ∀ d ∈ s.fields, isReserved d.name = true)
  /-- Otherwise the declared fields stand below it, in order. -/
  children : ∀ {as f}, ShapeField.At shape.fields as f → f.isComposite = true →
    ¬ (f.base = top ∨ ∃ a ∈ as, f.base = a.base) →
    ∃ s, types.get? f.base = some s ∧ List.Forall₂ (Declared s) (openFields s) f.children
  /-- The shape itself stands for its struct. -/
  struct : ∃ s, types.get? top = some s ∧ shape.name = s.name ∧ shape.type = s.name ∧
    shape.file = s.file ∧ List.Forall₂ (Declared s) (openFields s) shape.fields
  /-- No field is reserved. -/
  unreserved : ∀ {as f}, ShapeField.At shape.fields as f → isReserved f.name = false

/-- Expanded fields stand for the declared ones. -/
theorem forall₂_fieldBelow (types : Structs) (path : List String) (s : Go.Struct)
    (ds : List Go.Field) : List.Forall₂ (Declared s) ds (ds.map (fieldBelow types path s)) := by
  induction ds with
  | nil => exact .nil
  | cons d ds ih => exact .cons ⟨rfl, rfl, rfl, rfl, rfl⟩ ih

theorem openFields_eq_nil_iff {s : Go.Struct} :
    openFields s = [] ↔ ∀ d ∈ s.fields, isReserved d.name = true := by
  rw [openFields, List.filter_eq_nil_iff]
  simp only [Bool.not_eq_true', Bool.not_eq_false]

namespace Placed

variable {top : String} {as : List ShapeField} {f : ShapeField}

theorem mem_path_iff :
    f.base ∈ as.map (·.base) ++ [top] ↔ f.base = top ∨ ∃ a ∈ as, f.base = a.base := by
  rw [List.mem_append, List.mem_singleton, List.mem_map, or_comm]
  simp only [eq_comm]

theorem composite_iff (h : Placed types top as f) : f.isComposite = true ↔ f.base ∈ types.keys := by
  rw [h.composite, Table.contains_iff]

/-- The types that are expanded along a path are among those of the path, and differ from the type
at its end. -/
theorem distinct (h : Placed types top as f) : (top :: expandedTypes (f :: as)).Nodup := by
  have hsub : (expandedTypes as).Sublist (as.map (·.base)) :=
    List.filter_sublist.map _
  have hnodup : (top :: as.map (·.base)).Nodup :=
    (List.perm_append_singleton _ _).nodup_iff.1 h.nodup
  rw [expandedTypes, List.filter_cons]
  split
  · next hexpanded =>
    -- a field that is expanded is not cut
    have hnew : f.base ∉ as.map (·.base) ++ [top] := fun hmem => by
      rw [h.children, fieldsBelow_of_mem hmem] at hexpanded
      simp at hexpanded
    have hall : (f.base :: (as.map (·.base) ++ [top])).Nodup := List.nodup_cons.2 ⟨hnew, h.nodup⟩
    have hperm : (f.base :: (as.map (·.base) ++ [top])).Perm (top :: f.base :: as.map (·.base)) :=
      ((List.perm_append_singleton _ _).cons _).trans (List.Perm.swap _ _ _)
    exact ((hsub.cons_cons f.base).cons_cons top).nodup (hperm.nodup_iff.1 hall)
  · exact (hsub.cons_cons top).nodup hnodup

/-- A path is no longer than there are structs. -/
theorem length_lt (h : Placed types top as f) : as.length < types.keys.length := by
  have hle := (List.subperm_of_subset h.nodup h.known).length_le
  rw [List.length_append, List.length_map, List.length_singleton] at hle
  exact hle

end Placed

/-- **Expansion is faithful**: the shape of a known struct follows the declarations down to where a
type would be expanded inside itself. -/
theorem expand?_faithful (types : Structs) (top : String) (htop : top ∈ types.keys) :
    ∃ shape, types.expand? top = some shape ∧ Faithful types top shape := by
  obtain ⟨s, hget⟩ := Table.mem_keys_iff.1 htop
  have hshape : types.expand? top =
      some ⟨s.name, s.name, s.file, fieldsBelow types [] top, none, none⟩ := by
    rw [expand?, expandBelow?, hget, Option.map_some]
  have struct_of : ∀ {as f}, ShapeField.At (fieldsBelow types [] top) as f → f.isComposite = true →
      ∃ s, types.get? f.base = some s := fun hf hcomposite =>
    Table.mem_keys_iff.1 ((placed_of_at hf).composite_iff.1 hcomposite)
  refine ⟨_, hshape, ?_⟩
  constructor
  case distinct => exact fun hf => (placed_of_at hf).distinct
  case levels => exact ShapeField.listLevels_le _ fun as f hf => (placed_of_at hf).length_lt
  case composite => exact fun hf => (placed_of_at hf).composite_iff
  case leaf =>
    intro as f hf hleaf
    have hf := placed_of_at hf
    rw [hf.composite, Table.contains, Option.isSome_eq_false_iff,
      Option.isNone_iff_eq_none] at hleaf
    rw [hf.children, fieldsBelow_of_none hleaf]
  case cut =>
    intro as f hf hcomposite
    obtain ⟨s, hget⟩ := struct_of hf hcomposite
    refine ⟨s, hget, ?_⟩
    rw [(placed_of_at hf).children, ← Placed.mem_path_iff, ← openFields_eq_nil_iff]
    -- without the cut, only a struct with nothing but reserved fields has none
    by_cases hpath : f.base ∈ as.map (·.base) ++ [top]
    · rw [fieldsBelow_of_mem hpath]
      exact ⟨fun _ => .inl hpath, fun _ => rfl⟩
    · rw [fieldsBelow_of_get? hget hpath, List.map_eq_nil_iff]
      exact ⟨.inr, fun h => h.resolve_left hpath⟩
  case children =>
    intro as f hf hcomposite hpath
    obtain ⟨s, hget⟩ := struct_of hf hcomposite
    rw [← Placed.mem_path_iff] at hpath
    rw [(placed_of_at hf).children, fieldsBelow_of_get? hget hpath]
    exact ⟨s, hget, forall₂_fieldBelow _ _ s _⟩
  case struct =>
    refine ⟨s, hget, rfl, rfl, rfl, ?_⟩
    show List.Forall₂ (Declared s) (openFields s) (fieldsBelow types [] top)
    rw [fieldsBelow_of_get? hget List.not_mem_nil]
    exact forall₂_fieldBelow _ _ s _
  case unreserved => exact fun hf => (placed_of_at hf).unreserved

/-- Two structs that contain each other, with a field that is reserved. -/
def mutualStructs : Structs :=
  (∅ : Structs).insert "Group" ⟨"Group", [⟨"Owner", "*User", ""⟩, ⟨"Reserved_", "User", ""⟩], "", ∅⟩
    |>.insert "User" ⟨"User", [⟨"Groups", "[]Group", "`json:\"groups\"`"⟩], "", ∅⟩

theorem expand?_faithful_mutualStructs :
    "User" ∈ mutualStructs.keys ∧
      ∃ shape, mutualStructs.expand? "User" = some shape ∧ Faithful mutualStructs "User" shape :=
  ⟨by decide, expand?_faithful mutualStructs "User" (by decide)⟩

end Structs

end ProviderGlue
