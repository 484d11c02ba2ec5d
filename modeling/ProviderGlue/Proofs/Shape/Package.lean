import ProviderGlue.Proofs.Go.Alias
import ProviderGlue.Proofs.Go.Spelling
import ProviderGlue.Proofs.Shape.Expansion

/-!
# Packages of shapes

A field is expanded to the struct that its type leads to, and gets the path of an alias that is found
in the type.  The two belong together as long as nothing else in the type can be taken for the package
of that struct.  The key of a map can: `map[import1.Key]Gadget` leads to `Gadget` and to the package of
`Key`.

## Key results

- `attached`: which package a type is given, and when it is its own
- `not_attached_keyed`: a map is given the package of its key
-/

namespace ProviderGlue

open Go

/-- The shape of a type is that of the struct which it leads to, with the path of the alias that is
found in it. -/
theorem Structs.expand?_of_shapeOf? {types : Structs} {imports : Imports} {type : String}
    {shape : Shape} (h : types.shapeOf? imports type = some shape) :
    types.expand? (baseName type) = some { shape with importAlias := none, importPath := none } ∧
      shape.importPath = (importAlias? type).bind imports.get? := by
  obtain ⟨bare, hbare, rfl⟩ := Option.map_eq_some_iff.1 h
  obtain ⟨s, -, rfl⟩ := Option.map_eq_some_iff.1 hbare
  cases importAlias? type with
  | none => exact ⟨hbare, rfl⟩
  | some name =>
    dsimp only
    rw [Option.bind_some]
    cases imports.get? name with
    | none => exact ⟨hbare, rfl⟩
    | some path => exact ⟨hbare, rfl⟩

/-- What is read off a type: the struct that it leads to, and the package of that struct. -/
structure Attached (t : TypeExpr) : Prop where
  /-- The declared name is the one that pointers, elements and values lead to. -/
  reached : TypeText.baseName t.text = t.declared.chars
  /-- The alias is the first one among all names of the type. -/
  found : TypeText.importAlias? t.text = t.firstAlias?
  /-- It is the one that the declared name is qualified by, exactly if nothing else in the type can be
  taken for it. -/
  qualifies : TypeText.importAlias? t.text = t.qualifier? ↔ t.Unmistakable
  /-- Then a field gets the package of the struct that it is expanded to. -/
  field : t.Unmistakable → ∀ {types : Structs} {path : List String} {name : String} {f : ShapeField},
    f ∈ types.fieldsBelow path name → f.type = String.ofList t.text →
      f.children = types.fieldsBelow (name :: path) (String.ofList t.declared.chars) ∧
      ∃ s, types.get? name = some s ∧
        f.importPath = (t.qualifier?.map String.ofList).bind s.imports.get?
  /-- And so does a request or response. -/
  shape : t.Unmistakable → ∀ {types : Structs} {imports : Imports} {shape : Shape},
    types.shapeOf? imports (String.ofList t.text) = some shape →
      types.expand? (String.ofList t.declared.chars) =
          some { shape with importAlias := none, importPath := none } ∧
        shape.importPath = (t.qualifier?.map String.ofList).bind imports.get?

/-- **A type is given its own package** unless something else in it can be taken for the package. -/
theorem attached (t : TypeExpr) : Attached t := by
  have hbase : baseName (String.ofList t.text) = String.ofList t.declared.chars := by
    rw [baseName, String.toList_ofList, t.baseName_text]
  have halias (h : t.Unmistakable) :
      importAlias? (String.ofList t.text) = t.qualifier?.map String.ofList := by
    rw [importAlias?, String.toList_ofList, t.importAlias?_text,
      t.firstAlias?_eq_qualifier?_iff.2 h]
  constructor
  case reached => exact t.baseName_text
  case found => exact t.importAlias?_text
  case qualifies => rw [t.importAlias?_text, t.firstAlias?_eq_qualifier?_iff]
  case field =>
    intro h types path name f hf htype
    obtain ⟨-, s, hget, d, -, rfl⟩ := Structs.exists_of_mem_fieldsBelow hf
    change d.type = String.ofList t.text at htype
    refine ⟨?_, s, hget, ?_⟩
    · rw [← hbase, ← htype]
      rfl
    · rw [← halias h, ← htype]
      rfl
  case shape =>
    intro h types imports shape hshape
    rw [← hbase, ← halias h]
    exact Structs.expand?_of_shapeOf? hshape

/-- The type `map[import1.Key]import2.Gadget`. -/
def keyedGadgets : TypeExpr :=
  .map (.named (some (.ofChars "import1".toList (by decide) (by decide)))
      (.ofChars "Key".toList (by decide) (by decide)))
    (.named (some (.ofChars "import2".toList (by decide) (by decide)))
      (.ofChars "Gadget".toList (by decide) (by decide)))

/-- A struct for gadgets. -/
def gadgetStructs : Structs :=
  (∅ : Structs).insert "Gadget" ⟨"Gadget", [⟨"Name", "string", ""⟩], "", ∅⟩

/-- A map leads to the struct of its values, but is given the package of its keys: a response of this
type is the struct `Gadget` of the package of `Key`. -/
theorem not_attached_keyed :
    TypeText.baseName keyedGadgets.text = "Gadget".toList ∧
      keyedGadgets.qualifier? = some "import2".toList ∧
      TypeText.importAlias? keyedGadgets.text = some "import1".toList ∧
      ((gadgetStructs.shapeOf?
          (Table.ofList [("import1", "acme/keys"), ("import2", "acme/models")])
          (String.ofList keyedGadgets.text)).map fun s => (s.name, s.importPath)) =
        some ("Gadget", some "acme/keys") := by
  decide +kernel

end ProviderGlue
