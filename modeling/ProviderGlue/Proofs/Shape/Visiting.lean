import ProviderGlue.Proofs.Shape.Expansion

/-!
# Which ancestors matter

The expansion of a type is cut at the types that are under expansion already.  Of these, only the
ones that the type leads to can matter: others never come up again.  So the order of the ancestors
and how often each is named make no difference, and a type that leads to none of its ancestors is
expanded as if it stood alone, wherever it is reached.

An expansion may keep its ancestors on one stack, which a type is pushed on for as long as its fields
are expanded.  `Run` follows such an expansion step by step.  Every run gives back the stack as it
found it, which is why the ancestors can be passed down as an argument.

## Key results

- `fieldsBelow_congr`: ancestors that a type does not lead to make no difference to its fields
- `run_iff`: an expansion with a stack gives the same shapes, and restores the stack
- `expandsLocally`: what ancestors can change in an expansion
-/

namespace ProviderGlue.Structs

variable {types : Structs} {path path' : List String} {name : String}

/-! ## Where types lead -/

/-- A type leads to itself, and to the types that its fields lead to, those of reserved fields
aside. -/
inductive LeadsTo (types : Structs) : String → String → Prop
  | self {name : String} : LeadsTo types name name
  | field {name other : String} {s : Go.Struct} {d : Go.Field} : types.get? name = some s →
    d ∈ openFields s → LeadsTo types (Go.baseName d.type) other → LeadsTo types name other

/-- Ancestors matter only as far as the type leads to them. -/
theorem fieldsBelow_congr
    (h : ∀ other ∈ types.keys, LeadsTo types name other → (other ∈ path ↔ other ∈ path')) :
    fieldsBelow types path name = fieldsBelow types path' name := by
  -- the fields lead to no more than the type does, and both paths grow by the type itself
  fun_induction fieldsBelow types path name generalizing path' with
  | case1 path name hget => rw [fieldsBelow_of_none hget]
  | case2 path name s hget hpath =>
    have hpath' : name ∈ path' := (h name (Table.mem_keys_iff.2 ⟨s, hget⟩) .self).1 hpath
    rw [fieldsBelow_of_mem hpath']
  | case3 path name s hget hpath ih =>
    have hpath' : name ∉ path' := fun hmem =>
      hpath ((h name (Table.mem_keys_iff.2 ⟨s, hget⟩) .self).2 hmem)
    rw [fieldsBelow_of_get? hget hpath']
    refine List.map_congr_left fun d hd => ?_
    have hbelow : fieldsBelow types (name :: path) (Go.baseName d.type) =
        fieldsBelow types (name :: path') (Go.baseName d.type) := by
      apply ih d
      intro other hother hleads
      rw [List.mem_cons, List.mem_cons, h other hother (.field hget hd hleads)]
    rw [fieldBelow, ← hbelow]

/-- A type that is not known has no shape. -/
theorem expandBelow?_of_none (h : types.get? name = none) : expandBelow? types path name = none := by
  rw [expandBelow?, h]
  rfl

/-- The shapes of a type agree where the fields do. -/
theorem expandBelow?_congr
    (h : ∀ other ∈ types.keys, LeadsTo types name other → (other ∈ path ↔ other ∈ path')) :
    expandBelow? types path name = expandBelow? types path' name := by
  rw [expandBelow?, expandBelow?, fieldsBelow_congr h]

/-! ## Expansion with a stack -/

/-- The shape of a struct with the given fields. -/
def shapeWith (s : Go.Struct) (fields : List ShapeField) : Shape where
  name := s.name
  type := s.name
  file := s.file
  fields

/-- The field of a shape for a declared field of a struct, given what the expansion of its type
gives. -/
def fieldWith (s : Go.Struct) (d : Go.Field) (nested : Option Shape) : ShapeField where
  name := d.name
  type := d.type
  tag := d.tag
  isComposite := nested.isSome
  children := (nested.map (·.fields)).getD []
  importAlias := Go.importAlias? d.type
  importPath := (Go.importAlias? d.type).bind s.imports.get?

/-- The shape of a known type has the fields below it. -/
theorem expandBelow?_of_get? {s : Go.Struct} (h : types.get? name = some s) :
    expandBelow? types path name = some (shapeWith s (fieldsBelow types path name)) := by
  rw [expandBelow?, h]
  rfl

mutual

/-- `Run types stack name result left`: the expansion of a type starts on a stack, gives a shape or
none, and leaves a stack.  A known type that is not on the stack is pushed, and after its fields
whatever is on top is popped. -/
inductive Run (types : Structs) : List String → String → Option Shape → List String → Prop
  | unknown {stack : List String} {name : String} : types.get? name = none →
    Run types stack name none stack
  | cut {stack : List String} {name : String} {s : Go.Struct} : types.get? name = some s →
    name ∈ stack → Run types stack name (some (shapeWith s [])) stack
  | expand {stack left : List String} {name : String} {s : Go.Struct} {fields : List ShapeField} :
    types.get? name = some s → name ∉ stack →
    RunFields types s (name :: stack) (openFields s) fields left →
    Run types stack name (some (shapeWith s fields)) left.tail

/-- The declared fields of a struct are expanded one after the other, each on the stack that the one
before has left. -/
inductive RunFields (types : Structs) :
    Go.Struct → List String → List Go.Field → List ShapeField → List String → Prop
  | nil {s : Go.Struct} {stack : List String} : RunFields types s stack [] [] stack
  | cons {s : Go.Struct} {stack between left : List String} {d : Go.Field} {ds : List Go.Field}
    {nested : Option Shape} {fields : List ShapeField} :
    Run types stack (Go.baseName d.type) nested between →
    RunFields types s between ds fields left →
    RunFields types s stack (d :: ds) (fieldWith s d nested :: fields) left

end

/-- The field for a declared one is made from the shape of its type. -/
theorem fieldWith_expandBelow? (types : Structs) (path : List String) (s : Go.Struct)
    (d : Go.Field) :
    fieldWith s d (expandBelow? types path (Go.baseName d.type)) = fieldBelow types path s d := by
  rw [fieldWith, fieldBelow, Table.contains]
  cases hget : types.get? (Go.baseName d.type) with
  | none =>
    rw [expandBelow?_of_none hget, fieldsBelow_of_none hget]
    rfl
  | some t =>
    rw [expandBelow?_of_get? hget]
    rfl

mutual

/-- A run gives the shape below the types of its stack, and leaves the stack as it was. -/
theorem Run.spec {stack left : List String} {name : String} {result : Option Shape} :
    Run types stack name result left → result = expandBelow? types stack name ∧ left = stack
  | .unknown hget => ⟨(expandBelow?_of_none hget).symm, rfl⟩
  | .cut hget hmem => ⟨by rw [expandBelow?_of_get? hget, fieldsBelow_of_mem hmem], rfl⟩
  | .expand hget hnew hfields => by
    obtain ⟨hfields, hleft⟩ := RunFields.spec hfields
    -- the type that is popped is the one that was pushed
    rw [expandBelow?_of_get? hget, fieldsBelow_of_get? hget hnew, hfields, hleft]
    exact ⟨rfl, rfl⟩

/-- The fields of a struct are those below the types of the stack, and the stack is left as it
was. -/
theorem RunFields.spec {s : Go.Struct} {stack left : List String} {ds : List Go.Field}
    {fields : List ShapeField} :
    RunFields types s stack ds fields left →
      fields = ds.map (fieldBelow types stack s) ∧ left = stack
  | .nil => ⟨rfl, rfl⟩
  | .cons hrun hrest => by
    obtain ⟨hnested, hbetween⟩ := Run.spec hrun
    obtain ⟨hfields, hleft⟩ := RunFields.spec hrest
    rw [hbetween] at hfields hleft
    rw [hnested, fieldWith_expandBelow?, hfields]
    exact ⟨rfl, hleft⟩

end

/-- Fields whose types can be expanded on a stack can be expanded one after the other. -/
theorem runFields_map (s : Go.Struct) {stack : List String} {ds : List Go.Field}
    (h : ∀ d ∈ ds, Run types stack (Go.baseName d.type)
      (expandBelow? types stack (Go.baseName d.type)) stack) :
    RunFields types s stack ds (ds.map (fieldBelow types stack s)) stack := by
  induction ds with
  | nil => exact .nil
  | cons d ds ih =>
    rw [List.map_cons, ← fieldWith_expandBelow?]
    exact .cons (h d List.mem_cons_self) (ih fun e he => h e (List.mem_cons_of_mem _ he))

/-- Every type can be expanded on every stack. -/
theorem run_expandBelow? (types : Structs) (stack : List String) (name : String) :
    Run types stack name (expandBelow? types stack name) stack := by
  induction stack, name using fieldsBelow.induct types with
  | case1 stack name hget =>
    rw [expandBelow?_of_none hget]
    exact .unknown hget
  | case2 stack name s hget hmem =>
    rw [expandBelow?_of_get? hget, fieldsBelow_of_mem hmem]
    exact .cut hget hmem
  | case3 stack name s hget hnew ih =>
    rw [expandBelow?_of_get? hget, fieldsBelow_of_get? hget hnew]
    exact .expand hget hnew (runFields_map s fun d _ => ih d)

/-- Runs are exactly the expansions below the types of the stack, and they restore the stack. -/
theorem run_iff {stack left : List String} {result : Option Shape} :
    Run types stack name result left ↔ result = expandBelow? types stack name ∧ left = stack := by
  constructor
  · exact Run.spec
  · rintro ⟨rfl, rfl⟩
    exact run_expandBelow? types left name

/-! ## What ancestors can change -/

/-- The types around a field at a path, that of the shape included. -/
def ancestors (top : String) (as : List ShapeField) : List String := as.map (·.base) ++ [top]

/-- What the types under expansion matter for. -/
structure ExpandsLocally (types : Structs) : Prop where
  /-- Only those count that the type leads to. -/
  same : ∀ {name stack stack'},
    (∀ other ∈ types.keys, LeadsTo types name other → (other ∈ stack ↔ other ∈ stack')) →
    expandBelow? types stack name = expandBelow? types stack' name
  /-- Neither their order nor their number counts. -/
  shuffled : ∀ {name stack stack'}, (∀ other, other ∈ stack ↔ other ∈ stack') →
    expandBelow? types stack name = expandBelow? types stack' name
  /-- A type that leads to none of them is expanded as if there were none. -/
  fresh : ∀ {name stack}, (∀ other ∈ stack, ¬ LeadsTo types name other) →
    expandBelow? types stack name = types.expand? name
  /-- If they are kept on a stack, every expansion ends with its shape and leaves the stack as it
  was. -/
  restored : ∀ {name stack result left},
    Run types stack name result left ↔ result = expandBelow? types stack name ∧ left = stack
  /-- Two fields of a shape are expanded alike if their types are the same and lead to the same ones
  of the types around the fields. -/
  alike : ∀ {top shape as bs f g}, types.expand? top = some shape →
    ShapeField.At shape.fields as f → ShapeField.At shape.fields bs g → f.base = g.base →
    (∀ other, LeadsTo types f.base other →
      (other ∈ ancestors top as ↔ other ∈ ancestors top bs)) →
    f.isComposite = g.isComposite ∧ f.children = g.children
  /-- A field whose type leads to none of the types around it is expanded in full. -/
  full : ∀ {top shape as f}, types.expand? top = some shape → ShapeField.At shape.fields as f →
    (∀ other ∈ ancestors top as, ¬ LeadsTo types f.base other) →
    f.isComposite = (types.expand? f.base).isSome ∧
      ∀ whole, types.expand? f.base = some whole → f.children = whole.fields

/-- What stands at a path of a shape is expanded below the types around it. -/
theorem placed_of_expand? {top : String} {shape : Shape} {as : List ShapeField} {f : ShapeField}
    (hshape : types.expand? top = some shape) (hf : ShapeField.At shape.fields as f) :
    Placed types top as f := by
  apply placed_of_at
  obtain ⟨s, -, rfl⟩ := Option.map_eq_some_iff.1 hshape
  exact hf

/-- **Expansion is local**: whatever the structs, of the types under expansion only those matter that
the expanded type leads to, and an expansion leaves no trace among them. -/
theorem expandsLocally (types : Structs) : ExpandsLocally types where
  same h := expandBelow?_congr h
  shuffled h := expandBelow?_congr fun other _ _ => h other
  fresh h := expandBelow?_congr fun other _ hleads =>
    ⟨fun hmem => absurd hleads (h other hmem), fun hmem => absurd hmem List.not_mem_nil⟩
  restored := run_iff
  alike hshape hf hg hbase h := by
    have hf := placed_of_expand? hshape hf
    have hg := placed_of_expand? hshape hg
    rw [hf.composite, hg.composite, hf.children, hg.children, ← hbase]
    exact ⟨rfl, fieldsBelow_congr fun other _ hleads => h other hleads⟩
  full {top shape as f} hshape hf h := by
    have hf := placed_of_expand? hshape hf
    have hfresh : f.children = fieldsBelow types [] f.base := by
      rw [hf.children]
      refine fieldsBelow_congr fun other _ hleads => ?_
      exact ⟨fun hmem => absurd hleads (h other hmem), fun hmem => absurd hmem List.not_mem_nil⟩
    rw [hf.composite, hfresh, Table.contains, expand?]
    cases hget : types.get? f.base with
    | none =>
      rw [expandBelow?_of_none hget]
      exact ⟨rfl, fun whole hwhole => absurd hwhole (Option.not_mem_none whole)⟩
    | some s =>
      rw [expandBelow?_of_get? hget]
      refine ⟨rfl, fun whole hwhole => ?_⟩
      rw [← Option.some.inj hwhole]
      rfl

end ProviderGlue.Structs
