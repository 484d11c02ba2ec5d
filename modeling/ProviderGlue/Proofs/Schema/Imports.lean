import ProviderGlue.Proofs.Go.Qualifier
import ProviderGlue.Proofs.Schema.Coherence

/-!
# Imports of a plan

Types in the code of a plan are written with the aliases of their packages.  Aliases are given out
while nodes are made, one for each path: the one that the source uses, or another number if a
different path has that one.  In the end, only the aliases that the code mentions are imported.

So the imports of a plan are exactly those that the code needs, and each written type comes from the
package that declares it (`Spells`).  That package is the one behind the alias in the type of the
field, or else the package of the struct that the field belongs to (`declaredIn`).

## Key results

- `aliasFor_aliased`: paths get different aliases, and keep them
- `qualified?_spells`: the type of a field is written with the alias of its package
- `steady_imported`: every step of a plan keeps aliases and written types as they have to be
- `build_rightImports`: the imports of a plan are exact and right
-/

namespace ProviderGlue.Schema

open Text Go

/-! ## The package of a type -/

/-- The package of the fields that stand below the fields `as`, the nearest first: that of the
nearest one which has an alias, or else that of the shape. -/
def scopePath (root : Option String) (as : List ShapeField) : Option String :=
  match as.find? (·.importAlias.isSome) with
  | some f => f.importPath
  | none => root

/-- Whether the element type of a field is written with an alias of the form `importN`. -/
def isQualified (f : ShapeField) : Bool :=
  let element := TypeText.elementType f.type.toList
  element.contains '.' && (TypeText.importAlias? element).isSome

/-- The package that declares the type of a field in a scope. -/
def declaredIn (scope : Option String) (f : ShapeField) : Option String :=
  if isQualified f then f.importPath else scope

/-- The type of a field in a scope, as it is written where `Named` relates paths to aliases. -/
inductive Spells (Named : (path name : String) → Prop) (scope : Option String) (f : ShapeField) :
    String → Prop
  | bare : declaredIn scope f = none → Spells Named scope f (baseName f.type)
  | qualified {path name : String} : declaredIn scope f = some path → Named path name →
    Spells Named scope f (name ++ "." ++ baseName f.type)

/-- The type of a union's value, as it is written if its member is the field of a scope. -/
def SpellsValue (Named : (path name : String) → Prop) (scope : Option String) (f : ShapeField)
    (value : String) : Prop :=
  ∃ wrapping ∈ ["", "[]", "[]*"], ∃ type, value = wrapping ++ type ∧ Spells Named scope f type

section Spells

variable {Named Named' : (path name : String) → Prop} {scope : Option String} {f : ShapeField}
  {type : String}

theorem Spells.mono (himp : ∀ {path name}, Named path name → Named' path name)
    (h : Spells Named scope f type) : Spells Named' scope f type := by
  cases h with
  | bare hnone => exact .bare hnone
  | qualified hpath hname => exact .qualified hpath (himp hname)

theorem SpellsValue.mono (himp : ∀ {path name}, Named path name → Named' path name)
    (h : SpellsValue Named scope f type) : SpellsValue Named' scope f type := by
  obtain ⟨wrapping, hwrapping, type, heq, hspells⟩ := h
  exact ⟨wrapping, hwrapping, type, heq, hspells.mono himp⟩

end Spells

/-! ## Aliases of a draft -/

namespace Draft

/-- Different paths have different aliases, all of which are numbered. -/
structure Aliased (d : Draft) : Prop where
  nodup : d.aliases.values.Nodup
  numbered : ∀ name ∈ d.aliases.values, IsNumbered name

theorem Aliased.empty : Aliased {} := ⟨List.nodup_nil, fun _ h => absurd h List.not_mem_nil⟩

/-- Whether an alias stands for a path. -/
def Names (d : Draft) (path name : String) : Prop := d.aliases.get? path = some name

/-- A path has the alias that it gets. -/
theorem aliasFor_aliased {path : String} {preferred : Option String} {d : Draft} (h : Aliased d)
    (hpreferred : ∀ name ∈ preferred, IsNumbered name) :
    Aliased (aliasFor path preferred d).2 ∧
      (aliasFor path preferred d).2.Names path (aliasFor path preferred d).1 := by
  rcases aliasFor_cases path preferred d with ⟨name, hget, hrun⟩ | ⟨hget, name, hname, hform, hrun⟩
  · rw [hrun]
    exact ⟨h, hget⟩
  · -- the new alias is numbered, whether it was preferred or not
    have hnumbered : IsNumbered name := by
      rcases hform with hname | ⟨k, rfl⟩
      · exact hpreferred name hname
      · rw [numbered, if_neg (Nat.not_lt_zero k)]
        refine ⟨(toString k).toList, by simp, fun c hc => ?_⟩
        rw [Nat.toString_eq_repr, Nat.toList_repr] at hc
        exact Nat.isDigit_of_mem_toDigits (by decide) (by decide) hc
    have hperm := Table.values_insert_perm name hget
    rw [hrun]
    refine ⟨⟨hperm.nodup_iff.2 (List.nodup_cons.2 ⟨hname, h.nodup⟩), fun other hother => ?_⟩, ?_⟩
    · rcases List.mem_cons.1 (hperm.mem_iff.1 hother) with rfl | hother
      · exact hnumbered
      · exact h.numbered other hother
    · rw [Names, Table.get?_insert, if_pos rfl]

/-- What is known before the draft grows is known afterwards. -/
theorem Grows.names {d d' : Draft} (h : d.Grows d') {path name : String} (hname : d.Names path name) :
    d'.Names path name :=
  h.aliases hname

end Draft

/-- Whether the types and aliases of a field are those of ASCII sources. -/
structure HasNumberedImports (f : ShapeField) : Prop where
  ascii : ∀ c ∈ f.type.toList, c.toNat < 0x80
  numbered : ∀ name ∈ f.importAlias, IsNumbered name

namespace Draft

/-- The type of a field is written with the alias of the package that declares it. -/
theorem qualified?_spells {outer : Package} {f : ShapeField} {d : Draft} (h : Aliased d)
    (houter : ∀ name ∈ outer.preferred, IsNumbered name) (hf : HasNumberedImports f) :
    Aliased (qualified? outer f d).2 ∧
      ∀ type ∈ (qualified? outer f d).1, Spells (qualified? outer f d).2.Names outer.path f type := by
  simp only [qualified?]
  split
  · -- the type mentions a package of its own
    next hdot =>
    cases halias : TypeText.importAlias? (TypeText.elementType f.type.toList) with
    | none => exact ⟨h, fun type htype => absurd htype (Option.not_mem_none type)⟩
    | some name =>
      cases hpath : f.importPath with
      | none => exact ⟨h, fun type htype => absurd htype (Option.not_mem_none type)⟩
      | some path =>
        have hnumbered : IsNumbered (String.ofList name) :=
          TypeText.isNumbered_of_importAlias?
            (fun c hc => hf.ascii c (TypeText.mem_of_mem_elementType hc)) halias
        have hdeclared : declaredIn outer.path f = some path := by
          have hqualified : isQualified f = true := by
            simp only [isQualified, halias, List.contains_iff_mem.2 hdot]
            rfl
          rw [declaredIn, if_pos hqualified, hpath]
        have haliased := @aliasFor_aliased path _ _ h
          fun other hother => Option.some.inj hother ▸ hnumbered
        simp only [Option.map_some, run_bind, run_pure]
        refine ⟨haliased.1, fun type htype => ?_⟩
        rw [← Option.some.inj htype]
        exact .qualified hdeclared haliased.2
  · -- the type belongs to the package of its scope
    next hdot =>
    have hplain : declaredIn outer.path f = outer.path := by
      have hqualified : isQualified f = false := by
        simp only [isQualified, Bool.and_eq_false_iff]
        exact .inl (by simpa using hdot)
      rw [declaredIn, hqualified]
      rfl
    cases hpath : outer.path with
    | none =>
      refine ⟨h, fun type htype => ?_⟩
      rw [← Option.some.inj htype, ← hpath]
      exact .bare (hplain.trans hpath)
    | some path =>
      have haliased := @aliasFor_aliased path _ _ h houter
      simp only [run_bind, run_pure]
      refine ⟨haliased.1, fun type htype => ?_⟩
      rw [← Option.some.inj htype, ← hpath]
      exact .qualified (hplain.trans hpath) haliased.2

/-- The type of a union's value is written with the alias of its member's package. -/
theorem unionType?_spells {outer : Package} {f : ShapeField} {d : Draft} (h : Aliased d)
    (houter : ∀ name ∈ outer.preferred, IsNumbered name) (hf : HasNumberedImports f) :
    Aliased (unionType? outer f d).2 ∧
      ∀ type ∈ (unionType? outer f d).1,
        SpellsValue (unionType? outer f d).2.Names outer.path f type := by
  obtain ⟨haliased, hspells⟩ := qualified?_spells h houter hf
  rw [(unionType?_run outer f d).1]
  refine ⟨haliased, fun value hvalue => ?_⟩
  simp only [unionType?, run_bind, run_pure] at hvalue
  obtain ⟨type, htype, rfl⟩ := Option.map_eq_some_iff.1 hvalue
  refine ⟨_, ?_, type, rfl, hspells type htype⟩
  split <;> decide

end Draft

/-! ## Drafts with written types -/

/-- A function reads the struct of some field, whose type is written as it has to be, and so is the
type of the union in the struct. -/
def SpellsFunction (Named : (path name : String) → Prop) (root : Option String) (top : ShapeField)
    (g : FlattenFunction) : Prop :=
  ∃ as f, ShapeField.At [top] as f ∧ Spells Named (scopePath root as) f g.type ∧
    ∀ u ∈ g.union, ∃ c ∈ f.children, isUnionMember c.name = true ∧
      SpellsValue Named (scopePath root (f :: as)) c u.type

/-- A table is for the values of some field, whose type is written as it has to be. -/
def SpellsTable (Named : (path name : String) → Prop) (root : Option String) (top : ShapeField)
    (t : EnumTable) : Prop :=
  ∃ as f, ShapeField.At [top] as f ∧ Spells Named (scopePath root as) f t.type

/-- What a field of a scope calls is for the type that the field has. -/
structure Calls (Named : (path name : String) → Prop) (functions : List FlattenFunction)
    (tables : List EnumTable) (scope : Option String) (f : ShapeField) (kind : NodeKind) : Prop where
  function : ∀ {name}, kind.functionCall? = some name →
    ∃ g ∈ functions, g.name = name ∧ Spells Named scope f g.type
  table : ∀ {name}, kind.tableCall? = some name →
    ∃ t ∈ tables, t.flatten = name ∧ Spells Named scope f t.type

/-- All types in the code of a draft are written as they have to be. -/
structure Imported (root : Option String) (top : ShapeField) (d : Draft) : Prop where
  aliased : d.Aliased
  functions : ∀ g ∈ d.functions, SpellsFunction d.Names root top g
  types : ∀ {type t}, d.tables.get? type = some t → t.type = type
  tables : ∀ t ∈ d.tables.values, SpellsTable d.Names root top t

section Steps

variable {Named Named' : (path name : String) → Prop} {root : Option String} {top f : ShapeField}
  {d : Draft} {outer : Package}

theorem SpellsFunction.mono {g : FlattenFunction}
    (himp : ∀ {path name}, Named path name → Named' path name)
    (h : SpellsFunction Named root top g) : SpellsFunction Named' root top g := by
  obtain ⟨as, f, hat, htype, hunion⟩ := h
  refine ⟨as, f, hat, htype.mono himp, fun u hu => ?_⟩
  obtain ⟨c, hc, hmember, hvalue⟩ := hunion u hu
  exact ⟨c, hc, hmember, hvalue.mono himp⟩

theorem SpellsTable.mono {t : EnumTable}
    (himp : ∀ {path name}, Named path name → Named' path name)
    (h : SpellsTable Named root top t) : SpellsTable Named' root top t := by
  obtain ⟨as, f, hat, htype⟩ := h
  exact ⟨as, f, hat, htype.mono himp⟩

namespace Calls

variable {functions : List FlattenFunction} {tables : List EnumTable} {scope : Option String}
  {kind : NodeKind}

theorem of_plain (hfunction : kind.functionCall? = none) (htable : kind.tableCall? = none) :
    Calls Named functions tables scope f kind where
  function heq := by rw [hfunction] at heq; exact nomatch heq
  table heq := by rw [htable] at heq; exact nomatch heq

theorem enumeration {flatten : String} (hfunction : kind.functionCall? = none)
    (htable : kind.tableCall? = some flatten)
    (h : ∃ t ∈ tables, t.flatten = flatten ∧ Spells Named scope f t.type) :
    Calls Named functions tables scope f kind where
  function heq := by rw [hfunction] at heq; exact nomatch heq
  table heq := by rwa [htable.symm.trans heq |> Option.some.inj] at h

theorem struct {flatten : String} (hfunction : kind.functionCall? = some flatten)
    (htable : kind.tableCall? = none)
    (h : ∃ g ∈ functions, g.name = flatten ∧ Spells Named scope f g.type) :
    Calls Named functions tables scope f kind where
  function heq := by rwa [hfunction.symm.trans heq |> Option.some.inj] at h
  table heq := by rw [htable] at heq; exact nomatch heq

theorem plainKind (type : List Char) :
    Calls Named functions tables scope f (Schema.plainKind type) := by
  fun_cases Schema.plainKind type <;> exact of_plain rfl rfl

theorem mono {d' : Draft} (hgrows : d.Grows d')
    (h : Calls d.Names d.functions d.tables.values scope f kind) :
    Calls d'.Names d'.functions d'.tables.values scope f kind where
  function heq := by
    obtain ⟨g, hg, hname, htype⟩ := h.function heq
    exact ⟨g, hgrows.functions.subset hg, hname, htype.mono hgrows.names⟩
  table heq := by
    obtain ⟨t, ht, hname, htype⟩ := h.table heq
    exact ⟨t, values_subset hgrows t ht, hname, htype.mono hgrows.names⟩

end Calls

theorem Imported.empty : Imported root top {} where
  aliased := .empty
  functions _ hg := absurd hg List.not_mem_nil
  types h := nomatch h
  tables _ ht := absurd ht List.not_mem_nil

/-- More aliases change no written type. -/
theorem Imported.of_aliases {aliases : Table String} (h : Imported root top d)
    (haliased : Draft.Aliased { d with aliases }) (hgrows : d.Grows { d with aliases }) :
    Imported root top { d with aliases } where
  aliased := haliased
  functions g hg := (h.functions g hg).mono hgrows.names
  types := h.types
  tables t ht := (h.tables t ht).mono hgrows.names

theorem qualified?_imported (houter : ∀ name ∈ outer.preferred, IsNumbered name)
    (hf : HasNumberedImports f) (h : Imported root top d) :
    Keeps (Imported root top) d (Draft.qualified? outer f) fun r d' =>
      ∀ type ∈ r, Spells d'.Names outer.path f type := by
  obtain ⟨aliases, hrun, hkeep, -⟩ := Draft.qualified?_run outer f d
  obtain ⟨haliased, hspells⟩ := Draft.qualified?_spells h.aliased houter hf
  refine ⟨?_, Draft.qualified?_grows outer f d, hspells⟩
  rw [hrun] at haliased ⊢
  exact h.of_aliases haliased (.of_aliases hkeep)

theorem unionType?_imported (houter : ∀ name ∈ outer.preferred, IsNumbered name)
    (hf : HasNumberedImports f) (h : Imported root top d) :
    Keeps (Imported root top) d (Draft.unionType? outer f) fun r d' =>
      ∀ type ∈ r, SpellsValue d'.Names outer.path f type := by
  refine ⟨?_, Draft.unionType?_grows outer f d, (Draft.unionType?_spells h.aliased houter hf).2⟩
  rw [(Draft.unionType?_run outer f d).1]
  exact (qualified?_imported houter hf h).good

theorem flattenFor_imported {type : String} {union : Option UnionBranch} (nodes : List Node)
    (hg : ∀ name, SpellsFunction d.Names root top ⟨name, type, union, nodes⟩)
    (h : Imported root top d) :
    Keeps (Imported root top) d (Draft.flattenFor type union nodes) fun name d' =>
      ∃ g ∈ d'.functions, g.name = name ∧ g.type = type := by
  have hgrows := Draft.flattenFor_grows type union nodes d
  rcases Draft.flattenFor_run type union nodes d with ⟨g, hmem, hsig, hrun⟩ | ⟨-, name, -, hrun⟩
  · -- a function for that type is there already
    rw [FlattenFunction.signature, Prod.mk.injEq] at hsig
    refine ⟨by rw [hrun]; exact h, hgrows, ?_⟩
    rw [hrun]
    exact ⟨g, hmem, rfl, hsig.1⟩
  · refine ⟨?_, hgrows, ?_⟩
    · rw [hrun]
      exact ⟨⟨h.aliased.nodup, h.aliased.numbered⟩, List.forall_mem_cons.2 ⟨hg name, h.functions⟩,
        h.types, h.tables⟩
    · rw [hrun]
      exact ⟨_, List.mem_cons_self, rfl, rfl⟩

theorem enumFlattenFor_imported (e : Enumeration) {type : String}
    (ht : ∃ as f, ShapeField.At [top] as f ∧ Spells d.Names (scopePath root as) f type)
    (h : Imported root top d) :
    Keeps (Imported root top) d (Draft.enumFlattenFor e type) fun name d' =>
      ∃ t ∈ d'.tables.values, t.flatten = name ∧ t.type = type := by
  have hgrows := Draft.enumFlattenFor_grows e type d
  rcases Draft.enumFlattenFor_run e type d with ⟨t, hget, hrun⟩ | ⟨hget, flatten, table, -, -, hrun⟩
  · -- a table for that type is there already
    refine ⟨by rw [hrun]; exact h, hgrows, ?_⟩
    rw [hrun]
    exact ⟨t, Table.mem_values_iff.2 ⟨type, hget⟩, rfl, h.types hget⟩
  · have hvalues := Table.values_insert_perm (⟨flatten, table, type, e⟩ : EnumTable) hget
    refine ⟨?_, hgrows, ?_⟩
    · rw [hrun]
      refine ⟨⟨h.aliased.nodup, h.aliased.numbered⟩, h.functions, fun {type' t} hget' => ?_,
        fun t hmem => ?_⟩
      · rw [Table.get?_insert] at hget'
        split at hget'
        · next heq => rw [← Option.some.inj hget', heq]
        · exact h.types hget'
      · rcases List.mem_cons.1 (hvalues.mem_iff.1 hmem) with rfl | hmem
        · exact ht
        · exact h.tables t hmem
    · rw [hrun]
      exact ⟨_, hvalues.mem_iff.2 List.mem_cons_self, rfl, rfl⟩

/-- A field stands below `top`, in the scope of a package. -/
structure InScope (root : Option String) (top : ShapeField) (outer : Package) (f : ShapeField) :
    Prop where
  place : ∃ as, ShapeField.At [top] as f ∧ outer.path = scopePath root as
  preferred : ∀ name ∈ outer.preferred, IsNumbered name

theorem InScope.within (h : InScope root top outer f) : f.Within [top] := by
  obtain ⟨as, hat, -⟩ := h.place
  exact hat.within

theorem path_below {as : List ShapeField} (h : outer.path = scopePath root as) :
    (outer.below f).path = scopePath root (f :: as) := by
  rw [Package.below, scopePath, List.find?_cons]
  cases f.importAlias with
  | none => exact h
  | some name => rfl

theorem InScope.child {c : ShapeField} (hf : HasNumberedImports f) (h : InScope root top outer f)
    (hc : c ∈ f.children) : InScope root top (outer.below f) c := by
  obtain ⟨as, hat, hpath⟩ := h.place
  refine ⟨⟨f :: as, .child hat hc, path_below hpath⟩, ?_⟩
  have hnumbered := hf.numbered
  rw [Package.below]
  cases halias : f.importAlias with
  | none => exact h.preferred
  | some name =>
    rw [halias] at hnumbered
    exact hnumbered

theorem enumKind_imported (e : Enumeration) (hf : HasNumberedImports f)
    (hscope : InScope root top outer f) (h : Imported root top d) :
    Keeps (Imported root top) d (enumKind e outer f) fun kind d' =>
      Calls d'.Names d'.functions d'.tables.values outer.path f kind := by
  simp only [enumKind]
  split
  · exact .pure h (.of_plain rfl rfl)
  · refine (qualified?_imported hscope.preferred hf h).bind ?_
    rintro (_ | type) d₁ hd₁ - hspells
    · exact .pure hd₁ (.of_plain rfl rfl)
    · have hspells := hspells type rfl
      obtain ⟨as, hat, hpath⟩ := hscope.place
      -- the table is for the written type, which stays written as the draft grows
      refine (enumFlattenFor_imported e ⟨as, f, hat, hpath ▸ hspells⟩ hd₁).bind ?_
      rintro flatten d₂ hd₂ hgrows ⟨t, ht, hflatten, rfl⟩
      have hspells := hspells.mono hgrows.names
      split
      · exact .pure hd₂ (.enumeration rfl rfl ⟨t, ht, hflatten, hspells⟩)
      · exact .pure hd₂ (.enumeration rfl rfl ⟨t, ht, hflatten, hspells⟩)

theorem leafKind_imported (enums : List Enumeration) (hf : HasNumberedImports f)
    (hscope : InScope root top outer f) (h : Imported root top d) :
    Keeps (Imported root top) d (leafKind enums outer f) fun kind d' =>
      Calls d'.Names d'.functions d'.tables.values outer.path f kind := by
  unfold leafKind
  cases enumNamed? enums (baseName f.type) with
  | none => exact .pure h (.plainKind _)
  | some e =>
    dsimp only
    split
    · exact .pure h (.plainKind _)
    · exact enumKind_imported e hf hscope h

theorem objectKind_imported (nodes : List Node) {union : Option UnionBranch}
    (hf : HasNumberedImports f) (hscope : InScope root top outer f)
    (hunion : SelectedFrom (fun outer c u => SpellsValue d.Names outer.path c u.type)
      (outer.below f) f.children union)
    (h : Imported root top d) :
    Keeps (Imported root top) d (objectKind outer f nodes union) fun r d' =>
      Calls d'.Names d'.functions d'.tables.values outer.path f r.1 := by
  unfold objectKind
  split
  · exact .pure h (.of_plain rfl rfl)
  · refine (qualified?_imported hscope.preferred hf h).bind ?_
    rintro (_ | type) d₁ hd₁ hgrows hspells
    · exact .pure hd₁ (.of_plain rfl rfl)
    · have hspells := hspells type rfl
      obtain ⟨as, hat, hpath⟩ := hscope.place
      -- the union comes from a field below, so its package is looked up from there
      have hfunction : ∀ name, SpellsFunction d₁.Names root top ⟨name, type, union, nodes⟩ := by
        refine fun name => ⟨as, f, hat, hpath ▸ hspells, fun u hu => ?_⟩
        obtain ⟨c, hc, hmember, hvalue⟩ := hunion u hu
        rw [path_below hpath] at hvalue
        exact ⟨c, hc, hmember, hvalue.mono hgrows.names⟩
      refine (flattenFor_imported nodes hfunction hd₁).bind ?_
      rintro flatten d₂ hd₂ hgrows ⟨g, hg, hname, rfl⟩
      have hspells := hspells.mono hgrows.names
      exact .pure hd₂ (.struct rfl rfl ⟨g, hg, hname, hspells⟩)

/-- Every step of a plan keeps drafts with written types, if all fields are numbered. -/
theorem steady_imported (enums : List Enumeration) (root : Option String)
    (htop : ∀ f : ShapeField, f.Within [top] → HasNumberedImports f) :
    Steady enums (InScope root top) (Imported root top)
      (fun d outer f u => SpellsValue d.Names outer.path f u.type)
      fun d outer f kind _ => (∃ as, ShapeField.At [top] as f ∧ outer.path = scopePath root as) ∧
        Calls d.Names d.functions d.tables.values outer.path f kind where
  children hf hc := hf.child (htop _ hf.within) hc
  grows hgrows := And.imp id (Calls.mono hgrows)
  selects hgrows := SpellsValue.mono hgrows.names
  unfilled hf := ⟨hf.place, .of_plain rfl rfl⟩
  union hd hf := unionType?_imported hf.preferred (htop _ hf.within) hd
  leaf hd hf _ := by
    have hleaf := leafKind_imported enums (htop _ hf.within) hf hd
    exact ⟨hleaf.good, hleaf.grows, hf.place, hleaf.post⟩
  object {_ _ _ nodes _} hd hf _ hselected _ := by
    have hobject := objectKind_imported nodes (htop _ hf.within) hf hselected hd
    exact ⟨hobject.good, hobject.grows, hf.place, hobject.post⟩

end Steps

/-! ## Packages of written types -/

/-- A type that is written with an alias mentions that package and no other. -/
theorem qualifiers_qualified {wrapping name : String} (type : String)
    (hwrapping : wrapping ∈ ["", "[]", "[]*"]) (hname : IsNumbered name) :
    TypeText.qualifiers (wrapping ++ (name ++ "." ++ baseName type)).toList = [name.toList] := by
  have hbrackets : ∀ c ∈ wrapping.toList, c = '[' ∨ c = ']' ∨ c = '*' := by
    simp only [List.mem_cons, List.not_mem_nil, or_false] at hwrapping
    rcases hwrapping with rfl | rfl | rfl <;> simp
  have htext : (wrapping ++ (name ++ "." ++ baseName type)).toList =
      wrapping.toList ++ (name.toList ++ '.' :: (baseName type).toList) := by
    simp
  rw [htext]
  rw [← String.ofList_toList (s := name)] at hname
  exact TypeText.qualifiers_append hbrackets hname (dot_not_mem_baseName type)

/-- A type that is written without an alias mentions no package. -/
theorem qualifiers_bare {wrapping : String} (type : String)
    (hwrapping : wrapping ∈ ["", "[]", "[]*"]) :
    TypeText.qualifiers (wrapping ++ baseName type).toList = [] := by
  refine TypeText.qualifiersFrom_of_no_dot ?_
  rw [String.toList_append, List.mem_append, not_or]
  refine ⟨?_, dot_not_mem_baseName type⟩
  simp only [List.mem_cons, List.not_mem_nil, or_false] at hwrapping
  rcases hwrapping with rfl | rfl | rfl <;> decide

/-- The packages that a written type mentions are known by name. -/
theorem SpellsValue.exists_named {Named : (path name : String) → Prop} {scope : Option String}
    {f : ShapeField} {value : String} (h : SpellsValue Named scope f value)
    (hnumbered : ∀ {path name}, Named path name → IsNumbered name) :
    ∀ name ∈ TypeText.qualifiers value.toList, ∃ path, Named path (String.ofList name) := by
  intro name hname
  obtain ⟨wrapping, hwrapping, type, rfl, hspells⟩ := h
  cases hspells with
  | bare hnone =>
    rw [qualifiers_bare _ hwrapping] at hname
    exact absurd hname List.not_mem_nil
  | qualified hpath hnamed =>
    rw [qualifiers_qualified _ hwrapping (hnumbered hnamed), List.mem_singleton] at hname
    exact ⟨_, by rw [hname, String.ofList_toList]; exact hnamed⟩

/-! ## Plans -/

namespace Plan

/-- The types that the code of a plan mentions. -/
def types (p : Plan) : List String :=
  p.functions.flatMap (fun g => g.type :: (g.union.map (·.type)).toList) ++ p.tables.map (·.type)

/-- Whether a plan imports a path under a name. -/
def Named (p : Plan) (path name : String) : Prop := ⟨name, path⟩ ∈ p.imports

/-- The imports of a plan for the fields of `top` are those that its code needs, where `outer` is the
package of the shape. -/
structure RightImports (p : Plan) (outer : Package) (top : ShapeField) : Prop where
  /-- Names of imports are the word `import` and a number. -/
  numbered : ∀ i ∈ p.imports, IsNumbered i.name
  /-- Different imports have different names. -/
  names : (p.imports.map (·.name)).Nodup
  /-- Different imports have different paths. -/
  paths : (p.imports.map (·.path)).Nodup
  /-- Each package that a type mentions is imported once. -/
  mentioned : ∀ type ∈ p.types, ∀ name ∈ TypeText.qualifiers type.toList,
    ∃ i, p.imports.filter (·.name = String.ofList name) = [i]
  /-- Each import is mentioned by a type. -/
  used : ∀ i ∈ p.imports, ∃ type ∈ p.types, i.name.toList ∈ TypeText.qualifiers type.toList
  /-- What functions read comes from the package that declares it. -/
  functions : ∀ g ∈ p.functions, SpellsFunction p.Named outer.path top g
  /-- The function that reads a response is for the type of its payload. -/
  call : ∀ c ∈ p.rootCall, ∃ g ∈ p.functions, g.name = c.flatten ∧
    Spells p.Named outer.path top g.type
  /-- What tables are for comes from the package that declares it. -/
  tables : ∀ t ∈ p.tables, SpellsTable p.Named outer.path top t
  /-- What the nodes of the schema call is for the types that their fields have. -/
  nodes : p.root = [] ∨
    Traces (fun scope f kind _ => ∃ as, ShapeField.At [top] as f ∧
      scope.path = scopePath outer.path as ∧
      Calls p.Named p.functions p.tables (scopePath outer.path as) f kind)
      (origins false (outer.below top) top.children) p.root

end Plan

/-- The imports that some packages ask for. -/
def importsOf (packages : List String) (entries : List (String × String)) : List Import :=
  entries.filterMap fun (path, name) => if packages.contains name then some ⟨name, path⟩ else none

theorem mem_importsOf {packages : List String} {entries : List (String × String)} {i : Import} :
    i ∈ importsOf packages entries ↔ (i.path, i.name) ∈ entries ∧ i.name ∈ packages := by
  simp only [importsOf, List.mem_filterMap]
  constructor
  · rintro ⟨⟨path, name⟩, hentry, heq⟩
    split at heq
    · next hname =>
      rw [← Option.some.inj heq]
      exact ⟨hentry, List.contains_iff_mem.1 hname⟩
    · exact nomatch heq
  · rintro ⟨hentry, hname⟩
    exact ⟨_, hentry, if_pos (List.contains_iff_mem.2 hname)⟩

/-- Imports keep the order of the entries. -/
theorem importsOf_sublist (packages : List String) (entries : List (String × String)) :
    ((importsOf packages entries).map fun i => (i.path, i.name)).Sublist entries := by
  induction entries with
  | nil => exact .slnil
  | cons e entries ih =>
    obtain ⟨path, name⟩ := e
    simp only [importsOf, List.filterMap_cons]
    by_cases hname : packages.contains name = true
    · rw [if_pos hname]
      exact ih.cons_cons _
    · rw [if_neg hname]
      exact ih.cons _

section Build

variable {d : Draft} {outer : Package} {top : ShapeField} {p : Plan}

/-- The code of a draft only mentions types of fields. -/
theorem Imported.exists_spellsValue (h : Imported outer.path top d) {type : String}
    (htype : type ∈ Plan.mentionedTypes d) :
    ∃ scope f, SpellsValue d.Names scope f type := by
  have plain : ∀ {scope f type}, Spells d.Names scope f type → SpellsValue d.Names scope f type :=
    fun hspells => ⟨"", by decide, _, String.empty_append.symm, hspells⟩
  rcases List.mem_append.1 htype with hmem | hmem
  · obtain ⟨g, hg, hmem⟩ := List.mem_flatMap.1 hmem
    obtain ⟨as, f, -, hspells, hunion⟩ := h.functions g hg
    rcases List.mem_cons.1 hmem with rfl | hmem
    · exact ⟨_, _, plain hspells⟩
    · obtain ⟨u, hu, rfl⟩ := Option.map_eq_some_iff.1 (Option.mem_toList.1 hmem)
      obtain ⟨c, -, -, hvalue⟩ := hunion u hu
      exact ⟨_, _, hvalue⟩
  · obtain ⟨t, ht, rfl⟩ := List.mem_map.1 hmem
    obtain ⟨as, f, -, hspells⟩ := h.tables t ht
    exact ⟨_, _, plain hspells⟩

theorem Imported.isNumbered (h : Imported outer.path top d) {path name : String}
    (hname : d.Names path name) : IsNumbered name :=
  h.aliased.numbered name (Table.mem_values_iff.2 ⟨path, hname⟩)

variable (himports : p.imports = importsOf (Plan.mentionedPackages d) d.aliases.entries)

include himports

theorem named_iff {path name : String} :
    p.Named path name ↔ d.Names path name ∧ name ∈ Plan.mentionedPackages d := by
  rw [Plan.Named, himports, mem_importsOf]
  exact and_congr_left' Table.mem_entries_iff

/-- A type that the code mentions is written with imported packages. -/
theorem Imported.spells_wrapped (h : Imported outer.path top d) {scope : Option String}
    {f : ShapeField} {wrapping type : String} (hwrapping : wrapping ∈ ["", "[]", "[]*"])
    (hmem : wrapping ++ type ∈ Plan.mentionedTypes d) (hspells : Spells d.Names scope f type) :
    Spells p.Named scope f type := by
  cases hspells with
  | bare hnone => exact .bare hnone
  | @qualified path name hpath hname =>
    refine .qualified hpath ((named_iff himports).2 ⟨hname, ?_⟩)
    refine List.mem_flatMap.2 ⟨_, hmem, ?_⟩
    rw [qualifiers_qualified _ hwrapping (h.isNumbered hname)]
    exact List.mem_singleton.2 String.ofList_toList.symm

theorem Imported.spells (h : Imported outer.path top d) {scope : Option String} {f : ShapeField}
    {type : String} (hmem : type ∈ Plan.mentionedTypes d) (hspells : Spells d.Names scope f type) :
    Spells p.Named scope f type := by
  refine h.spells_wrapped himports List.mem_cons_self ?_ hspells
  rw [String.empty_append]
  exact hmem

theorem Imported.spells_function (h : Imported outer.path top d) {g : FlattenFunction}
    (hg : g ∈ d.functions) {scope : Option String} {f : ShapeField}
    (hspells : Spells d.Names scope f g.type) : Spells p.Named scope f g.type :=
  h.spells himports
    (List.mem_append_left _ (List.mem_flatMap.2 ⟨g, hg, List.mem_cons_self⟩)) hspells

theorem Imported.spells_table (h : Imported outer.path top d) {t : EnumTable}
    (ht : t ∈ d.tables.values) {scope : Option String} {f : ShapeField}
    (hspells : Spells d.Names scope f t.type) : Spells p.Named scope f t.type :=
  h.spells himports (List.mem_append_right _ (List.mem_map_of_mem ht)) hspells

theorem Imported.spellsFunction (h : Imported outer.path top d) {g : FlattenFunction}
    (hg : g ∈ d.functions) : SpellsFunction p.Named outer.path top g := by
  obtain ⟨as, f, hat, hspells, hunion⟩ := h.functions g hg
  refine ⟨as, f, hat, h.spells_function himports hg hspells, fun u hu => ?_⟩
  obtain ⟨c, hc, hmember, wrapping, hwrapping, type, heq, hspells⟩ := hunion u hu
  refine ⟨c, hc, hmember, wrapping, hwrapping, type, heq,
    h.spells_wrapped himports hwrapping ?_ hspells⟩
  have hmem : u.type ∈ (g.union.map (·.type)).toList := by
    rw [Option.mem_toList, hu]
    rfl
  rw [← heq]
  exact List.mem_append_left _ (List.mem_flatMap.2 ⟨g, hg, List.mem_cons_of_mem _ hmem⟩)

theorem Imported.spellsTable (h : Imported outer.path top d) {t : EnumTable}
    (ht : t ∈ d.tables.values) : SpellsTable p.Named outer.path top t := by
  obtain ⟨as, f, hat, hspells⟩ := h.tables t ht
  exact ⟨as, f, hat, h.spells_table himports ht hspells⟩

theorem Imported.calls (h : Imported outer.path top d) {scope : Option String} {f : ShapeField}
    {kind : NodeKind} (hcalls : Calls d.Names d.functions d.tables.values scope f kind) :
    Calls p.Named d.functions d.tables.values scope f kind where
  function heq := by
    obtain ⟨g, hg, hname, hspells⟩ := hcalls.function heq
    exact ⟨g, hg, hname, h.spells_function himports hg hspells⟩
  table heq := by
    obtain ⟨t, ht, hname, hspells⟩ := hcalls.table heq
    exact ⟨t, ht, hname, h.spells_table himports ht hspells⟩

/-- A draft with written types makes a plan with the right imports. -/
theorem Imported.rightImports (h : Imported outer.path top d) {kind : NodeKind}
    (hfunctions : p.functions = d.functions) (htables : p.tables = d.tables.values)
    (hcall : p.rootCall.map (·.flatten) = kind.functionCall?)
    (hcalls : Calls d.Names d.functions d.tables.values outer.path top kind)
    (hroot : p.root = [] ∨
      Traces (fun scope f kind _ =>
        (∃ as, ShapeField.At [top] as f ∧ scope.path = scopePath outer.path as) ∧
          Calls d.Names d.functions d.tables.values scope.path f kind)
        (origins false (outer.below top) top.children) p.root) :
    p.RightImports outer top := by
  have htypes : p.types = Plan.mentionedTypes d := by
    rw [Plan.types, hfunctions, htables, Plan.mentionedTypes]
  have hentries := importsOf_sublist (Plan.mentionedPackages d) d.aliases.entries
  rw [← himports] at hentries
  have hnames : (p.imports.map (·.name)).Nodup := by
    have hsub := (hentries.map Prod.snd).nodup h.aliased.nodup
    rw [List.map_map] at hsub
    exact hsub
  -- what the draft knows of aliases and types becomes a fact about the imports of the plan
  constructor
  case numbered =>
    intro i hi
    have himport : p.Named i.path i.name := hi
    exact h.isNumbered ((named_iff himports).1 himport).1
  case names => exact hnames
  case paths =>
    have hsub := (hentries.map Prod.fst).nodup d.aliases.nodup_keys
    rw [List.map_map] at hsub
    exact hsub
  case mentioned =>
    intro type htype name hname
    rw [htypes] at htype
    obtain ⟨scope, f, hspells⟩ := h.exists_spellsValue htype
    obtain ⟨path, hnamed⟩ := hspells.exists_named h.isNumbered name hname
    -- the draft knows the package, and imports it since the code mentions it
    have hpackage : String.ofList name ∈ Plan.mentionedPackages d :=
      List.mem_flatMap.2 ⟨type, htype, List.mem_map_of_mem hname⟩
    have himport : p.Named path (String.ofList name) := (named_iff himports).2 ⟨hnamed, hpackage⟩
    exact ⟨_, filter_eq_singleton (·.name) hnames himport⟩
  case used =>
    intro i hi
    have himport : p.Named i.path i.name := hi
    obtain ⟨-, hpackage⟩ := (named_iff himports).1 himport
    obtain ⟨type, htype, hname⟩ := List.mem_flatMap.1 hpackage
    obtain ⟨name, hname, heq⟩ := List.mem_map.1 hname
    refine ⟨type, htypes ▸ htype, ?_⟩
    rw [← heq, String.toList_ofList]
    exact hname
  case functions =>
    intro g hg
    exact h.spellsFunction himports (hfunctions ▸ hg)
  case call =>
    intro c hc
    rw [hc, Option.map_some] at hcall
    rw [hfunctions]
    exact (h.calls himports hcalls).function hcall.symm
  case tables =>
    intro t ht
    exact h.spellsTable himports (htables ▸ ht)
  case nodes =>
    refine hroot.imp id fun htraces => htraces.mono ?_
    rintro scope f kind _ ⟨⟨as, hat, hpath⟩, hcalls⟩
    rw [hpath] at hcalls
    rw [hfunctions, htables]
    exact ⟨as, hat, hpath, h.calls himports hcalls⟩

end Build

/-! ## Shapes from ASCII sources -/

/-- Whether the types and aliases of a shape are those of ASCII sources. -/
structure NumberedShape (s : Shape) : Prop where
  ascii : ∀ c ∈ s.name.toList, c.toNat < 0x80
  numbered : ∀ name ∈ s.importAlias, IsNumbered name
  fields : ∀ f : ShapeField, f.Within s.fields → HasNumberedImports f

/-- The field with the payload is as good as the shape. -/
theorem NumberedShape.payload {s : Shape} (h : NumberedShape s) {f : ShapeField}
    (hf : f.Within [(Plan.payload s).1]) : HasNumberedImports f := by
  rcases ShapeField.within_cons_iff.1 hf with rfl | hf | hf
  · unfold Plan.payload
    cases henvelope : Plan.envelope? s with
    | some f =>
      have hmem := (Option.filter_eq_some_iff.1 henvelope).1
      exact h.fields f (.here (List.mem_of_head? hmem))
    | none =>
      refine ⟨fun c hc => ?_, nofun⟩
      rw [String.toList_append, List.mem_append] at hc
      rcases hc with hc | hc
      · rw [List.mem_singleton.1 hc]
        decide
      · exact h.ascii c hc
  · exact h.fields f (Plan.within_of_payload hf)
  · exact absurd hf ShapeField.not_within_nil

/-- The imports of a plan are exact and right, for every shape from ASCII sources. -/
theorem build_rightImports {s : Shape} (hs : NumberedShape s) (enums : List Enumeration)
    (reserved : List String) :
    (Plan.build s enums reserved).RightImports ⟨s.importPath, s.importAlias⟩ (Plan.payload s).1 := by
  have hscope : InScope s.importPath (Plan.payload s).1 ⟨s.importPath, s.importAlias⟩
      (Plan.payload s).1 :=
    ⟨⟨[], .top List.mem_cons_self, rfl⟩, hs.numbered⟩
  have hrun := (steady_imported enums s.importPath fun f => hs.payload).planned.1 reserved
    ⟨s.importPath, s.importAlias⟩ (Plan.payload s).1 hscope {} .empty
  refine hrun.good.rightImports rfl rfl rfl ?_ hrun.post.1.2 hrun.post.2
  -- the call for the response flattens the payload, where that is a struct
  simp only [Plan.build, StateT.run]
  generalize content enums reserved ⟨s.importPath, s.importAlias⟩ (Plan.payload s).1 {} = r
  obtain ⟨⟨kind, root⟩, d⟩ := r
  cases kind <;> rfl

end ProviderGlue.Schema
