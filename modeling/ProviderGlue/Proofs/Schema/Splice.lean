import ProviderGlue.Proofs.Go.Qualifier
import ProviderGlue.Proofs.Go.TypeExpr
import ProviderGlue.Proofs.Go.Wrapper
import ProviderGlue.Proofs.Schema.Additive
import ProviderGlue.Proofs.Schema.Keys

/-!
# The member that takes the place of a union

The first usable member of a union is spliced into the scope: its fields stand where the member
stands, and they are read from the value of the union.  Which member that is depends on the fields
alone, whatever is taken and whatever the draft has.  The type of the union's value is a slice
exactly if the type of the member is one.  An alias that starts with a bracket would hide that, but
no identifier does.

## Key results

- `scope_union_eq_none`, `Steady.scope_selects`: the member that a scope selects
- `steady_slices`: the type of a union's value is a slice like that of the member
- `scope_splices`: what stands where in a scope
-/

namespace ProviderGlue.Schema

open Text Go Unicode

/-! ## Places -/

/-- The field that a node reads, and where the field is found. -/
def Node.place (n : Node) : String × Source := (n.field, n.source)

/-- The place of a node with that origin. -/
def Origin.place (o : Origin) : String × Source := (selector o.field, o.source)

/-- The places of some fields, union members left out. -/
def places (source : Source) (fs : List ShapeField) : List (String × Source) :=
  (fs.filter fun f => ! isUnionMember f.name).map fun f => (selector f, source)

theorem Traces.map_place {Fits : Package → ShapeField → NodeKind → List Node → Prop}
    {os : List Origin} {ns : List Node} (h : Traces Fits os ns) :
    ns.map Node.place = os.map Origin.place := by
  induction h with
  | nil => rfl
  | bare hfield hsource _ _ _ ih =>
    rw [List.map_cons, List.map_cons, ih, Node.place, Origin.place, hfield, hsource]
  | full hfield hsource _ _ _ _ ih =>
    rw [List.map_cons, List.map_cons, ih, Node.place, Origin.place, hfield, hsource]

/-- Whether a field is a union member whose fields can take its place. -/
def isSelectable (f : ShapeField) : Bool := isUnionMember f.name && isSpliced f

theorem branchOrigins_places (outer : Package) (fs : List ShapeField) :
    (branchOrigins outer fs).map Origin.place = places .union fs := by
  rw [branchOrigins, List.map_map]
  rfl

/-- As long as no member is selected, the nodes stand for all other fields. -/
theorem origins_places {spliced : Bool} (outer : Package) {fs : List ShapeField}
    (h : ∀ f ∈ fs, spliced = true ∨ isSelectable f = false) :
    (origins spliced outer fs).map Origin.place = places .receiver fs := by
  induction fs with
  | nil => rfl
  | cons f fs ih =>
    obtain ⟨hf, hfs⟩ := List.forall_mem_cons.1 h
    rw [origins, places]
    split
    · next hunion =>
      have hunused : ¬ (! spliced && isSpliced f) = true := by
        rcases hf with rfl | hf
        · simp
        · rw [isSelectable, hunion, Bool.true_and] at hf
          simp [hf]
      rw [if_neg hunused, List.filter_cons_of_neg (by simp [hunion])]
      exact ih hfs
    · next hnamed =>
      rw [List.filter_cons_of_pos (by simpa using hnamed), List.map_cons, List.map_cons, ih hfs]
      rfl

/-- The fields of the first member that can be selected stand in its place. -/
theorem origins_places_selected (outer : Package) {before after : List ShapeField} {f : ShapeField}
    (hbefore : ∀ c ∈ before, isSelectable c = false) (hf : isSelectable f = true) :
    (origins false outer (before ++ f :: after)).map Origin.place =
      places .receiver before ++ places .union f.children ++ places .receiver after := by
  induction before with
  | nil =>
    obtain ⟨hunion, hspliced⟩ := Bool.and_eq_true_iff.1 hf
    rw [List.nil_append, origins, if_pos hunion, hspliced, Bool.not_false, Bool.and_self,
      if_pos rfl, List.map_append, branchOrigins_places, origins_places outer fun _ _ => .inl rfl]
    rfl
  | cons c before ih =>
    obtain ⟨hc, hbefore⟩ := List.forall_mem_cons.1 hbefore
    rw [List.cons_append, origins, places]
    split
    · next hunion =>
      rw [isSelectable, hunion, Bool.true_and] at hc
      rw [hc, Bool.and_false, if_neg Bool.false_ne_true, List.filter_cons_of_neg (by simp [hunion])]
      exact ih hbefore
    · next hnamed =>
      rw [List.filter_cons_of_pos (by simpa using hnamed), List.map_cons, List.map_cons, ih hbefore]
      rfl

/-! ## Selection -/

section Selection

variable {enums : List Enumeration} {taken : List String} {outer : Package} {d : Draft}

/-- If no member can be selected, or one has been, none is. -/
theorem scope_union_eq_none {spliced : Bool} {fs : List ShapeField}
    (h : ∀ f ∈ fs, spliced = true ∨ isSelectable f = false) :
    (scope enums taken spliced outer fs d).1.2 = none := by
  induction fs generalizing taken d with
  | nil =>
    rw [scope]
    rfl
  | cons f fs ih =>
    obtain ⟨hf, hfs⟩ := List.forall_mem_cons.1 h
    rw [scope]
    split
    · next hunion =>
      cases spliced with
      | true => exact ih hfs
      | false =>
        have hspliced : isSpliced f = false := by
          rcases hf with hf | hf
          · exact absurd hf Bool.false_ne_true
          · rwa [isSelectable, hunion, Bool.true_and] at hf
        simp only [Bool.false_eq_true, if_false, run_bind]
        rw [member_eq_none hspliced]
        exact ih hfs
    · simp only [run_bind]
      exact ih hfs

/-- The first member that can be selected is selected. -/
theorem Steady.scope_selects {Below : Package → ShapeField → Prop} {Good : Draft → Prop}
    {Selects : Draft → Package → ShapeField → UnionBranch → Prop}
    {Fits : Draft → Package → ShapeField → NodeKind → List Node → Prop}
    (h : Steady enums Below Good Selects Fits) {before after : List ShapeField} {f : ShapeField}
    (hbelow : ∀ c ∈ before ++ f :: after, Below outer c)
    (hbefore : ∀ c ∈ before, isSelectable c = false) (hf : isSelectable f = true) (hd : Good d) :
    ∃ u, (scope enums taken false outer (before ++ f :: after) d).1.2 = some u ∧
      ∃ d', Selects d' outer f u := by
  induction before generalizing taken d with
  | nil =>
    obtain ⟨hunion, hspliced⟩ := Bool.and_eq_true_iff.1 hf
    have hmember := h.planned.2.2.1 taken outer f (hbelow f List.mem_cons_self) d hd
    have hsome := member_isSome enums taken outer f d
    rw [List.nil_append, scope, if_pos hunion]
    simp only [Bool.false_eq_true, if_false, run_bind]
    have hpost := hmember.post
    generalize member enums taken outer f d = r at hpost hsome
    obtain ⟨_ | ⟨nodes, u⟩, d₁⟩ := r
    · rw [hspliced] at hsome
      exact absurd hsome Bool.false_ne_true
    · exact ⟨u, rfl, d₁, hpost.2.2⟩
  | cons c before ih =>
    obtain ⟨hc, hbefore⟩ := List.forall_mem_cons.1 hbefore
    obtain ⟨hbelowc, hbelow⟩ := List.forall_mem_cons.1 hbelow
    rw [List.cons_append, scope]
    split
    · next hunion =>
      -- a member before the first is no member to select
      rw [isSelectable, hunion, Bool.true_and] at hc
      have hgood := (h.planned.2.2.1 taken outer c hbelowc d hd).good
      simp only [Bool.false_eq_true, if_false, run_bind]
      rw [member_eq_none hc]
      exact ih hbelow hbefore hgood
    · simp only [run_bind]
      exact ih hbelow hbefore (h.planned.1 [] outer c hbelowc d hd).good

/-- A scope without a member to select. -/
theorem scope_unselected {fs : List ShapeField} (h : ∀ f ∈ fs, isSelectable f = false) :
    (scope enums taken false outer fs d).1.1.map Node.place = places .receiver fs ∧
      (scope enums taken false outer fs d).1.2 = none := by
  have htraces := ((steady_trivial enums).planned.2.1 taken false outer fs
    (fun _ _ => trivial) d trivial).post.1
  have hunused : ∀ f ∈ fs, false = true ∨ isSelectable f = false := fun f hf => .inr (h f hf)
  exact ⟨htraces.map_place.trans (origins_places outer hunused), scope_union_eq_none hunused⟩

/-- The nodes of a scope with a member to select. -/
theorem scope_places_selected {before after : List ShapeField} {f : ShapeField}
    (hbefore : ∀ c ∈ before, isSelectable c = false) (hf : isSelectable f = true) :
    (scope enums taken false outer (before ++ f :: after) d).1.1.map Node.place =
      places .receiver before ++ places .union f.children ++ places .receiver after := by
  have htraces := ((steady_trivial enums).planned.2.1 taken false outer (before ++ f :: after)
    (fun _ _ => trivial) d trivial).post.1
  exact htraces.map_place.trans (origins_places_selected outer hbefore hf)

/-- Some node is read from the value of a union exactly if some place is one in that value. -/
theorem exists_union_iff {ns : List Node} :
    (∃ n ∈ ns, n.source = .union) ↔ ∃ p ∈ ns.map Node.place, p.2 = Source.union := by
  simp only [List.mem_map, exists_exists_and_eq_and, Node.place]

/-- Only what is read from the value of a union stands in that value. -/
theorem source_of_places {source : Source} {fs : List ShapeField} {p : String × Source}
    (h : p ∈ places source fs) : p.2 = source := by
  obtain ⟨f, -, rfl⟩ := List.mem_map.1 h
  rfl

/-- A member that can be selected has a field that takes its place. -/
theorem exists_mem_places (source : Source) {f : ShapeField} (hf : isSelectable f = true) :
    ∃ p, p ∈ places source f.children := by
  obtain ⟨-, hspliced⟩ := Bool.and_eq_true_iff.1 hf
  obtain ⟨-, hany⟩ := Bool.and_eq_true_iff.1 hspliced
  obtain ⟨c, hc, hnamed⟩ := List.any_eq_true.1 hany
  exact ⟨_, List.mem_map_of_mem (List.mem_filter.2 ⟨hc, hnamed⟩)⟩

variable (enums taken outer d) in
/-- A scope has a union exactly if some node is read from the value of the union. -/
theorem scope_union_isSome_iff (fs : List ShapeField) :
    (scope enums taken false outer fs d).1.2.isSome = true ↔
      ∃ n ∈ (scope enums taken false outer fs d).1.1, n.source = .union := by
  rw [exists_union_iff]
  cases hfind : fs.find? isSelectable with
  | none =>
    have hunused : ∀ f ∈ fs, isSelectable f = false := fun f hf =>
      Bool.not_eq_true _ ▸ List.find?_eq_none.1 hfind f hf
    have hscope : (scope enums taken false outer fs d).1.1.map Node.place = places .receiver fs ∧
        (scope enums taken false outer fs d).1.2 = none := scope_unselected hunused
    rw [hscope.1, hscope.2]
    constructor
    · exact fun h => absurd h Bool.false_ne_true
    · rintro ⟨p, hp, hunion⟩
      rw [source_of_places hp] at hunion
      exact absurd hunion (by decide)
  | some f =>
    obtain ⟨hf, before, after, rfl, hbefore⟩ := List.find?_eq_some_iff_append.1 hfind
    have hbefore : ∀ c ∈ before, isSelectable c = false := fun c hc => by simpa using hbefore c hc
    obtain ⟨u, hu, -⟩ : ∃ u, (scope enums taken false outer (before ++ f :: after) d).1.2 = some u ∧
        ∃ _ : Draft, True :=
      (steady_trivial enums).scope_selects (fun _ _ => trivial) hbefore hf trivial
    obtain ⟨p, hp⟩ := exists_mem_places .union hf
    rw [hu, scope_places_selected hbefore hf]
    refine ⟨fun _ => ⟨p, ?_, source_of_places hp⟩, fun _ => rfl⟩
    exact List.mem_append_left _ (List.mem_append_right _ hp)

end Selection

/-! ## Slices -/

/-- Whether a name is an identifier. -/
def IsIdentifier (name : String) : Prop := ∃ n : Identifier, name.toList = n.chars

/-- Whether a name does not start like a slice. -/
def IsUnbracketed (name : String) : Prop := name.toList.head? ≠ some '['

theorem IsIdentifier.unbracketed {name : String} (h : IsIdentifier name) : IsUnbracketed name := by
  obtain ⟨n, hn⟩ := h
  intro hhead
  rw [hn] at hhead
  exact n.open_not_mem (List.mem_of_head? hhead)

/-- A qualified name starts like a slice only if its package does. -/
theorem IsUnbracketed.not_prefix {package : String} (h : IsUnbracketed package) (base : String) :
    ¬ ['[', ']'] <+: (package ++ "." ++ base).toList := by
  rintro ⟨rest, hrest⟩
  rw [String.toList_append, String.toList_append] at hrest
  rw [IsUnbracketed] at h
  cases hpackage : package.toList with
  | nil =>
    rw [hpackage] at hrest
    exact absurd (List.cons.inj hrest).1 (by decide)
  | cons c cs =>
    rw [hpackage] at hrest h
    rw [← (List.cons.inj hrest).1] at h
    exact h rfl

namespace Draft

/-- No alias of a draft starts like a slice. -/
def Unbracketed (d : Draft) : Prop := ∀ name ∈ d.aliases.values, IsUnbracketed name

/-- The alias that a path gets does not start like a slice, if no other one does. -/
theorem aliasFor_unbracketed (path : String) (preferred : Option String) {d : Draft}
    (hd : d.Unbracketed) (hpreferred : ∀ name ∈ preferred, IsUnbracketed name) :
    (aliasFor path preferred d).2.Unbracketed ∧ IsUnbracketed (aliasFor path preferred d).1 := by
  rcases aliasFor_cases path preferred d with ⟨name, hget, hrun⟩ | ⟨hget, name, -, hform, hrun⟩
  · rw [hrun]
    exact ⟨hd, hd name (Table.mem_values_iff.2 ⟨path, hget⟩)⟩
  · have hname : IsUnbracketed name := by
      rcases hform with hname | ⟨k, rfl⟩
      · exact hpreferred name hname
      · rw [numbered, if_neg (Nat.not_lt_zero k), IsUnbracketed, String.toList_append]
        show some 'i' ≠ some '['
        decide
    rw [hrun]
    refine ⟨fun name' hname' => ?_, hname⟩
    rcases List.mem_cons.1 ((Table.values_insert_perm name hget).mem_iff.1 hname') with rfl | hmem
    · exact hname
    · exact hd name' hmem

/-- The declared name of a type with the alias of its package does not start like a slice, unless
the type is one. -/
theorem qualified?_unbracketed {outer : Package} {f : ShapeField} {d : Draft} (hd : d.Unbracketed)
    (houter : ∀ name ∈ outer.preferred, IsUnbracketed name) :
    (qualified? outer f d).2.Unbracketed ∧ (TypeText.isSlice f.type.toList = false →
      ∀ type ∈ (qualified? outer f d).1, ¬ ['[', ']'] <+: type.toList) := by
  simp only [qualified?]
  split
  · cases halias : TypeText.importAlias? (TypeText.elementType f.type.toList) with
    | none => exact ⟨hd, fun _ type htype => absurd htype (Option.not_mem_none type)⟩
    | some name =>
      cases f.importPath with
      | none => exact ⟨hd, fun _ type htype => absurd htype (Option.not_mem_none type)⟩
      | some path =>
        have hname : IsUnbracketed (String.ofList name) := by
          obtain ⟨digits, rfl⟩ := TypeText.exists_of_findAlias? halias
          rw [IsUnbracketed, String.toList_ofList]
          show some 'i' ≠ some '['
          decide
        obtain ⟨hgood, hpackage⟩ := aliasFor_unbracketed path (String.ofList name) hd
          fun other hother => Option.some.inj hother ▸ hname
        refine ⟨hgood, fun _ type htype => ?_⟩
        rw [← Option.some.inj htype]
        exact hpackage.not_prefix _
  · next hdot =>
    cases outer.path with
    | none =>
      refine ⟨hd, fun hslice type htype => ?_⟩
      -- without a package, the declared name itself could start like a slice
      rw [← Option.some.inj htype, baseName, String.toList_ofList]
      exact TypeText.not_prefix_baseName (TypeText.dot_not_mem_of_elementType hslice hdot)
    | some path =>
      obtain ⟨hgood, hpackage⟩ := aliasFor_unbracketed path outer.preferred hd houter
      refine ⟨hgood, fun _ type htype => ?_⟩
      rw [← Option.some.inj htype]
      exact hpackage.not_prefix _

/-- The type of a union's value starts like a slice exactly if the type of the member is one. -/
theorem unionType?_isPrefixOf {outer : Package} {f : ShapeField} {d : Draft} (hd : d.Unbracketed)
    (houter : ∀ name ∈ outer.preferred, IsUnbracketed name) {type : String}
    (htype : type ∈ (unionType? outer f d).1) :
    "[]".toList.isPrefixOf type.toList = TypeText.isSlice f.type.toList := by
  simp only [unionType?, run_bind, run_pure] at htype
  cases hslice : TypeText.isSlice f.type.toList with
  | false =>
    have helement : TypeText.sliceElement? f.type.toList = none := by
      rw [TypeText.sliceElement?, TypeText.afterPrefix?_unpointed hslice, Option.map_none]
    rw [helement] at htype
    obtain ⟨base, hbase, rfl⟩ := Option.map_eq_some_iff.1 htype
    rw [String.empty_append, ← Bool.not_eq_true, List.isPrefixOf_iff_prefix]
    exact (qualified?_unbracketed hd houter).2 hslice base hbase
  | true =>
    obtain ⟨rest, hrest⟩ := List.isPrefixOf_iff_prefix.1 hslice
    have helement : TypeText.sliceElement? f.type.toList = some (trimStart rest) := by
      rw [TypeText.sliceElement?, ← hrest, afterPrefix?_append, Option.map_some]
    rw [helement] at htype
    obtain ⟨base, -, rfl⟩ := Option.map_eq_some_iff.1 htype
    rw [String.toList_append]
    split
    · rfl
    · rfl
    · next hnone => exact absurd hnone (Option.some_ne_none _)

end Draft

/-! ## Scopes -/

/-- The aliases that stand around a field and below it are identifiers. -/
structure Identified (outer : Package) (f : ShapeField) : Prop where
  package : ∀ name ∈ outer.preferred, IsIdentifier name
  fields : ∀ {g : ShapeField}, g.Within [f] → ∀ name ∈ g.importAlias, IsIdentifier name

theorem Identified.unbracketed {outer : Package} {f : ShapeField} (h : Identified outer f) :
    ∀ name ∈ outer.preferred, IsUnbracketed name :=
  fun name hname => (h.package name hname).unbracketed

theorem Identified.child {outer : Package} {f c : ShapeField} (h : Identified outer f)
    (hc : c ∈ f.children) : Identified (outer.below f) c where
  package name hname := by
    rw [Package.below] at hname
    split at hname
    · next halias => exact h.fields (.here List.mem_cons_self) name (halias.trans hname)
    · exact h.package name hname
  fields hg := by
    have hsubset : [c] ⊆ f.children := List.cons_subset.2 ⟨hc, List.nil_subset _⟩
    exact h.fields (.inside List.mem_cons_self (hg.mono hsubset))

/-- Every step keeps aliases that do not start like slices, and selects a slice exactly if the type
of the member is one. -/
theorem steady_slices (enums : List Enumeration) :
    Steady enums Identified Draft.Unbracketed
      (fun _ _ f u => u.isSlice = TypeText.isSlice f.type.toList) fun _ _ _ _ _ => True := by
  refine .of_steps Identified.child ?_ ?_ ?_ ?_
  · intro d outer f hf hd
    exact (Draft.qualified?_unbracketed hd hf.unbracketed).1
  · intro d outer f hf hd type htype
    exact Draft.unionType?_isPrefixOf hd hf.unbracketed htype
  · intro d type union fields hd
    rcases Draft.flattenFor_run type union fields d with ⟨g, -, -, hrun⟩ | ⟨-, name, -, hrun⟩
    · rw [hrun]
      exact hd
    · rw [hrun]
      exact hd
  · intro d e type hd
    rcases Draft.enumFlattenFor_run e type d with ⟨t, -, hrun⟩ | ⟨-, flatten, table, -, -, hrun⟩
    · rw [hrun]
      exact hd
    · rw [hrun]
      exact hd

/-- How the members of unions are spliced into a scope. -/
structure Splices (enums : List Enumeration) (taken : List String) (outer : Package)
    (fs : List ShapeField) (d : Draft) : Prop where
  /-- A field can be selected if it is a union member, but not for an error, that is a struct with
  fields, whose type can be written, and one of whose fields is no union member. -/
  selectable_iff : ∀ f, isSelectable f = true ↔
    isUnionMember f.name = true ∧ isErrorBranch f.name = false ∧ f.isComposite = true ∧
      f.children ≠ [] ∧ (∀ d, (Draft.unionType? outer f d).1.isSome = true) ∧
      ∃ c ∈ f.children, isUnionMember c.name = false
  /-- If no field can be selected, the nodes stand for the fields that are no union members. -/
  unselected : (∀ f ∈ fs, isSelectable f = false) →
    (scope enums taken false outer fs d).1.1.map Node.place = places .receiver fs ∧
      (scope enums taken false outer fs d).1.2 = none
  /-- Otherwise the first such field is replaced by its own fields. -/
  selected : ∀ {before after f}, fs = before ++ f :: after →
    (∀ c ∈ before, isSelectable c = false) → isSelectable f = true →
    (scope enums taken false outer fs d).1.1.map Node.place =
        places .receiver before ++ places .union f.children ++ places .receiver after ∧
      ∃ u, (scope enums taken false outer fs d).1.2 = some u ∧
        u.isSlice = TypeText.isSlice f.type.toList

/-- What it takes for a field to be selected. -/
theorem isSelectable_iff (outer : Package) (f : ShapeField) :
    isSelectable f = true ↔
      isUnionMember f.name = true ∧ isErrorBranch f.name = false ∧ f.isComposite = true ∧
        f.children ≠ [] ∧ (∀ d, (Draft.unionType? outer f d).1.isSome = true) ∧
        ∃ c ∈ f.children, isUnionMember c.name = false := by
  have hplaced : (∀ d, (Draft.unionType? outer f d).1.isSome = true) ↔
      Draft.isPlaced f = true := by
    simp only [(Draft.unionType?_run outer f _).2]
    exact ⟨fun h => h {}, fun h _ => h⟩
  rw [hplaced]
  simp only [isSelectable, isSpliced, isResultBranch, Bool.and_eq_true, Bool.not_eq_true',
    List.isEmpty_eq_false_iff, List.any_eq_true, and_assoc]

/-- A function reads the value of a union exactly if it has one. -/
theorem additive_unions (enums : List Enumeration) :
    Additive enums fun _ d _ d' =>
      (∀ g ∈ d.functions, g.union.isSome = true ↔ ∃ n ∈ g.fields, n.source = .union) →
        ∀ g ∈ d'.functions, g.union.isSome = true ↔ ∃ n ∈ g.fields, n.source = .union where
  nil h := h
  append h h' hd := h' (h hd)
  union {d} outer f hd := by
    obtain ⟨aliases, hrun, -⟩ := Draft.qualified?_run outer f d
    rw [(Draft.unionType?_run outer f d).1, hrun]
    exact hd
  unfilled _ _ h := h
  leaf {d o n} _ _ hd := by
    rw [leafKind_functions]
    exact hd
  object {d o n nodes union d'} reserved _ _ hscope hbelow _ hd := by
    have hd' := hbelow hd
    rcases objectKind_run o.outer o.field nodes union d' with
      ⟨-, -, aliases, hrun⟩ | ⟨aliases, type, access, -, -, hrun⟩
    · rw [hrun]
      exact hd'
    · rw [hrun]
      rcases Draft.flattenFor_run type union nodes { d' with aliases } with
        ⟨g, -, -, hfound⟩ | ⟨-, name, -, hnew⟩
      · rw [hfound]
        exact hd'
      · -- the new function reads the scope below the field
        rw [hnew]
        refine List.forall_mem_cons.2 ⟨?_, hd'⟩
        have hunion := scope_union_isSome_iff enums reserved (o.outer.below o.field) d
          o.field.children
        rw [hscope] at hunion
        exact hunion

/-- **Unions are spliced exactly**: for all fields, any package, any taken keys and any draft, the
nodes of a scope stand for its fields in order, with the first member that can be selected replaced
by its fields, and a slice is read exactly if the type of this member is one, as long as all aliases
are identifiers.  A function of a plan has a union exactly if it reads a field from its value. -/
theorem scope_splices (enums : List Enumeration) (taken : List String) (outer : Package)
    (fs : List ShapeField) (d : Draft) (hpackage : ∀ name ∈ outer.preferred, IsIdentifier name)
    (hfields : ∀ {g : ShapeField}, g.Within fs → ∀ name ∈ g.importAlias, IsIdentifier name)
    (hdraft : ∀ name ∈ d.aliases.values, IsIdentifier name) :
    Splices enums taken outer fs d ∧
      ∀ s enums reserved, ∀ g ∈ (Plan.build s enums reserved).functions,
        g.union.isSome = true ↔ ∃ n ∈ g.fields, n.source = .union := by
  refine ⟨?_, fun s enums reserved => ?_⟩
  · constructor
    case selectable_iff => exact isSelectable_iff outer
    case unselected => exact scope_unselected
    case selected =>
      rintro before after f rfl hbefore hf
      refine ⟨scope_places_selected hbefore hf, ?_⟩
      have hidentified : ∀ c ∈ before ++ f :: after, Identified outer c := fun c hc =>
        ⟨hpackage, fun hg => hfields (hg.mono (List.cons_subset.2 ⟨hc, List.nil_subset _⟩))⟩
      obtain ⟨u, hu, -, hslice⟩ := (steady_slices enums).scope_selects hidentified hbefore hf
        fun name hname => (hdraft name hname).unbracketed
      exact ⟨u, hu, hslice⟩
  · exact (additive_unions enums).planned.1 reserved ⟨s.importPath, s.importAlias⟩
      (Plan.payload s).1 .receiver ⟨"", "", .receiver, _, _⟩ {} rfl fun _ hg =>
        absurd hg List.not_mem_nil

/-- The fields of a response with members of a union in between: one for an error, one that is cut,
one of a package that is not known, one that can be selected, and one more. -/
def mixedFields : List ShapeField := [
  { name := "Name", type := "*string" },
  { name := "oneOfType400", type := "*Fault", isComposite := true, children := [
    { name := "Message", type := "*string" }] },
  { name := "oneOfType0", type := "*Reply", isComposite := true },
  { name := "oneOfType1", type := "*import3.Lost", isComposite := true, children := [
    { name := "Key", type := "*string" }] },
  { name := "oneOfType2", type := "[]*import2.Widget", isComposite := true,
    importAlias := "import2", importPath := "acme/widgets", children := [
      { name := "Label", type := "*string" },
      { name := "oneOfType0", type := "*string" },
      { name := "Size", type := "*int64" }] },
  { name := "oneOfType3", type := "*Gadget", isComposite := true, children := [
    { name := "Other", type := "*string" }] },
  { name := "Count", type := "*int64" }]

/-- A draft that has an alias for another package. -/
def otherDraft : Draft where
  aliases := ({} : Table String).insert "acme/other" "import1"

/-- The fields of the member that can be selected stand between those before and behind it. -/
theorem scope_splices_mixedFields :
    (scope [] ["ext_id"] false ⟨some "acme/api", some "import1"⟩ mixedFields otherDraft).1.1.map
        Node.place =
      [("Name", .receiver), ("Label", .union), ("Size", .union), ("Count", .receiver)] ∧
    ∃ u, (scope [] ["ext_id"] false ⟨some "acme/api", some "import1"⟩ mixedFields otherDraft).1.2 =
      some u ∧ u.isSlice = true := by
  have import1 : IsIdentifier "import1" := ⟨.ofChars "import1".toList (by decide) (by decide), rfl⟩
  have import2 : IsIdentifier "import2" := ⟨.ofChars "import2".toList (by decide) (by decide), rfl⟩
  have halias : ∀ g : ShapeField, g.Within mixedFields →
      g.importAlias = none ∨ g.importAlias = some "import2" := by
    simp [mixedFields, ShapeField.within_cons_iff, ShapeField.not_within_nil, or_imp, forall_and]
  have hsplit : mixedFields = mixedFields.take 4 ++ mixedFields[4] :: mixedFields.drop 5 := rfl
  have hsplices := (scope_splices [] ["ext_id"] ⟨some "acme/api", some "import1"⟩ mixedFields
    otherDraft (fun _ hname => Option.some.inj hname ▸ import1)
    (fun {g} hg name hname => by
      rcases halias g hg with hnone | hsome
      · rw [hnone] at hname
        exact absurd hname (Option.not_mem_none name)
      · exact Option.some.inj (hsome.symm.trans hname) ▸ import2)
    (List.forall_mem_singleton.2 import1)).1
  obtain ⟨hplaces, u, hu, hslice⟩ :=
    hsplices.selected hsplit (by decide +kernel) (by decide +kernel)
  exact ⟨hplaces.trans (by decide +kernel), u, hu, hslice.trans (by decide +kernel)⟩

end ProviderGlue.Schema
