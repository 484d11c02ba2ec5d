import ProviderGlue.Proofs.Schema.Additive
import ProviderGlue.Proofs.Schema.Imports

/-!
# Reached code

A plan has functions and tables.  The call of the plan leads to some of the functions, and from there
on the nodes that a function reads lead to further functions and to tables.

What is planned for a field is called by the node of the field.  A struct whose own package is not
known has no nodes below it, though, and this is seen only after the fields below it are planned.
The code for these fields stays, and nothing calls it.

## Key results

- `additive_accounted`: code that a plan adds is called by a node, or is left over below a struct
  whose package is not known
- `Plan.Coherent.exists_runs_of_within`: the nodes of a schema are read by functions that are reached
- `build_reachesAll`: all but the code that is left over is reached
-/

namespace ProviderGlue.Schema

open Text Go

/-! ## Pieces of code -/

/-- A piece of the code around a schema. -/
inductive Piece where
  /-- A function that flattens a struct. -/
  | function (g : FlattenFunction)
  /-- A table with the function that looks names up in it. -/
  | table (t : EnumTable)

namespace Piece

/-- The declared name of the struct or enumeration that a piece of code is for. -/
def declared : Piece → String
  | function g => unqualified g.type
  | table t => t.enumeration.name

/-- Whether a node of that kind calls a piece of code. -/
def IsCalledBy (kind : NodeKind) : Piece → Prop
  | function g => kind.functionCall? = some g.name
  | table t => kind.tableCall? = some t.flatten

/-- The types that a piece of code mentions. -/
def types : Piece → List String
  | function g => g.type :: (g.union.map (·.type)).toList
  | table t => [t.type]

/-- The packages that a piece of code mentions. -/
def packages (x : Piece) : List String :=
  x.types.flatMap fun type => (TypeText.qualifiers type.toList).map String.ofList

end Piece

/-- All functions and tables. -/
def pieces (functions : List FlattenFunction) (tables : List EnumTable) : List Piece :=
  functions.map .function ++ tables.map .table

section Pieces

variable {functions : List FlattenFunction} {tables : List EnumTable}

@[simp] theorem function_mem_pieces {g : FlattenFunction} :
    .function g ∈ pieces functions tables ↔ g ∈ functions := by
  simp [pieces]

@[simp] theorem table_mem_pieces {t : EnumTable} :
    .table t ∈ pieces functions tables ↔ t ∈ tables := by
  simp [pieces]

theorem mem_pieces_cons {g : FlattenFunction} {x : Piece} :
    x ∈ pieces (g :: functions) tables ↔ x = .function g ∨ x ∈ pieces functions tables := by
  rw [pieces, List.map_cons, List.cons_append, List.mem_cons, pieces]

end Pieces

/-- The functions and tables of a draft. -/
abbrev Draft.pieces (d : Draft) : List Piece := Schema.pieces d.functions d.tables.values

/-- The functions and tables of a plan. -/
abbrev Plan.pieces (p : Plan) : List Piece := Schema.pieces p.functions p.tables

/-! ## Steps -/

/-- A function is new, or all code was there before. -/
theorem mem_pieces_flattenFor {type : String} {union : Option UnionBranch} {fields : List Node}
    {d : Draft} {x : Piece} (hx : x ∈ (Draft.flattenFor type union fields d).2.pieces) :
    x ∈ d.pieces ∨ ∃ g, x = .function g ∧ g.type = type ∧
      g.name = (Draft.flattenFor type union fields d).1 := by
  rcases Draft.flattenFor_run type union fields d with ⟨g, -, -, hrun⟩ | ⟨-, name, -, hrun⟩
  · rw [hrun] at hx
    exact .inl hx
  · rw [hrun] at hx ⊢
    rcases mem_pieces_cons.1 hx with rfl | hx
    · exact .inr ⟨_, rfl, rfl, rfl⟩
    · exact .inl hx

/-- A table is new, or all code was there before. -/
theorem mem_pieces_enumFlattenFor {e : Enumeration} {type : String} {d : Draft} {x : Piece}
    (hx : x ∈ (Draft.enumFlattenFor e type d).2.pieces) :
    x ∈ d.pieces ∨ ∃ t, x = .table t ∧ t.enumeration = e ∧
      t.flatten = (Draft.enumFlattenFor e type d).1 := by
  rcases Draft.enumFlattenFor_run e type d with ⟨t, -, hrun⟩ | ⟨hget, flatten, table, -, -, hrun⟩
  · rw [hrun] at hx
    exact .inl hx
  · rw [hrun] at hx ⊢
    cases x with
    | function g => exact .inl (function_mem_pieces.2 (function_mem_pieces.1 hx))
    | table t =>
      have hvalues := Table.values_insert_perm (⟨flatten, table, type, e⟩ : EnumTable) hget
      rcases List.mem_cons.1 (hvalues.mem_iff.1 (table_mem_pieces.1 hx)) with rfl | ht
      · exact .inr ⟨_, rfl, rfl, rfl⟩
      · exact .inl (table_mem_pieces.2 ht)

/-! ## Fields below fields -/

namespace Origin

/-- The origins of the nodes that are planned below a field: those for the fields of its type, if
that is a struct. -/
def below (o : Origin) : List Origin :=
  if o.field.isComposite && ! TypeText.isMap o.field.type.toList then
    origins false (o.outer.below o.field) o.field.children
  else []

/-- Whether an origin is one of some origins or stands below one of them. -/
inductive Within (o : Origin) : List Origin → Prop
  | here {os : List Origin} : o ∈ os → Within o os
  | inside {o' : Origin} {os : List Origin} : o' ∈ os → Within o o'.below → Within o os

theorem Within.mono {o : Origin} {os os' : List Origin} (h : o.Within os) (hos : os ⊆ os') :
    o.Within os' := by
  cases h with
  | here hmem => exact .here (hos hmem)
  | inside hmem hin => exact .inside (hos hmem) hin

end Origin

namespace Piece

/-- Whether a piece of code is for one of some fields, and called by one of their nodes. -/
def Serves (os : List Origin) (ns : List Node) (x : Piece) : Prop :=
  (∃ o : Origin, o.Within os ∧ x.declared = baseName o.field.type) ∧
    ∃ n : Node, n.Within ns ∧ x.IsCalledBy n.kind

/-- Whether a piece of code is left over: it serves the nodes that were planned below a field and
given up, as the package of the field is not known. -/
def IsLeft (enums : List Enumeration) (os : List Origin) (x : Piece) : Prop :=
  ∃ o : Origin, o.Within os ∧ Draft.isPlaced o.field = false ∧ ∃ reserved d,
    x.Serves o.below (scope enums reserved false (o.outer.below o.field) o.field.children d).1.1

/-- A piece of code is accounted for by some fields and their nodes if it serves these nodes, or if
it is left over. -/
def Accounted (enums : List Enumeration) (os : List Origin) (ns : List Node) (x : Piece) : Prop :=
  x.Serves os ns ∨ x.IsLeft enums os

variable {enums : List Enumeration} {os os' : List Origin} {ns ns' : List Node} {o : Origin}
  {n : Node} {x : Piece}

theorem Serves.mono (h : x.Serves os ns) (hos : os ⊆ os') (hns : ns ⊆ ns') : x.Serves os' ns' := by
  obtain ⟨⟨o, ho, hfor⟩, n, hn, hcalled⟩ := h
  exact ⟨⟨o, ho.mono hos, hfor⟩, n, hn.mono hns, hcalled⟩

theorem Accounted.mono (h : x.Accounted enums os ns) (hos : os ⊆ os') (hns : ns ⊆ ns') :
    x.Accounted enums os' ns' := by
  rcases h with hserves | ⟨o, ho, hleft⟩
  · exact .inl (hserves.mono hos hns)
  · exact .inr ⟨o, ho.mono hos, hleft⟩

/-- What is left over below a field is left over. -/
theorem IsLeft.inside (h : x.IsLeft enums o.below) : x.IsLeft enums [o] := by
  obtain ⟨o', ho', hleft⟩ := h
  exact ⟨o', .inside List.mem_cons_self ho', hleft⟩

/-- What serves the nodes below a node serves the node. -/
theorem Accounted.inside (h : x.Accounted enums o.below n.children) : x.Accounted enums [o] [n] := by
  rcases h with ⟨⟨o', ho', hfor⟩, m, hm, hcalled⟩ | hleft
  · exact .inl ⟨⟨o', .inside List.mem_cons_self ho', hfor⟩,
      m, .inside List.mem_cons_self hm, hcalled⟩
  · exact .inr hleft.inside

/-- If the nodes below a struct are given up, then either there were none, or the package of the
struct is not known. -/
theorem Accounted.of_unfilled {reserved : List String} {d : Draft}
    (h : x.Accounted enums o.below
      (scope enums reserved false (o.outer.below o.field) o.field.children d).1.1)
    (hempty : (scope enums reserved false (o.outer.below o.field) o.field.children d).1.1 = [] ∨
      Draft.isPlaced o.field = false) : x.IsLeft enums [o] := by
  rcases h with hserves | hleft
  · rcases hempty with hempty | hunplaced
    · obtain ⟨-, m, hm, -⟩ := hserves
      rw [hempty] at hm
      exact absurd hm Node.within_nil
    · exact ⟨o, .here List.mem_cons_self, hunplaced, reserved, d, hserves⟩
  · exact hleft.inside

/-- What a field itself calls for is accounted for. -/
theorem Accounted.here (hfor : x.declared = baseName o.field.type) (hcalled : x.IsCalledBy n.kind) :
    x.Accounted enums [o] [n] :=
  .inl ⟨⟨o, .here List.mem_cons_self, hfor⟩, n, .here List.mem_cons_self, hcalled⟩

end Piece

/-- All code that is added while some fields are planned is accounted for by these fields. -/
theorem additive_accounted (enums : List Enumeration) :
    Additive enums fun os d ns d' => ∀ x ∈ d'.pieces, x ∈ d.pieces ∨ x.Accounted enums os ns where
  nil _ hx := .inl hx
  append {os os' _ _ _ ns ns'} h h' x hx := by
    rcases h' x hx with hx | hx
    · refine (h x hx).imp_right fun hx => ?_
      exact hx.mono (List.subset_append_left _ _) (List.subset_append_left _ _)
    · exact .inr (hx.mono (List.subset_append_right _ _) (List.subset_append_right _ _))
  union {d} outer f x hx := by
    obtain ⟨aliases, hrun, -⟩ := Draft.qualified?_run outer f d
    rw [(Draft.unionType?_run outer f d).1, hrun] at hx
    exact .inl hx
  unfilled _ _ _ hx := .inl hx
  leaf {d o n} _ hn x hx := by
    obtain ⟨hkind, -⟩ := Prod.mk.inj hn
    rcases leafKind_run enums o.outer o.field d with
      ⟨-, -, aliases, hrun⟩ | ⟨aliases, e, type, hname, hcall, hrun⟩
    · rw [hrun] at hx
      exact .inl hx
    · rw [hrun] at hx
      refine (mem_pieces_enumFlattenFor hx).imp_right ?_
      rintro ⟨t, rfl, rfl, hflatten⟩
      refine .here hname ?_
      rw [Piece.IsCalledBy, hkind, hcall, hflatten]
  object {d o n nodes union d'} reserved hcomposite hmap hscope hbelow hn x hx := by
    have horigins : o.below = origins false (o.outer.below o.field) o.field.children := by
      rw [Origin.below, hcomposite, hmap, Bool.not_false, Bool.and_self, if_pos rfl]
    rw [← horigins] at hbelow
    rcases objectKind_run o.outer o.field nodes union d' with
      ⟨hempty, -, aliases, hrun⟩ | ⟨aliases, type, access, htype, hkind, hrun⟩
    · -- the nodes are given up, but what was added for them stays
      rw [hrun] at hx
      have hnodes : nodes =
          (scope enums reserved false (o.outer.below o.field) o.field.children d).1.1 := by
        rw [hscope]
      rw [hnodes] at hbelow hempty
      exact (hbelow x hx).imp_right fun hx => .inr (hx.of_unfilled hempty)
    · -- the nodes stay below the node of the field, which calls the function that reads them
      obtain ⟨hkind, hchildren⟩ := Prod.mk.inj (hn.trans hkind)
      rw [hrun] at hx
      rcases mem_pieces_flattenFor hx with hx | ⟨g, rfl, rfl, hname⟩
      · rw [← hchildren] at hbelow
        exact (hbelow x hx).imp_right Piece.Accounted.inside
      · refine .inr (.here htype ?_)
        rw [Piece.IsCalledBy, hkind, hname]
        rfl

/-! ## Reaching code -/

namespace Plan

/-- Whether the call of a plan leads to a function. -/
inductive Runs (p : Plan) : FlattenFunction → Prop
  | root {c : RootCall} {g : FlattenFunction} :
    p.rootCall = some c → g ∈ p.functions → g.name = c.flatten → Runs p g
  | call {g g' : FlattenFunction} {n : Node} :
    Runs p g → n ∈ g.fields → g' ∈ p.functions → n.kind.functionCall? = some g'.name → Runs p g'

/-- Whether the call of a plan leads to a piece of code.  It leads to a table from a function that
reads values of the enumeration. -/
def Reaches (p : Plan) : Piece → Prop
  | .function g => p.Runs g
  | .table t => t ∈ p.tables ∧
      ∃ g, p.Runs g ∧ ∃ n ∈ g.fields, n.kind.tableCall? = some t.flatten

theorem Runs.mem {p : Plan} {g : FlattenFunction} (h : p.Runs g) : g ∈ p.functions := by
  cases h with
  | root _ hmem _ => exact hmem
  | call _ _ hmem _ => exact hmem

/-- What is called by a node that a reached function reads is reached. -/
theorem Runs.reaches {p : Plan} {g : FlattenFunction} (h : p.Runs g) {n : Node} (hn : n ∈ g.fields)
    {x : Piece} (hx : x ∈ p.pieces) (hcalled : x.IsCalledBy n.kind) : p.Reaches x := by
  cases x with
  | function g' => exact .call h hn (function_mem_pieces.1 hx) hcalled
  | table t => exact ⟨table_mem_pieces.1 hx, g, h, n, hn, hcalled⟩

/-- A function that has the name of the only one of its name is that one. -/
theorem eq_of_filter {p : Plan} {name : String} {g g' : FlattenFunction}
    (h : p.functions.filter (·.name = name) = [g]) (hmem : g' ∈ p.functions)
    (hname : g'.name = name) : g' = g := by
  have hmem : g' ∈ p.functions.filter (·.name = name) :=
    List.mem_filter.2 ⟨hmem, decide_eq_true hname⟩
  rw [h] at hmem
  exact List.mem_singleton.1 hmem

/-- A function that stands once by its name is a function of that name. -/
theorem mem_of_filter {p : Plan} {name : String} {g : FlattenFunction}
    (h : p.functions.filter (·.name = name) = [g]) : g ∈ p.functions ∧ g.name = name := by
  have hmem : g ∈ p.functions.filter (·.name = name) := h ▸ List.mem_cons_self
  rw [List.mem_filter, decide_eq_true_eq] at hmem
  exact hmem

namespace Coherent

variable {p : Plan} {enums : List Enumeration} {outer : Package} {top : ShapeField}

/-- If a reached function reads some nodes, then every node that stands among them or below is read
by a reached function. -/
theorem exists_runs_of_within (h : p.Coherent enums outer top) {n : Node} {ns : List Node}
    (hn : n.Within ns) {g : FlattenFunction} (hg : p.Runs g) (hns : ns ⊆ g.fields) :
    ∃ g', p.Runs g' ∧ n ∈ g'.fields := by
  induction hn generalizing g with
  | here hmem => exact ⟨g, hg, hns hmem⟩
  | @inside m ns hmem hin ih =>
    have hm : p.Mentions m := .inr ⟨g, hg.mem, .here (hns hmem)⟩
    -- nodes stand below structs only, and a struct is read by the function that it calls
    cases hkind : m.kind with
    | object name access =>
      obtain ⟨-, g', hfilter, hfields⟩ := h.object hm hkind
      obtain ⟨hg', hname⟩ := mem_of_filter hfilter
      refine ih (.call hg (hns hmem) hg' ?_) (hfields ▸ List.Subset.refl _)
      rw [hkind, hname]
      rfl
    | _ =>
      have hnone : m.children = [] :=
        h.leaf hm fun _ _ heq => NodeKind.noConfusion (hkind.symm.trans heq)
      exact absurd (hnone ▸ hin) Node.within_nil

/-- Every node of the schema is read by a reached function. -/
theorem exists_runs (h : p.Coherent enums outer top) {n : Node} (hn : n.Within p.root) :
    ∃ g, p.Runs g ∧ n ∈ g.fields := by
  have hne : p.root ≠ [] := fun heq => Node.within_nil (heq ▸ hn)
  obtain ⟨c, hc⟩ := Option.isSome_iff_exists.1 (h.call_iff.2 hne)
  obtain ⟨g, hfilter, hfields⟩ := h.call hc
  obtain ⟨hg, hname⟩ := mem_of_filter hfilter
  exact h.exists_runs_of_within hn (.root hc hg hname) (hfields ▸ List.Subset.refl _)

/-- What reached functions read is in the schema. -/
theorem within_of_runs (h : p.Coherent enums outer top) {g : FlattenFunction} (hg : p.Runs g)
    {n : Node} (hn : n ∈ g.fields) : n.Within p.root := by
  induction hg generalizing n with
  | root hc hmem hname =>
    obtain ⟨g, hfilter, hfields⟩ := h.call hc
    obtain rfl := eq_of_filter hfilter hmem hname
    exact .here (hfields ▸ hn)
  | @call g g' m hg hm hmem hcall ih =>
    have hin : m.Within p.root := ih hm
    cases hkind : m.kind with
    | object name access =>
      rw [hkind] at hcall
      obtain ⟨-, g'', hfilter, hfields⟩ := h.object (.inl hin) hkind
      obtain rfl := eq_of_filter hfilter hmem (Option.some.inj hcall).symm
      exact hin.child (hfields ▸ hn)
    | _ =>
      rw [hkind] at hcall
      contradiction

end Coherent

/-! ## Plans -/

/-- The payload of a shape as an origin. -/
def payloadOrigin (s : Shape) : Origin :=
  ⟨(payload s).1, ⟨s.importPath, s.importAlias⟩, .receiver⟩

/-- What of a plan is reached. -/
structure ReachesAll (s : Shape) (enums : List Enumeration) (reserved : List String) : Prop where
  /-- What reached functions read is in the schema. -/
  schema : ∀ {g}, (build s enums reserved).Runs g → ∀ n ∈ g.fields,
    n.Within (build s enums reserved).root
  /-- All code is reached, except what is left over below fields whose packages are not known. -/
  piece : ∀ {x}, x ∈ (build s enums reserved).pieces →
    (build s enums reserved).Reaches x ∨ x.IsLeft enums [payloadOrigin s]
  /-- Every import is for a package that code mentions. -/
  imported : ∀ {i}, i ∈ (build s enums reserved).imports →
    ∃ x ∈ (build s enums reserved).pieces, i.name ∈ x.packages
  /-- Where the packages of all structs with fields are known, all code is reached, and every import
  is for a package that reached code mentions. -/
  placed : (∀ o : Origin, o.Within [payloadOrigin s] → o.below ≠ [] →
      Draft.isPlaced o.field = true) →
    (∀ x ∈ (build s enums reserved).pieces, (build s enums reserved).Reaches x) ∧
      ∀ i ∈ (build s enums reserved).imports, ∃ x, (build s enums reserved).Reaches x ∧
        i.name ∈ x.packages

end Plan

/-- Where the packages of all structs with fields are known, nothing is left over. -/
theorem Piece.not_isLeft {enums : List Enumeration} {os : List Origin} {x : Piece}
    (h : ∀ o : Origin, o.Within os → o.below ≠ [] → Draft.isPlaced o.field = true) :
    ¬ x.IsLeft enums os := by
  rintro ⟨o, ho, hunplaced, -, -, ⟨o', ho', -⟩, -⟩
  have hne : o.below ≠ [] := by
    intro heq
    rw [heq] at ho'
    cases ho' with
    | here hmem => exact absurd hmem List.not_mem_nil
    | inside hmem _ => exact absurd hmem List.not_mem_nil
  rw [h o ho hne] at hunplaced
  contradiction

/-- A struct is flattened by no table. -/
theorem content_tableCall? (enums : List Enumeration) (reserved : List String) (outer : Package)
    {f : ShapeField} (hf : f.isComposite = true) (d : Draft) :
    (content enums reserved outer f d).1.1.tableCall? = none := by
  rw [content_eq, if_pos hf]
  split
  · rfl
  · simp only [run_bind]
    generalize scope enums reserved false (outer.below f) f.children d = r
    obtain ⟨⟨nodes, union⟩, d'⟩ := r
    rcases objectKind_run outer f nodes union d' with
      ⟨-, hkind, -⟩ | ⟨aliases, type, access, -, hkind, -⟩
    · rw [hkind]
      rfl
    · rw [hkind]
      rfl

/-- Imports are for packages that code mentions. -/
theorem exists_piece_of_import {s : Shape} {enums : List Enumeration} {reserved : List String}
    {i : Import} (hi : i ∈ (Plan.build s enums reserved).imports) :
    ∃ x ∈ (Plan.build s enums reserved).pieces, i.name ∈ x.packages := by
  simp only [Plan.build, StateT.run] at hi ⊢
  generalize content enums reserved ⟨s.importPath, s.importAlias⟩ (Plan.payload s).1 {} = r at hi ⊢
  obtain ⟨⟨kind, root⟩, d⟩ := r
  have hmentioned : i.name ∈ Plan.mentionedPackages d := (mem_importsOf.1 hi).2
  obtain ⟨type, htype, hpackage⟩ := List.mem_flatMap.1 hmentioned
  rcases List.mem_append.1 htype with htype | htype
  · obtain ⟨g, hg, htype⟩ := List.mem_flatMap.1 htype
    exact ⟨.function g, function_mem_pieces.2 hg, List.mem_flatMap.2 ⟨type, htype, hpackage⟩⟩
  · obtain ⟨t, ht, rfl⟩ := List.mem_map.1 htype
    exact ⟨.table t, table_mem_pieces.2 ht,
      List.mem_flatMap.2 ⟨t.type, List.mem_singleton_self _, hpackage⟩⟩

/-- The call of a plan is to the function of the payload. -/
theorem build_rootCall {s : Shape} {enums : List Enumeration} {reserved : List String}
    {kind : NodeKind} (hkind : kind =
      (content enums reserved ⟨s.importPath, s.importAlias⟩ (Plan.payload s).1 {}).1.1) :
    (Plan.build s enums reserved).rootCall =
      kind.functionCall?.map fun flatten => ⟨flatten, (Plan.payload s).2⟩ := by
  simp only [Plan.build, StateT.run]
  generalize content enums reserved ⟨s.importPath, s.importAlias⟩ (Plan.payload s).1 {} = r at hkind
  obtain ⟨⟨_, root⟩, d⟩ := r
  subst hkind
  cases kind <;> rfl

/-- All code of a plan is reached or left over. -/
theorem reaches_or_isLeft {s : Shape} {enums : List Enumeration} {reserved : List String} {x : Piece}
    (hx : x ∈ (Plan.build s enums reserved).pieces) :
    (Plan.build s enums reserved).Reaches x ∨ x.IsLeft enums [Plan.payloadOrigin s] := by
  have hcoherent := build_coherent s enums reserved
  have htable := content_tableCall? enums reserved ⟨s.importPath, s.importAlias⟩
    (Plan.payload_isComposite s) {}
  -- the schema with a node on top that stands for the payload
  obtain ⟨n, hn⟩ : ∃ n : Node, (n.kind, n.children) =
      (content enums reserved ⟨s.importPath, s.importAlias⟩ (Plan.payload s).1 {}).1 :=
    ⟨⟨"", "", .receiver, _, _⟩, rfl⟩
  have hkind := (Prod.mk.inj hn).1
  have hcall := build_rootCall hkind
  have hroot : n.children = (Plan.build s enums reserved).root := (Prod.mk.inj hn).2
  have hadded := (additive_accounted enums).planned.1 reserved ⟨s.importPath, s.importAlias⟩
    (Plan.payload s).1 .receiver n {} hn x hx
  rw [← hkind] at htable
  rcases hadded with hempty | ⟨-, m, hm, hcalled⟩ | hleft
  · exact absurd hempty List.not_mem_nil
  · refine .inl ?_
    rcases Node.within_cons hm with rfl | hm | hm
    · -- what the payload itself calls is what the plan calls
      cases x with
      | function g =>
        rw [Piece.IsCalledBy] at hcalled
        rw [hcalled] at hcall
        exact .root hcall (function_mem_pieces.1 hx) rfl
      | table t => exact absurd (hcalled.symm.trans htable) (Option.some_ne_none _)
    · rw [hroot] at hm
      obtain ⟨g, hg, hmem⟩ := hcoherent.exists_runs hm
      exact hg.reaches hmem hx hcalled
    · exact absurd hm Node.within_nil
  · exact .inr hleft

/-- **Code is reached or left over**: for every shape, all enumerations and all reserved keys, the
call of the plan leads to all its functions and tables, except to those for fields below a struct
whose package is not known. -/
theorem build_reachesAll (s : Shape) (enums : List Enumeration) (reserved : List String) :
    Plan.ReachesAll s enums reserved where
  schema hg n hn := (build_coherent s enums reserved).within_of_runs hg hn
  piece := reaches_or_isLeft
  imported := exists_piece_of_import
  placed hplaced := by
    have hreaches : ∀ x ∈ (Plan.build s enums reserved).pieces,
        (Plan.build s enums reserved).Reaches x := fun x hx =>
      (reaches_or_isLeft hx).resolve_right (Piece.not_isLeft hplaced)
    refine ⟨hreaches, fun i hi => ?_⟩
    obtain ⟨x, hx, hname⟩ := exists_piece_of_import hi
    exact ⟨x, hreaches x hx, hname⟩

/-- A response with links, whose package is not known.  Each link has an owner. -/
def linkReply : Shape where
  name := "Reply"
  type := "Reply"
  fields := [
    { name := "Name", type := "*string" },
    { name := "Links", type := "[]import2.ApiLink", isComposite := true, children := [
      { name := "Owner", type := "*import3.Person", isComposite := true,
        importAlias := "import3", importPath := "acme/people", children := [
          { name := "Email", type := "*string" }] }] }]

/-- The function for the owners of links stays, and with it the import of their package, although
the links are not flattened and nothing calls it. -/
theorem not_reaches_linkReply :
    (∃ g ∈ (Plan.build linkReply [] ["ext_id"]).functions, g.type = "import3.Person" ∧
      ¬ (Plan.build linkReply [] ["ext_id"]).Reaches (.function g)) ∧
      (Plan.build linkReply [] ["ext_id"]).imports = [⟨"import3", "acme/people"⟩] := by
  have hcall : (Plan.build linkReply [] ["ext_id"]).rootCall = some ⟨"flattenReply", "resp"⟩ := by
    decide +kernel
  have hleaves : ∀ g ∈ (Plan.build linkReply [] ["ext_id"]).functions, g.name = "flattenReply" →
      g.type = "Reply" ∧ ∀ n ∈ g.fields, n.kind.functionCall? = none := by
    decide +kernel
  have hperson : ∃ g ∈ (Plan.build linkReply [] ["ext_id"]).functions,
      g.type = "import3.Person" := by
    decide +kernel
  -- the called function calls no other, so it is all that is reached
  have hruns : ∀ g, (Plan.build linkReply [] ["ext_id"]).Runs g → g.name = "flattenReply" := by
    intro g hg
    induction hg with
    | root hc _ hname =>
      rw [hcall] at hc
      rw [hname, ← Option.some.inj hc]
    | call hg hn _ hcalled ih =>
      rw [(hleaves _ hg.mem ih).2 _ hn] at hcalled
      exact absurd hcalled.symm (Option.some_ne_none _)
  obtain ⟨g, hg, htype⟩ := hperson
  refine ⟨⟨g, hg, htype, fun hreaches => ?_⟩, by decide +kernel⟩
  have hname : g.name = "flattenReply" := hruns g hreaches
  rw [(hleaves g hg hname).1] at htype
  exact absurd htype (by decide)

end ProviderGlue.Schema
