import ProviderGlue.Proofs.Schema.Origin

/-!
# Coherence of plans

The schema of a plan and the code around it are made together, and they agree: every struct in the
schema has a function of its own that reads exactly the nodes below it, every enumeration has its
table, and functions only call functions behind them.

The draft that a plan is made from is coherent at every moment (`Sound`).  A function is added when
the nodes that it reads are complete, so all that these nodes call is there already.

## Key results

- `flattenFor_sound`, `enumFlattenFor_sound`: what the two steps that add code keep
- `steady_sound`: every step of a plan keeps drafts sound
- `build_coherent`: plans are coherent
-/

namespace ProviderGlue.Schema

open Go

/-- The function that flattens the values of an enumeration, if a field holds such values. -/
def NodeKind.tableCall? : NodeKind → Option String
  | .enum name _ | .enumList name _ => some name
  | _ => none

/-- The function that flattens a struct, if a field holds one. -/
def NodeKind.functionCall? : NodeKind → Option String
  | .object name _ => some name
  | _ => none

/-- Whether a table is the one for the values of a field. -/
def EnumTable.Serves (enums : List Enumeration) (t : EnumTable) (f : ShapeField) : Prop :=
  t.enumeration ∈ enums ∧ t.enumeration.name = baseName f.type

/-- A node that stands for `f` calls one of the functions or tables, and has nodes below it only if
it calls the function that reads them. -/
structure Backed (enums : List Enumeration) (functions : List FlattenFunction)
    (tables : List EnumTable) (f : ShapeField) (kind : NodeKind) (below : List Node) : Prop where
  object : ∀ {name access}, kind = .object name access →
    below ≠ [] ∧ ∃ g ∈ functions, g.name = name ∧ g.fields = below
  leaf : (∀ name access, kind ≠ .object name access) → below = []
  table : ∀ {name}, kind.tableCall? = some name → ∃ t ∈ tables, t.flatten = name ∧ t.Serves enums f

namespace Backed

variable {enums : List Enumeration} {functions functions' : List FlattenFunction}
  {tables tables' : List EnumTable} {f : ShapeField} {kind : NodeKind} {below : List Node}

theorem mono (hfunctions : ∀ g ∈ functions, g ∈ functions') (htables : ∀ t ∈ tables, t ∈ tables')
    (h : Backed enums functions tables f kind below) :
    Backed enums functions' tables' f kind below where
  object heq := by
    obtain ⟨hne, g, hg, hname, hfields⟩ := h.object heq
    exact ⟨hne, g, hfunctions g hg, hname, hfields⟩
  leaf := h.leaf
  table heq := by
    obtain ⟨t, ht, hname, hserves⟩ := h.table heq
    exact ⟨t, htables t ht, hname, hserves⟩

/-- A kind that calls nothing needs no code. -/
theorem of_plain (hobject : ∀ name access, kind ≠ .object name access)
    (htable : kind.tableCall? = none) : Backed enums functions tables f kind [] where
  object heq := absurd heq (hobject _ _)
  leaf _ := rfl
  table heq := by rw [htable] at heq; exact nomatch heq

theorem plainKind (type : List Char) :
    Backed enums functions tables f (Schema.plainKind type) [] := by
  fun_cases Schema.plainKind type <;> exact of_plain (by simp) rfl

end Backed

/-- All code that a draft has fits together, and stands for fields of the shape below `top`. -/
structure Sound (enums : List Enumeration) (top : ShapeField) (d : Draft) : Prop where
  named : d.Named
  signatures : (d.functions.map (·.signature)).Nodup
  tables : ∀ {type t}, d.tables.get? type = some t →
    t.enumeration ∈ enums ∧ t.enumeration.name = unqualified type
  functions : ∀ {g rest}, (g :: rest) <:+ d.functions → ∃ outer, ∃ f : ShapeField, f.Within [top] ∧
    Traces (fun _ => Backed enums rest d.tables.values) (origins false outer f.children) g.fields

namespace Sound

variable {enums : List Enumeration} {top : ShapeField} {d : Draft}

theorem empty : Sound enums top {} where
  named := .empty
  signatures := List.nodup_nil
  tables h := nomatch h
  functions h := by
    rw [List.suffix_nil] at h
    exact nomatch h

/-- The code of a draft does not depend on its aliases. -/
theorem of_aliases (h : Sound enums top d) (aliases : Table String) :
    Sound enums top { d with aliases } :=
  ⟨h.named.of_aliases aliases, h.signatures, h.tables, h.functions⟩

end Sound

section Steps

variable {enums : List Enumeration} {top : ShapeField} {d : Draft}

theorem values_subset {d' : Draft} (h : d.Grows d') :
    ∀ t ∈ d.tables.values, t ∈ d'.tables.values := by
  intro t ht
  obtain ⟨type, hget⟩ := Table.mem_values_iff.1 ht
  exact Table.mem_values_iff.2 ⟨type, h.tables hget⟩

theorem qualified?_sound (outer : Package) (f : ShapeField) (h : Sound enums top d) :
    Keeps (Sound enums top) d (Draft.qualified? outer f) fun r d' =>
      d'.functions = d.functions ∧ d'.tables = d.tables ∧
        ∀ {type}, r = some type → unqualified type = baseName f.type := by
  obtain ⟨aliases, hrun, hkeep, -, htype⟩ := Draft.qualified?_run outer f d
  refine ⟨?_, Draft.qualified?_grows outer f d, ?_, ?_, htype⟩
  · rw [hrun]
    exact h.of_aliases aliases
  · rw [hrun]
  · rw [hrun]

/-- A function that reads complete nodes is found or added. -/
theorem flattenFor_sound (type : String) (union : Option UnionBranch) {outer : Package}
    {f : ShapeField} {nodes : List Node} (hf : f.Within [top])
    (hnodes : Traces (fun _ => Backed enums d.functions d.tables.values)
      (origins false outer f.children) nodes)
    (h : Sound enums top d) :
    Keeps (Sound enums top) d (Draft.flattenFor type union nodes) fun name d' =>
      ∃ g ∈ d'.functions, g.name = name ∧ g.fields = nodes := by
  have hgrows := Draft.flattenFor_grows type union nodes d
  have hnamed := Draft.flattenFor_named type union nodes h.named
  rcases Draft.flattenFor_run type union nodes d with ⟨g, hg, hsig, hrun⟩ | ⟨hnew, name, -, hrun⟩
  · rw [FlattenFunction.signature, Prod.mk.injEq, Prod.mk.injEq] at hsig
    refine ⟨by rw [hrun]; exact h, hgrows, ?_⟩
    rw [hrun]
    exact ⟨g, hg, rfl, hsig.2.2⟩
  · refine ⟨?_, hgrows, ?_⟩
    · rw [hrun] at hnamed ⊢
      refine ⟨hnamed, List.nodup_cons.2 ⟨hnew, h.signatures⟩, h.tables, ?_⟩
      intro g rest hsuffix
      -- either the new function or one that was there
      rcases List.suffix_cons_iff.1 hsuffix with heq | hsuffix
      · obtain ⟨rfl, rfl⟩ := List.cons.inj heq
        exact ⟨outer, f, hf, hnodes⟩
      · exact h.functions hsuffix
    · rw [hrun]
      exact ⟨_, List.mem_cons_self, rfl, rfl⟩

/-- A table for the values of a type is found or added. -/
theorem enumFlattenFor_sound {e : Enumeration} {type : String} (he : e ∈ enums)
    (hname : e.name = unqualified type) (h : Sound enums top d) :
    Keeps (Sound enums top) d (Draft.enumFlattenFor e type) fun name d' =>
      ∃ t ∈ d'.tables.values, t.flatten = name ∧
        t.enumeration ∈ enums ∧ t.enumeration.name = unqualified type := by
  have hgrows := Draft.enumFlattenFor_grows e type d
  have hnamed := Draft.enumFlattenFor_named e type h.named
  rcases Draft.enumFlattenFor_run e type d with ⟨t, hget, hrun⟩ | ⟨hget, flatten, table, -, -, hrun⟩
  · refine ⟨by rw [hrun]; exact h, hgrows, ?_⟩
    rw [hrun]
    exact ⟨t, Table.mem_values_iff.2 ⟨type, hget⟩, rfl, h.tables hget⟩
  · have hnew : (d.tables.insert type ⟨flatten, table, type, e⟩).get? type =
        some ⟨flatten, table, type, e⟩ := by
      rw [Table.get?_insert, if_pos rfl]
    refine ⟨?_, hgrows, ?_⟩
    · have hvalues := values_subset hgrows
      rw [hrun] at hnamed hvalues ⊢
      refine ⟨hnamed, h.signatures, ?_, ?_⟩
      · intro type' t ht
        rw [Table.get?_insert] at ht
        split at ht
        · next heq =>
          rw [← Option.some.inj ht, heq]
          exact ⟨he, hname⟩
        · exact h.tables ht
      · intro g rest hsuffix
        obtain ⟨outer, f, hf, htraces⟩ := h.functions hsuffix
        exact ⟨outer, f, hf, htraces.mono (Backed.mono (fun _ => id) hvalues)⟩
    · rw [hrun]
      exact ⟨_, Table.mem_values_iff.2 ⟨type, hnew⟩, rfl, he, hname⟩

/-- A field with values of an enumeration calls its table, or nothing. -/
theorem enumKind_sound {e : Enumeration} (outer : Package) {f : ShapeField} (he : e ∈ enums)
    (hname : e.name = baseName f.type) (h : Sound enums top d) :
    Keeps (Sound enums top) d (enumKind e outer f) fun kind d' =>
      Backed enums d'.functions d'.tables.values f kind [] := by
  have unfilled : ∀ d : Draft, Backed enums d.functions d.tables.values f .unfilled [] :=
    fun _ => .of_plain (fun _ _ => by simp) rfl
  simp only [enumKind]
  split
  · exact .pure h (unfilled d)
  · refine (qualified?_sound outer f h).bind ?_
    rintro (_ | type) d₁ hd₁ - ⟨-, -, htype⟩
    · exact .pure hd₁ (unfilled d₁)
    · have hbase : unqualified type = baseName f.type := htype rfl
      refine (enumFlattenFor_sound he (hname.trans hbase.symm) hd₁).bind ?_
      rintro flatten d₂ hd₂ - ⟨t, ht, hflatten, hmem, henum⟩
      have table : ∀ {name}, some flatten = some name →
          ∃ t ∈ d₂.tables.values, t.flatten = name ∧ t.Serves enums f :=
        fun heq => ⟨t, ht, hflatten.trans (Option.some.inj heq), hmem, henum.trans hbase⟩
      split
      · exact .pure hd₂ ⟨(fun heq => NodeKind.noConfusion heq), fun _ => rfl, table⟩
      · exact .pure hd₂ ⟨(fun heq => NodeKind.noConfusion heq), fun _ => rfl, table⟩

/-- What a field holds whose type is no struct calls a table, or nothing. -/
theorem leafKind_sound (outer : Package) (f : ShapeField) (h : Sound enums top d) :
    Keeps (Sound enums top) d (leafKind enums outer f) fun kind d' =>
      Backed enums d'.functions d'.tables.values f kind [] := by
  unfold leafKind
  cases henum : enumNamed? enums (baseName f.type) with
  | none => exact .pure h (.plainKind _)
  | some e =>
    obtain ⟨he, hname⟩ := enumNamed?_eq_some henum
    dsimp only
    split
    · exact .pure h (.plainKind _)
    · exact enumKind_sound outer he hname h

/-- A struct calls the function that reads the nodes below it, or has none. -/
theorem objectKind_sound {outer : Package} {f : ShapeField} {nodes : List Node}
    (union : Option UnionBranch) (hf : f.Within [top])
    (hnodes : Traces (fun _ => Backed enums d.functions d.tables.values)
      (origins false (outer.below f) f.children) nodes)
    (h : Sound enums top d) :
    Keeps (Sound enums top) d (objectKind outer f nodes union) fun r d' =>
      Backed enums d'.functions d'.tables.values f r.1 r.2 := by
  have unfilled : ∀ d : Draft, Backed enums d.functions d.tables.values f .unfilled [] :=
    fun _ => .of_plain (fun _ _ => by simp) rfl
  unfold objectKind
  split
  · exact .pure h (unfilled d)
  · next hne =>
    refine (qualified?_sound outer f h).bind ?_
    rintro (_ | type) d₁ hd₁ - ⟨hfunctions, htables, -⟩
    · exact .pure hd₁ (unfilled d₁)
    · rw [← hfunctions, ← htables] at hnodes
      refine (flattenFor_sound type union hf hnodes hd₁).bind fun name d₂ hd₂ _ hcall => ?_
      refine .pure hd₂ ⟨fun heq => ?_, fun hleaf => absurd rfl (hleaf _ _), fun heq => nomatch heq⟩
      obtain ⟨rfl, -⟩ := NodeKind.object.inj heq
      exact ⟨fun hnil => hne (List.isEmpty_iff.2 hnil), hcall⟩

/-- Every step of a plan keeps drafts sound, and makes nodes that are backed by the draft. -/
theorem steady_sound (enums : List Enumeration) (top : ShapeField) :
    Steady enums (fun _ f => f.Within [top]) (Sound enums top) (fun _ _ _ _ => True)
      fun d _ => Backed enums d.functions d.tables.values where
  children hf hc := hf.child hc
  grows hgrows := Backed.mono (fun _ hg => hgrows.functions.subset hg) (values_subset hgrows)
  selects _ _ := trivial
  unfilled _ := .of_plain (fun _ _ => by simp) rfl
  union {d outer f} hd _ := by
    refine ⟨?_, Draft.unionType?_grows outer f d, fun _ _ => trivial⟩
    rw [(Draft.unionType?_run outer f d).1]
    exact (qualified?_sound outer f hd).good
  leaf hd _ _ := leafKind_sound _ _ hd
  object {_ _ _ _ union} hd hf _ _ hnodes := objectKind_sound union hf hnodes hd

end Steps

/-! ## Plans -/

namespace Plan

/-- Whether a node stands somewhere in the schema or is read by a function. -/
def Mentions (p : Plan) (n : Node) : Prop :=
  n.Within p.root ∨ ∃ g ∈ p.functions, n.Within g.fields

/-- If a field holds values of an enumeration, the function that it calls belongs to one table, and
that table is for the type of the field. -/
def HasTable (p : Plan) (enums : List Enumeration) (f : ShapeField) (kind : NodeKind) : Prop :=
  ∀ {name}, kind.tableCall? = some name →
    ∃ t, p.tables.filter (·.flatten = name) = [t] ∧ t.Serves enums f

/-- The schema and the code of a plan for the fields of `top` agree. -/
structure Coherent (p : Plan) (enums : List Enumeration) (outer : Package) (top : ShapeField) :
    Prop where
  /-- Each struct has nodes below it, and one function reads them. -/
  object : ∀ {n name access}, p.Mentions n → n.kind = .object name access →
    n.children ≠ [] ∧
      ∃ g, p.functions.filter (·.name = name) = [g] ∧ g.fields = n.children
  /-- Nothing but structs has nodes below it. -/
  leaf : ∀ {n}, p.Mentions n → (∀ name access, n.kind ≠ .object name access) → n.children = []
  /-- There is a call exactly if there is something to read. -/
  call_iff : p.rootCall.isSome ↔ p.root ≠ []
  /-- The called function reads the schema. -/
  call : ∀ {c}, p.rootCall = some c →
    ∃ g, p.functions.filter (·.name = c.flatten) = [g] ∧ g.fields = p.root
  /-- The nodes of the schema stand for the fields, with their tables. -/
  root_tables : p.root = [] ∨
    Traces (fun _ f kind _ => p.HasTable enums f kind)
      (origins false (outer.below top) top.children) p.root
  /-- What a function reads stands for the fields of some struct, with their tables. -/
  tables : ∀ {g}, g ∈ p.functions → ∃ outer, ∃ f : ShapeField, f.Within [top] ∧
    Traces (fun _ f kind _ => p.HasTable enums f kind) (origins false outer f.children) g.fields
  /-- A function calls only functions behind it. -/
  later : ∀ {before g after}, p.functions = before ++ g :: after →
    ∀ {n : Node} {name access}, n.Within g.fields → n.kind = .object name access →
      ∃ g' ∈ after, g'.name = name
  /-- No two functions read the same from the same type. -/
  distinct : (p.functions.map (·.signature)).Nodup

end Plan

/-- Of elements with different marks, one has the mark of a given one. -/
theorem filter_eq_singleton {α : Type} (mark : α → String) {as : List α}
    (h : (as.map mark).Nodup) {a : α} (ha : a ∈ as) : as.filter (mark · = mark a) = [a] := by
  induction as with
  | nil => exact absurd ha List.not_mem_nil
  | cons b as ih =>
    rw [List.map_cons, List.nodup_cons] at h
    rcases List.mem_cons.1 ha with rfl | ha
    · rw [List.filter_cons_of_pos (by simp), List.cons.injEq, List.filter_eq_nil_iff]
      refine ⟨rfl, fun c hc => ?_⟩
      have hne : mark c ≠ mark a := fun heq => h.1 (heq ▸ List.mem_map_of_mem hc)
      simpa using hne
    · have hne : mark b ≠ mark a := fun heq => h.1 (heq ▸ List.mem_map_of_mem ha)
      rw [List.filter_cons_of_neg (by simpa using hne), ih h.2 ha]

namespace Draft.Named

variable {d : Draft}

theorem nodup_functions (h : d.Named) : (d.functions.map (·.name)).Nodup :=
  (List.nodup_append.1 h.nodup_declared).1

theorem nodup_tables (h : d.Named) : (d.tables.values.map (·.flatten)).Nodup := by
  have hnodup := (List.nodup_append.1 h.nodup_declared).2.1
  refine List.Nodup.sublist ?_ hnodup
  generalize d.tables.values = ts
  induction ts with
  | nil => exact List.Sublist.refl _
  | cons t ts ih => exact (ih.cons t.table).cons_cons t.flatten

end Draft.Named

namespace Sound

variable {enums : List Enumeration} {top : ShapeField} {d : Draft} {p : Plan}

/-- A function of the plan is found once by its name. -/
theorem function_once (h : Sound enums top d) (hfunctions : p.functions = d.functions)
    {g : FlattenFunction} (hg : g ∈ d.functions) : p.functions.filter (·.name = g.name) = [g] := by
  rw [hfunctions]
  exact filter_eq_singleton (·.name) h.named.nodup_functions hg

/-- A table of the plan is found once by its function. -/
theorem hasTable (h : Sound enums top d) (htables : p.tables = d.tables.values)
    {functions : List FlattenFunction} {f : ShapeField} {kind : NodeKind} {below : List Node}
    (hbacked : Backed enums functions d.tables.values f kind below) : p.HasTable enums f kind := by
  intro name heq
  obtain ⟨t, ht, rfl, hserves⟩ := hbacked.table heq
  rw [htables]
  exact ⟨t, filter_eq_singleton (·.flatten) h.named.nodup_tables ht, hserves⟩

/-- Every node that a plan mentions is backed by the whole draft. -/
theorem exists_backed (h : Sound enums top d) (hfunctions : p.functions = d.functions)
    {os : List Origin} (hroot : p.root = [] ∨
      Traces (fun _ => Backed enums d.functions d.tables.values) os p.root)
    {n : Node} (hn : p.Mentions n) :
    ∃ f, Backed enums d.functions d.tables.values f n.kind n.children := by
  rcases hn with hn | ⟨g, hg, hn⟩
  · rcases hroot with hempty | htraces
    · exact absurd (hempty ▸ hn) Node.within_nil
    · obtain ⟨-, f, hf⟩ := htraces.exists_of_within hn
      exact ⟨f, hf⟩
  · -- what a function reads is backed by the functions behind it
    rw [hfunctions] at hg
    obtain ⟨before, after, heq⟩ := List.append_of_mem hg
    obtain ⟨_, f, -, htraces⟩ := h.functions ⟨before, heq.symm⟩
    obtain ⟨-, f, hf⟩ := htraces.exists_of_within hn
    refine ⟨f, hf.mono (fun g' hg' => ?_) fun _ => id⟩
    rw [heq]
    exact List.mem_append_right _ (List.mem_cons_of_mem _ hg')

/-- A draft that backs the nodes of a schema makes a coherent plan. -/
theorem coherent (h : Sound enums top d) {outer : Package} {kind : NodeKind}
    (hfunctions : p.functions = d.functions) (htables : p.tables = d.tables.values)
    (hcall : p.rootCall.map (·.flatten) = kind.functionCall?)
    (hcontent : Steady.ContentPost (fun d _ => Backed enums d.functions d.tables.values) outer top
      (kind, p.root) d) :
    p.Coherent enums outer top := by
  have hbacked : Backed enums d.functions d.tables.values top kind p.root := hcontent.1
  have hroot : p.root = [] ∨ Traces (fun _ => Backed enums d.functions d.tables.values)
      (origins false (outer.below top) top.children) p.root := hcontent.2
  constructor
  case object =>
    intro n name access hn heq
    obtain ⟨f, hf⟩ := h.exists_backed hfunctions hroot hn
    obtain ⟨hne, g, hg, rfl, hfields⟩ := hf.object heq
    exact ⟨hne, g, h.function_once hfunctions hg, hfields⟩
  case leaf =>
    intro n hn hkind
    obtain ⟨f, hf⟩ := h.exists_backed hfunctions hroot hn
    exact hf.leaf hkind
  case call_iff =>
    -- only structs are called, and only they have nodes
    rw [← Option.isSome_map (f := (·.flatten)), hcall]
    cases kind with
    | object name access => simpa [NodeKind.functionCall?] using (hbacked.object rfl).1
    | _ => simp [NodeKind.functionCall?, hbacked.leaf fun _ _ => by simp]
  case call =>
    intro c hc
    rw [hc, Option.map_some] at hcall
    cases kind with
    | object name access =>
      obtain ⟨-, g, hg, hname, hfields⟩ := hbacked.object rfl
      rw [Option.some.inj hcall, ← hname]
      exact ⟨g, h.function_once hfunctions hg, hfields⟩
    | _ => exact nomatch hcall
  case root_tables =>
    exact hroot.imp id fun htraces => htraces.mono (h.hasTable htables)
  case tables =>
    intro g hg
    rw [hfunctions] at hg
    obtain ⟨before, after, heq⟩ := List.append_of_mem hg
    obtain ⟨outer, f, hf, htraces⟩ := h.functions ⟨before, heq.symm⟩
    exact ⟨outer, f, hf, htraces.mono (h.hasTable htables)⟩
  case later =>
    intro before g after heq n name access hn hkind
    obtain ⟨_, _, -, htraces⟩ := h.functions ⟨before, (hfunctions ▸ heq).symm⟩
    obtain ⟨-, f, hf⟩ := htraces.exists_of_within hn
    obtain ⟨-, g', hg', hname, -⟩ := hf.object hkind
    exact ⟨g', hg', hname⟩
  case distinct =>
    rw [hfunctions]
    exact h.signatures

end Sound

/-- **Plans are coherent**: for every shape, all enumerations and all reserved keys, the schema of
the plan and the code around it agree. -/
theorem build_coherent (s : Shape) (enums : List Enumeration) (reserved : List String) :
    (Plan.build s enums reserved).Coherent enums ⟨s.importPath, s.importAlias⟩
      (Plan.payload s).1 := by
  have hrun := (steady_sound enums (Plan.payload s).1).planned.1 reserved
    ⟨s.importPath, s.importAlias⟩ (Plan.payload s).1 (.here List.mem_cons_self) {} .empty
  refine hrun.good.coherent rfl rfl ?_ hrun.post
  generalize hkind :
    (content enums reserved ⟨s.importPath, s.importAlias⟩ (Plan.payload s).1 {}).1.1 = kind
  have hcall : (Plan.build s enums reserved).rootCall =
      match (content enums reserved ⟨s.importPath, s.importAlias⟩ (Plan.payload s).1 {}).1.1 with
      | .object flatten _ => some ⟨flatten, (Plan.payload s).2⟩
      | _ => none := rfl
  rw [hcall, hkind]
  cases kind <;> rfl

end ProviderGlue.Schema
