import Mathlib.Data.List.Forall2
import ProviderGlue.Proofs.DataSource
import ProviderGlue.Proofs.Schema.Names

/-!
# What a data source declares

The file of a data source declares the function that makes it and the one that reads it, and the
tables and functions of its plan.  Each declaration opens on a line of its own that is not indented;
the lines inside of functions and tables are indented or blank.

The two functions around a plan are named `Datasource…`, as no name of a plan is, so all names differ.

## Key results

- `inner_readerLines`, `inner_schemaLines`, `inner_statements`: nothing is declared inside
- `declares_lines`: the lines that declare something are those for `declaredNames`, in this order
- `declaredOnce_build`: no name is declared twice
-/

namespace ProviderGlue

open Text Go Schema

/-! ## Lines that open declarations -/

/-- What lines start with that open a declaration. -/
def declarationHeads : List (List Char) := ["func ".toList, "var ".toList]

/-- Whether a line opens a declaration at the top of a file. -/
def opensDeclaration (l : Line) : Bool :=
  l.depth = 0 && declarationHeads.any (·.isPrefixOf l.text.toList)

/-- Whether a text declares a name, as a function or as a variable. -/
def DeclaresName (name text : String) : Prop :=
  ∃ rest, text = "func " ++ name ++ "(" ++ rest ∨ text = "var " ++ name ++ " = " ++ rest

theorem opensDeclaration_of_declaresName {name text : String} (h : DeclaresName name text) :
    opensDeclaration ⟨0, text⟩ = true := by
  have hprefix : ∀ {head : String}, head.toList ∈ declarationHeads → ∀ rest,
      opensDeclaration ⟨0, head ++ rest⟩ = true := by
    intro head hhead rest
    refine Bool.and_eq_true_iff.2 ⟨rfl, List.any_eq_true.2 ⟨_, hhead, ?_⟩⟩
    rw [String.toList_append]
    exact List.isPrefixOf_iff_prefix.2 (List.prefix_append _ _)
  obtain ⟨rest, rfl | rfl⟩ := h
  · rw [String.append_assoc, String.append_assoc]
    exact hprefix (by decide) _
  · rw [String.append_assoc, String.append_assoc]
    exact hprefix (by decide) _

/-- What starts otherwise opens no declaration, whatever follows. -/
theorem opensDeclaration_append {start : String} (depth : Nat) (rest : String)
    (h : declarationHeads.all (diverge · start.toList) = true) :
    opensDeclaration ⟨depth, start ++ rest⟩ = false := by
  refine Bool.and_eq_false_iff.2 (.inr (List.any_eq_false.2 fun head hhead hprefix => ?_))
  have hline := List.isPrefixOf_iff_prefix.1 hprefix
  rw [String.toList_append] at hline
  exact not_prefix_of_diverge _ (List.all_eq_true.1 h head hhead) hline

@[simp] theorem opensDeclaration_of_pos {depth : Nat} (h : 0 < depth) (text : String) :
    opensDeclaration ⟨depth, text⟩ = false := by
  have hne : depth ≠ 0 := by omega
  simp [opensDeclaration, hne]

@[simp] theorem opensDeclaration_blank : opensDeclaration .blank = false := by decide

/-- Lines of which none opens a declaration. -/
def Inner (ls : List Line) : Prop := ∀ l ∈ ls, opensDeclaration l = false

namespace Inner

variable {ls ms : List Line} {depth : Nat} {head after : String}

@[simp] theorem nil : Inner [] := fun _ h => absurd h List.not_mem_nil

@[simp] theorem cons_iff {l : Line} : Inner (l :: ls) ↔ opensDeclaration l = false ∧ Inner ls :=
  List.forall_mem_cons

@[simp] theorem append_iff : Inner (ls ++ ms) ↔ Inner ls ∧ Inner ms := List.forall_mem_append

theorem flatMap {α : Type} {as : List α} {f : α → List Line} (h : ∀ a ∈ as, Inner (f a)) :
    Inner (as.flatMap f) := List.forall_mem_flatMap.2 h

@[simp] theorem braces_iff (h : 0 < depth) : Inner (braces depth head ls after) ↔ Inner ls := by
  simp [braces, h]

@[simp] theorem block_iff (h : 0 < depth) : Inner (block depth head ls) ↔ Inner ls := by
  simp [block, h]

@[simp] theorem entry_iff (h : 0 < depth) : Inner (entry depth head ls) ↔ Inner ls := by
  simp [entry, h]

theorem filter_eq (h : Inner ls) : ls.filter opensDeclaration = [] :=
  List.filter_eq_nil_iff.2 fun l hl => by rw [h l hl]; exact Bool.false_ne_true

end Inner

/-! ## The schema -/

theorem inner_elementLines {depth : Nat} (h : 0 < depth) (kind : NodeKind) {below : List Line}
    (hbelow : Inner below) : Inner (elementLines depth kind below) := by
  cases kind <;> simp [elementLines, elementLine, h, hbelow]

mutual

theorem inner_entryLines {depth : Nat} (h : 0 < depth) : (n : Node) → Inner (entryLines depth n)
  | ⟨key, field, source, kind, children⟩ => by
    have hbelow := inner_elementLines (Nat.succ_pos depth) kind
      (inner_schemaLines (Nat.succ_pos (depth + 2)) children)
    simp [entryLines, h, hbelow]

theorem inner_schemaLines {depth : Nat} (h : 0 < depth) : (ns : List Node) →
    Inner (schemaLines depth ns)
  | [] => .nil
  | n :: ns => by
    rw [schemaLines, Inner.append_iff]
    exact ⟨inner_entryLines h n, inner_schemaLines h ns⟩

end

/-- The lines of statements are as deep as the statements. -/
theorem inner_statements {depth : Nat} (h : 0 < depth) (timeLayout : String) (ns : List Node) :
    Inner (ns.flatMap (Node.statementLines timeLayout depth)) := by
  refine .flatMap fun n _ l hl => ?_
  obtain ⟨line, -, rfl⟩ := List.mem_map.1 hl
  exact opensDeclaration_of_pos h _

/-! ## Declarations -/

/-- The lines of some code open declarations of these names and no others, in this order. -/
def DeclareInOrder (names : List String) (ls : List Line) : Prop :=
  List.Forall₂ (fun name l => DeclaresName name l.text) names (ls.filter opensDeclaration)

namespace DeclareInOrder

variable {names names' : List String} {ls ms : List Line}

theorem of_inner (h : Inner ls) : DeclareInOrder [] ls := by
  rw [DeclareInOrder, h.filter_eq]
  exact .nil

theorem append (h : DeclareInOrder names ls) (h' : DeclareInOrder names' ms) :
    DeclareInOrder (names ++ names') (ls ++ ms) := by
  rw [DeclareInOrder, List.filter_append]
  exact List.rel_append h h'

theorem flatMap {α : Type} {as : List α} {f : α → List String} {g : α → List Line}
    (h : ∀ a ∈ as, DeclareInOrder (f a) (g a)) :
    DeclareInOrder (as.flatMap f) (as.flatMap g) := by
  induction as with
  | nil => exact .nil
  | cons a as ih =>
    rw [List.flatMap_cons, List.flatMap_cons]
    exact (h a List.mem_cons_self).append (ih fun b hb => h b (List.mem_cons_of_mem _ hb))

/-- A block whose head declares a name declares nothing else. -/
theorem block {name head : String} (hhead : DeclaresName name (head ++ "\x7b"))
    (hbody : Inner ls) : DeclareInOrder [name] (Go.block 0 head ls) := by
  have hclose : opensDeclaration ⟨0, "\x7d" ++ ""⟩ = false := by decide
  rw [DeclareInOrder, Go.block, braces, List.cons_append,
    List.filter_cons_of_pos (opensDeclaration_of_declaresName hhead), List.filter_append,
    hbody.filter_eq, List.filter_cons_of_neg (by rw [hclose]; exact Bool.false_ne_true)]
  exact .cons hhead .nil

end DeclareInOrder

namespace DataSource

/-! ## The parts of a file -/

theorem inner_importLines (d : DataSource) : Inner d.importLines := by
  have hopen : opensDeclaration ⟨0, "import ("⟩ = false := by decide
  have hclose : opensDeclaration ⟨0, ")"⟩ = false := by decide
  have hplan : Inner (d.plan.imports.map fun i => ⟨1, i.name ++ " " ++ inQuotes i.path⟩) :=
    fun l hl => by
      obtain ⟨i, -, rfl⟩ := List.mem_map.1 hl
      exact opensDeclaration_of_pos Nat.one_pos _
  have hfmt : Inner (if d.plan.reportsErrors then [⟨1, inQuotes "fmt"⟩] else []) := by
    split <;> simp
  simp [importLines, group, hopen, hclose, hplan, hfmt]

theorem declares_makerLines (d : DataSource) : DeclareInOrder [d.names.maker] d.makerLines := by
  have hcomment : Inner
      [⟨0, "// " ++ d.names.maker ++ " reads " ++ d.names.resource ++ " by its external ID"⟩] := by
    rw [Inner.cons_iff, String.append_assoc, String.append_assoc, String.append_assoc]
    exact ⟨opensDeclaration_append 0 _ (by decide), .nil⟩
  apply (DeclareInOrder.of_inner hcomment).append
  apply DeclareInOrder.block
  · exact ⟨") *schema.Resource \x7b", .inl (String.toList_inj.1 (by simp))⟩
  · simp [inner_schemaLines]

theorem inner_failureLines (d : DataSource) : Inner d.failureLines := by
  simp [failureLines]

theorem inner_settingLines (call : RootCall) : Inner (settingLines call) := by
  simp [settingLines]

theorem declares_readerLines (d : DataSource) : DeclareInOrder [d.names.reader] d.readerLines := by
  apply DeclareInOrder.block
  · exact ⟨"ctx context.Context, d *schema.ResourceData, meta " ++ anyType ++
      ") diag.Diagnostics \x7b", .inl (String.toList_inj.1 (by simp))⟩
  · -- there is more to do in the body if there is something to flatten
    cases hcall : d.plan.rootCall with
    | none => simp [inner_failureLines]
    | some call => simp [inner_failureLines, inner_settingLines]

theorem declares_tableLines (t : EnumTable) : DeclareInOrder [t.table] (tableLines t) := by
  apply DeclareInOrder.block
  · exact ⟨"map[" ++ t.type ++ "]string\x7b", .inr (String.toList_inj.1 (by simp))⟩
  · intro l hl
    obtain ⟨v, -, rfl⟩ := List.mem_map.1 hl
    exact opensDeclaration_of_pos Nat.one_pos _

theorem declares_lookupLines (t : EnumTable) : DeclareInOrder [t.flatten] (lookupLines t) := by
  apply DeclareInOrder.block
  · exact ⟨"v " ++ t.type ++ ") (string, error) \x7b", .inl (String.toList_inj.1 (by simp))⟩
  · simp

theorem declares_flattenLines (timeLayout : String) (f : FlattenFunction) :
    DeclareInOrder [f.name]
      (flattenLines (fun depth n => n.statementLines timeLayout depth) f) := by
  apply DeclareInOrder.block
  · exact ⟨"pr *" ++ f.type ++ ") ([]" ++ recordType ++ ", error) \x7b",
      .inl (String.toList_inj.1 (by simp))⟩
  · cases hunion : f.union with
    | none => simp [structLines, newItem, inner_statements]
    | some u => simp [unionLines, newItem, inner_statements]

/-! ## The file -/

/-- The names that the file declares, in the order of their declarations. -/
def declaredNames (d : DataSource) : List String :=
  [d.names.maker] ++ [d.names.reader] ++ d.plan.declared

/-- The lines of the file declare these names and no others. -/
theorem declares_lines (d : DataSource) : DeclareInOrder d.declaredNames d.lines := by
  have hpackage : Inner [⟨0, "package " ++ d.names.package⟩, .blank] := by
    rw [Inner.cons_iff]
    exact ⟨opensDeclaration_append 0 _ (by decide), by simp⟩
  have hblank : Inner [.blank] := by simp
  have htables : DeclareInOrder (d.plan.tables.flatMap fun t => [t.table, t.flatten])
      (d.plan.tables.flatMap fun t => [.blank] ++ tableLines t ++ [.blank] ++ lookupLines t) :=
    .flatMap fun t _ => ((((DeclareInOrder.of_inner hblank).append (declares_tableLines t)).append
      (.of_inner hblank)).append (declares_lookupLines t))
  have hfunctions : DeclareInOrder (d.plan.functions.flatMap fun f => [f.name])
      (d.plan.functions.flatMap fun f =>
        [.blank] ++ flattenLines (fun depth n => n.statementLines d.timeLayout depth) f) :=
    .flatMap fun f _ => (DeclareInOrder.of_inner hblank).append (declares_flattenLines _ f)
  have h : DeclareInOrder ([] ++ [] ++ [] ++ [d.names.maker] ++ [] ++ [d.names.reader] ++
      (d.plan.tables.flatMap fun t => [t.table, t.flatten]) ++
      (d.plan.functions.flatMap fun f => [f.name]) ++ []) d.lines :=
    ((((((((DeclareInOrder.of_inner hpackage).append (.of_inner (inner_importLines d))).append
      (.of_inner hblank)).append (declares_makerLines d)).append (.of_inner hblank)).append
      (declares_readerLines d)).append htables).append hfunctions).append (.of_inner hblank)
  rw [declaredNames, Plan.declared, List.map_eq_flatMap]
  simpa using h

/-! ## The names -/

/-- The functions around a plan start with `D`. -/
theorem startsWithD_ofOperation (provider package method : String) :
    StartsWithD (Names.ofOperation provider package method).maker ∧
      StartsWithD (Names.ofOperation provider package method).reader := by
  constructor
  · rw [StartsWithD, Names.ofOperation, String.toList_append]
    rfl
  · rw [StartsWithD, Names.ofOperation, String.toList_append, String.toList_append]
    rfl

/-- The two functions around a plan have different names. -/
theorem maker_ne_reader (provider package method : String) :
    (Names.ofOperation provider package method).maker ≠
      (Names.ofOperation provider package method).reader := by
  intro heq
  have hreader : (Names.ofOperation provider package method).reader =
      (Names.ofOperation provider package method).maker ++ "Read" := rfl
  have hread : "Read".length = 4 := rfl
  have hlength := congrArg String.length heq
  rw [hreader, String.length_append] at hlength
  omega

/-- A file whose lines declare each of its names once. -/
structure DeclaresOnce (d : DataSource) : Prop where
  /-- The file consists of these lines. -/
  text : d.text = render d.lines
  /-- They declare the functions around the plan, the tables with their functions, and the functions
  that flatten structs, and nothing else. -/
  lines : DeclareInOrder d.declaredNames d.lines
  /-- All these names differ. -/
  nodup : d.declaredNames.Nodup

/-- **No name is declared twice**: whatever the shape, the enumerations, the reserved keys and the
operation, all names that the file of the data source declares differ; and the search for a free
name always ends. -/
theorem declaresOnce_build (d : DataSource) (provider package method : String) (s : Shape)
    (enums : List Enumeration) (reserved : List String) :
    DeclaresOnce { d with
        names := .ofOperation provider package method
        plan := .build s enums reserved } ∧
      ∀ (base : String) (draft : Draft), ∃ n, Draft.FirstFree base draft.names n ∧
        Draft.takeName base draft =
          (numbered 2 "" base n, { draft with names := numbered 2 "" base n :: draft.names }) := by
  obtain ⟨hnodup, hapart⟩ := build_declared s enums reserved
  obtain ⟨hmaker, hreader⟩ := startsWithD_ofOperation provider package method
  have hnames : ((Names.ofOperation provider package method).maker ::
      (Names.ofOperation provider package method).reader ::
        (Plan.build s enums reserved).declared).Nodup := by
    rw [List.nodup_cons, List.nodup_cons]
    refine ⟨?_, ?_, hnodup⟩
    · -- the maker is neither the reader nor a name of the plan
      rw [List.mem_cons, not_or]
      exact ⟨maker_ne_reader provider package method, fun hmem => hapart _ hmem hmaker⟩
    · intro hmem
      exact hapart _ hmem hreader
  exact ⟨⟨rfl, declares_lines _, hnames⟩, Draft.takeName_spec⟩

end DataSource

end ProviderGlue
