import Mathlib.Data.List.Forall2
import ProviderGlue.DataSource
import ProviderGlue.Proofs.Go.Code
import ProviderGlue.Proofs.Schema.Imports

/-!
# Imports of data sources

The file of a data source imports the packages of its plan, some that every data source needs, and
`fmt` if its code makes errors of its own.  Such errors are made where a value of an enumeration has
no name and where a union holds a value of another type.

What other lines start with is fixed, up to names that stand behind it, and tells them apart from
lines that make errors (`differs`).

## Key results

- `mem_importLines_fmt`: when `fmt` is imported
- `exists_callsErrorf`: when it is used
- `text_shows_codeLines`: the text of the file is made of the lines of its code
- `imports_exact`: the imports of a data source are exact and right
-/

namespace ProviderGlue

open Text Go Schema

/-! ## Lines that make errors -/

/-- What lines start with that return an error with a message. -/
def errorHeads : List (List Char) :=
  ["return \"\", fmt.Errorf(".toList, "return nil, fmt.Errorf(".toList]

/-- Whether a line of code returns an error with a message. -/
def callsErrorf (text : String) : Bool :=
  errorHeads.any (·.isPrefixOf text.toList)

/-- As much of these starts as tells them apart from those of other lines. -/
def errorMarks : List (List Char) :=
  [['r', 'e', 't', 'u', 'r', 'n', ' ', '\"'],
   ['r', 'e', 't', 'u', 'r', 'n', ' ', 'n', 'i', 'l', ',', ' ', 'f']]

theorem exists_errorMark : ∀ head ∈ errorHeads, ∃ mark ∈ errorMarks, mark <+: head := by decide

/-- Whether two texts differ somewhere, so that neither continues the other. -/
def diverge : (a b : List Char) → Bool
  | c :: cs, d :: ds => c ≠ d || diverge cs ds
  | _, _ => false

theorem not_prefix_of_diverge {mark start : List Char} (rest : List Char)
    (h : diverge mark start = true) : ¬ mark <+: start ++ rest := by
  induction mark generalizing start with
  | nil => exact nomatch h
  | cons c mark ih =>
    cases start with
    | nil => exact nomatch h
    | cons d start =>
      rw [diverge, Bool.or_eq_true, decide_eq_true_eq] at h
      rw [List.cons_append, List.cons_prefix_cons]
      rintro ⟨hchar, hmark⟩
      rcases h with hne | h
      · exact hne hchar
      · exact ih h hmark

/-- Whether lines with the given start return no errors, whatever follows. -/
def differs (start : String) : Bool :=
  errorMarks.all (diverge · start.toList)

theorem callsErrorf_append {start rest : String} (h : differs start = true) :
    callsErrorf (start ++ rest) = false := by
  rw [callsErrorf, List.any_eq_false]
  intro head hhead hprefix
  obtain ⟨mark, hmark, hle⟩ := exists_errorMark head hhead
  have hline := hle.trans (List.isPrefixOf_iff_prefix.1 hprefix)
  rw [String.toList_append] at hline
  exact not_prefix_of_diverge _ (List.all_eq_true.1 h mark hmark) hline

theorem callsErrorf_of_differs {text : String} (h : differs text = true) :
    callsErrorf text = false := by
  rw [← String.append_empty (s := text)]
  exact callsErrorf_append h

/-- What does not start with `return` returns nothing. -/
theorem callsErrorf_of_cons {text : String} {c : Char} {cs : List Char} (h : text.toList = c :: cs)
    (hc : c ≠ 'r') : callsErrorf text = false := by
  have hheads : ∀ head ∈ errorHeads, ∃ rest, head = 'r' :: rest := by
    simp only [errorHeads, List.forall_mem_cons]
    exact ⟨⟨_, rfl⟩, ⟨_, rfl⟩, fun _ h => absurd h List.not_mem_nil⟩
  rw [callsErrorf, List.any_eq_false]
  intro head hhead hprefix
  obtain ⟨rest, rfl⟩ := hheads head hhead
  rw [h, List.isPrefixOf_cons_cons, Bool.and_eq_true, beq_iff_eq] at hprefix
  exact hc hprefix.1.symm

@[simp] theorem callsErrorf_blank : callsErrorf Line.blank.text = false := by decide

theorem callsErrorf_head {head : String} (h : head.toList ∈ errorHeads) (rest : String) :
    callsErrorf (head ++ rest) = true := by
  refine List.any_eq_true.2 ⟨_, h, ?_⟩
  rw [String.toList_append]
  exact List.isPrefixOf_iff_prefix.2 (List.prefix_append _ _)

/-- Lines of which none returns an error with a message. -/
def Quiet (ls : List Line) : Prop := ∀ l ∈ ls, callsErrorf l.text = false

namespace Quiet

variable {ls ms : List Line} {depth : Nat} {head after : String}

@[simp] theorem nil : Quiet [] := fun _ h => absurd h List.not_mem_nil

@[simp] theorem cons_iff {l : Line} : Quiet (l :: ls) ↔ callsErrorf l.text = false ∧ Quiet ls :=
  List.forall_mem_cons

@[simp] theorem append_iff : Quiet (ls ++ ms) ↔ Quiet ls ∧ Quiet ms := List.forall_mem_append

theorem flatMap {α : Type} {as : List α} {f : α → List Line} (h : ∀ a ∈ as, Quiet (f a)) :
    Quiet (as.flatMap f) := List.forall_mem_flatMap.2 h

@[simp] theorem braces_iff : Quiet (braces depth head ls after) ↔
    callsErrorf (head ++ "\x7b") = false ∧ Quiet ls ∧ callsErrorf ("\x7d" ++ after) = false := by
  simp [braces]

@[simp] theorem block_iff :
    Quiet (block depth head ls) ↔ callsErrorf (head ++ "\x7b") = false ∧ Quiet ls := by
  have hclose : callsErrorf "\x7d" = false := by decide
  simp [block, hclose]

@[simp] theorem entry_iff :
    Quiet (entry depth head ls) ↔ callsErrorf (head ++ "\x7b") = false ∧ Quiet ls := by
  have hclose : callsErrorf "\x7d," = false := by decide
  simp [entry, hclose]

@[simp] theorem group_iff :
    Quiet (group depth head ls) ↔ callsErrorf (head ++ "(") = false ∧ Quiet ls := by
  have hclose : callsErrorf ")" = false := by decide
  simp [group, hclose]

end Quiet

/-! ## The schema -/

theorem quiet_elementLines (depth : Nat) (kind : NodeKind) {below : List Line}
    (h : Quiet below) : Quiet (elementLines depth kind below) := by
  cases kind <;>
    simp (disch := decide) [elementLines, elementLine, h, callsErrorf_append, callsErrorf_of_differs,
      String.append_assoc]

mutual

theorem quiet_entryLines (depth : Nat) : (n : Node) → Quiet (entryLines depth n)
  | ⟨key, field, source, kind, children⟩ => by
    have hbelow := quiet_elementLines (depth + 1) kind (quiet_schemaLines (depth + 3) children)
    simp (disch := decide) [entryLines, inQuotes, hbelow, callsErrorf_append, callsErrorf_of_differs,
      String.append_assoc]

theorem quiet_schemaLines (depth : Nat) : (ns : List Node) → Quiet (schemaLines depth ns)
  | [] => .nil
  | n :: ns => by
    rw [schemaLines, Quiet.append_iff]
    exact ⟨quiet_entryLines depth n, quiet_schemaLines depth ns⟩

end

/-! ## Statements -/

theorem quiet_statement (timeLayout : String) (n : Node) : Quiet (n.statement timeLayout) := by
  have hskip : ∀ pointer : Bool,
      Quiet (if pointer then block 2 "if e == nil " [⟨3, "continue"⟩] else []) := by
    intro pointer
    cases pointer with
    | false => exact .nil
    | true => simp (disch := decide) [callsErrorf_of_differs]
  unfold Node.statement
  split <;>
    simp (disch := decide) [Node.put, Node.putFlattened, ifPresent, returnError, makeSlice, hskip,
      callsErrorf_append, callsErrorf_of_differs, String.append_assoc]

namespace DataSource

/-! ## The parts of a file -/

theorem quiet_makerLines (d : DataSource) : Quiet d.makerLines := by
  simp (disch := decide) [makerLines, inQuotes, quiet_schemaLines, callsErrorf_append,
    callsErrorf_of_differs, String.append_assoc]

theorem quiet_failureLines (d : DataSource) : Quiet d.failureLines := by
  simp (disch := decide) [failureLines, callsErrorf_append, callsErrorf_of_differs,
    String.append_assoc]

theorem quiet_settingLines (call : RootCall) : Quiet (settingLines call) := by
  simp (disch := decide) [settingLines, callsErrorf_append, callsErrorf_of_differs,
    String.append_assoc]

theorem quiet_readerLines (d : DataSource) : Quiet d.readerLines := by
  have hend : callsErrorf "return nil" = false := by decide
  cases hcall : d.plan.rootCall <;>
    simp (disch := decide) [readerLines, hcall, hend, quiet_failureLines, quiet_settingLines,
      inQuotes, callsErrorf_append, callsErrorf_of_differs, String.append_assoc]

/-- Only a function that reads a union returns an error with a message. -/
theorem quiet_flattenLines {statement : (depth : Nat) → Node → List Line}
    (hstatement : ∀ depth n, Quiet (statement depth n)) {f : FlattenFunction} (h : f.union = none) :
    Quiet (flattenLines statement f) := by
  have hstatements : Quiet (f.fields.flatMap (statement 1)) := .flatMap fun n _ => hstatement 1 n
  simp (disch := decide) [flattenLines, structLines, newItem, h, hstatements, callsErrorf_append,
    callsErrorf_of_differs, String.append_assoc]

/-! ## Use and import -/

/-- The lines of the file, with statements as they are put together: a name with line breaks does
not split them. -/
def codeLines (d : DataSource) : List Line := d.linesWith fun _ n => n.statement d.timeLayout

/-! A line of the file is a line of the code behind some tabs, unless a name breaks it. -/

/-- Whether a line shows a line of code, perhaps behind some tabs. -/
def Shows (l code : Line) : Prop :=
  ∃ depth, l.text.toList = List.replicate depth '\t' ++ code.text.toList

/-- Whether a text stands in one line. -/
def IsUnbroken (text : String) : Prop := '\n' ∉ text.toList ∧ '\r' ∉ text.toList

/-- A statement ends with a line that is not empty. -/
theorem exists_statement_eq (timeLayout : String) (n : Node) :
    ∃ front last, n.statement timeLayout = front ++ [last] ∧ last.text ≠ "" := by
  have hput : ∀ value, ∃ front last, [n.put 0 value] = front ++ [last] ∧ last.text ≠ "" :=
    fun value => ⟨[], _, rfl, by simp [Node.put]⟩
  unfold Node.statement
  -- a statement is an assignment, a block, or a comment
  split <;> first
    | exact hput _
    | exact ⟨_, _, rfl, by decide⟩
    | exact ⟨[], _, rfl, by simp⟩

/-- The lines of a statement are those of its code, as deep as the statement, if none is broken. -/
theorem statementLines_eq {timeLayout : String} {n : Node}
    (h : ∀ l ∈ n.statement timeLayout, IsUnbroken l.text) (depth : Nat) :
    n.statementLines timeLayout depth =
      (n.statement timeLayout).map fun l => ⟨depth, l.written⟩ := by
  obtain ⟨front, last, heq, hlast⟩ := exists_statement_eq timeLayout n
  -- the tabs before a line break it no more than its text does
  have hparts : ∀ part ∈ front.map (·.written.toList) ++ [last.written.toList],
      '\n' ∉ part ∧ '\r' ∉ part := by
    intro part hpart
    have hmem : part ∈ (front ++ [last]).map (·.written.toList) := by rwa [List.map_append]
    obtain ⟨l, hl, rfl⟩ := List.mem_map.1 hmem
    obtain ⟨hfeed, hreturn⟩ := h l (heq ▸ hl)
    simp only [Line.toList_written, List.mem_append, not_or, List.mem_replicate]
    exact ⟨⟨fun h => absurd h.2 (by decide), hfeed⟩, fun h => absurd h.2 (by decide), hreturn⟩
  have hend : last.written.toList ≠ [] := by
    rw [Line.toList_written]
    exact List.append_ne_nil_of_right_ne_nil _ fun hnil => hlast (String.toList_eq_nil_iff.1 hnil)
  have hbody : ("\n".intercalate ((n.statement timeLayout).map Line.written)).toList =
      ['\n'].intercalate (front.map (·.written.toList) ++ [last.written.toList]) := by
    rw [String.toList_intercalate, heq]
    simp [Function.comp_def]
  rw [Node.statementLines, hbody, Text.lines_intercalate hparts hend, heq]
  simp

theorem forall₂_shows_self (ls : List Line) : List.Forall₂ Shows ls ls :=
  List.forall₂_same.2 fun _ _ => ⟨0, rfl⟩

section Shows

variable {ls codes : List Line} {s code : (depth : Nat) → Node → List Line}

theorem forall₂_shows_block (h : List.Forall₂ Shows ls codes) (depth : Nat) (head : String) :
    List.Forall₂ Shows (block depth head ls) (block depth head codes) :=
  .cons ⟨0, rfl⟩ (List.rel_append h (forall₂_shows_self _))

theorem forall₂_shows_flatMap {α : Type} {as : List α} {f g : α → List Line}
    (h : ∀ a ∈ as, List.Forall₂ Shows (f a) (g a)) :
    List.Forall₂ Shows (as.flatMap f) (as.flatMap g) := by
  induction as with
  | nil => exact .nil
  | cons a as ih =>
    obtain ⟨ha, has⟩ := List.forall_mem_cons.1 h
    exact List.rel_append ha (ih has)

theorem forall₂_shows_flattenLines {f : FlattenFunction}
    (h : ∀ depth, ∀ n ∈ f.fields, List.Forall₂ Shows (s depth n) (code depth n)) :
    List.Forall₂ Shows (flattenLines s f) (flattenLines code f) := by
  refine forall₂_shows_block (List.rel_append (forall₂_shows_self _) ?_) _ _
  -- the statements stand in a loop if the function reads a union
  cases f.union with
  | none =>
    exact List.rel_append (List.rel_append (forall₂_shows_self _)
      (forall₂_shows_flatMap (h 1))) (forall₂_shows_self _)
  | some u =>
    have hloop := forall₂_shows_block (List.rel_append (List.rel_append
      (forall₂_shows_self [⟨2, "_ = v"⟩, newItem 2]) (forall₂_shows_flatMap (h 2)))
      (forall₂_shows_self [⟨2, "result = append(result, item)"⟩])) 1 "for _, v := range values "
    exact List.rel_append (List.rel_append (forall₂_shows_self _) hloop) (forall₂_shows_self _)

end Shows

/-- **The file shows its code**: its text is made of the lines of the code, behind tabs, if no name or
layout breaks the line of a statement. -/
theorem text_shows_codeLines {d : DataSource}
    (h : ∀ f ∈ d.plan.functions, ∀ n ∈ f.fields, ∀ l ∈ n.statement d.timeLayout,
      IsUnbroken l.text) :
    d.text = render d.lines ∧ List.Forall₂ Shows d.lines d.codeLines := by
  refine ⟨rfl, ?_⟩
  -- outside of statements the two are made of the same lines
  have hstatement : ∀ f ∈ d.plan.functions, ∀ depth, ∀ n ∈ f.fields,
      List.Forall₂ Shows (n.statementLines d.timeLayout depth) (n.statement d.timeLayout) := by
    intro f hf depth n hn
    rw [statementLines_eq (h f hf n hn), List.forall₂_map_left_iff]
    exact List.forall₂_same.2 fun l _ => ⟨l.depth, l.toList_written⟩
  exact List.rel_append (List.rel_append (forall₂_shows_self _) (forall₂_shows_flatMap fun f hf =>
    List.rel_append (forall₂_shows_self _) (forall₂_shows_flattenLines (hstatement f hf))))
    (forall₂_shows_self _)

/-- The line that imports `fmt`. -/
def fmtLine : Line := ⟨1, inQuotes "fmt"⟩

section Imports

variable {d : DataSource} (himports : ∀ i ∈ d.plan.imports, IsNumbered i.name)

include himports

/-- An import of a plan starts with its name. -/
theorem importText_eq {i : Import} (hi : i ∈ d.plan.imports) :
    ∃ cs, (i.name ++ " " ++ inQuotes i.path).toList = 'i' :: cs := by
  obtain ⟨digits, hname, -⟩ := himports i hi
  refine ⟨"mport".toList ++ digits ++ " ".toList ++ (inQuotes i.path).toList, ?_⟩
  rw [String.toList_append, String.toList_append, hname]
  rfl

theorem quiet_importLines : Quiet d.importLines := by
  have hplan : Quiet (d.plan.imports.map fun i => ⟨1, i.name ++ " " ++ inQuotes i.path⟩) :=
    fun l hl => by
      obtain ⟨i, hi, rfl⟩ := List.mem_map.1 hl
      obtain ⟨cs, htext⟩ := importText_eq himports hi
      exact callsErrorf_of_cons htext (by decide)
  have hfmt : Quiet (if d.plan.reportsErrors then [⟨1, inQuotes "fmt"⟩] else []) := by
    split
    · simp (disch := decide) [inQuotes, callsErrorf_of_differs]
    · exact .nil
  simp only [importLines, Quiet.group_iff, Quiet.append_iff, hplan, hfmt]
  simp (disch := decide) [inQuotes, callsErrorf_append, callsErrorf_of_differs, String.append_assoc]

theorem mem_importLines_fmt : fmtLine ∈ d.importLines ↔ d.plan.reportsErrors = true := by
  have hplan : fmtLine ∉ d.plan.imports.map fun i => ⟨1, i.name ++ " " ++ inQuotes i.path⟩ := by
    intro hmem
    obtain ⟨i, hi, heq⟩ := List.mem_map.1 hmem
    obtain ⟨cs, htext⟩ := importText_eq himports hi
    have hquote : (inQuotes "fmt").toList.head? = some 'i' := by
      rw [← List.head?_cons (a := 'i') (l := cs), ← htext]
      exact congrArg (fun l : Line => l.text.toList.head?) heq.symm
    exact absurd hquote (by decide)
  have hutils : fmtLine ≠ ⟨1, inQuotes (d.providerModule ++ "/utils")⟩ := by
    intro heq
    have hslash : '/' ∈ (inQuotes "fmt").toList := by
      have htext : inQuotes "fmt" = inQuotes (d.providerModule ++ "/utils") :=
        congrArg Line.text heq
      rw [htext]
      simp [inQuotes]
    exact absurd hslash (by decide)
  have hconns : fmtLine ≠ ⟨1, "conns " ++ inQuotes (d.providerModule ++ "/nutanix")⟩ := by
    intro heq
    have hhead : (inQuotes "fmt").toList.head? = some 'c' := by
      have htext : inQuotes "fmt" = "conns " ++ inQuotes (d.providerModule ++ "/nutanix") :=
        congrArg Line.text heq
      rw [htext, String.toList_append]
      rfl
    exact absurd hhead (by decide)
  have hif : fmtLine ∈ (if d.plan.reportsErrors then [⟨1, inQuotes "fmt"⟩] else []) ↔
      d.plan.reportsErrors = true := by
    split
    · next h => exact ⟨fun _ => h, fun _ => List.mem_singleton.2 rfl⟩
    · next h => exact ⟨fun hmem => absurd hmem List.not_mem_nil, fun h' => absurd h' h⟩
  have hbefore : fmtLine ∉ [⟨1, inQuotes "context"⟩, ⟨1, inQuotes "encoding/json"⟩] := by decide
  have hbetween : fmtLine ∉ [.blank,
      ⟨1, inQuotes "github.com/hashicorp/terraform-plugin-sdk/v2/diag"⟩,
      ⟨1, inQuotes "github.com/hashicorp/terraform-plugin-sdk/v2/helper/schema"⟩] := by decide
  have hbehind : fmtLine ∉ [⟨1, "conns " ++ inQuotes (d.providerModule ++ "/nutanix")⟩,
      ⟨1, inQuotes (d.providerModule ++ "/utils")⟩] := by
    rw [List.mem_cons, List.mem_singleton, not_or]
    exact ⟨hconns, hutils⟩
  have hopen : fmtLine ≠ ⟨0, "import " ++ "("⟩ := by decide
  have hclose : fmtLine ∉ [⟨0, ")"⟩] := by decide
  rw [importLines, group, List.cons_append, List.mem_cons, List.mem_append, List.mem_append,
    List.mem_append, List.mem_append, List.mem_append]
  simp only [hopen, hbefore, hif, hbetween, hplan, hbehind, hclose, false_or, or_false]

/-- Only the code of tables and of unions returns errors with messages. -/
theorem exists_callsErrorf :
    (∃ l ∈ d.codeLines, callsErrorf l.text = true) ↔ d.plan.reportsErrors = true := by
  rw [Plan.reportsErrors, Bool.or_eq_true, List.any_eq_true]
  constructor
  · -- without tables and unions no part of the file returns such an error
    rintro ⟨l, hl, hcalls⟩
    refine Classical.byContradiction fun hnone => ?_
    rw [not_or] at hnone
    have htables : d.plan.tables = [] := by simpa using hnone.1
    have hunion : ∀ f ∈ d.plan.functions, f.union = none := fun f hf => by
      cases hu : f.union with
      | none => rfl
      | some u => exact absurd ⟨f, hf, by rw [hu]; rfl⟩ hnone.2
    have hquiet : Quiet d.codeLines := by
      have hfunctions : Quiet (d.plan.functions.flatMap fun f =>
          .blank :: flattenLines (fun _ n => n.statement d.timeLayout) f) :=
        .flatMap fun f hf => Quiet.cons_iff.2
          ⟨callsErrorf_blank, quiet_flattenLines (fun _ n => quiet_statement _ n) (hunion f hf)⟩
      rw [codeLines, linesWith, htables]
      simp (disch := decide) [hfunctions, quiet_importLines himports, quiet_makerLines,
        quiet_readerLines, callsErrorf_append]
    rw [hquiet l hl] at hcalls
    exact nomatch hcalls
  · -- a table comes with a look-up that may fail, and a union with a test of its value
    have mem_of_table : ∀ {l t}, t ∈ d.plan.tables → l ∈ lookupLines t → l ∈ d.codeLines :=
      fun ht hl => List.mem_append_left _ (List.mem_append_left _ (List.mem_append_right _
        (List.mem_flatMap.2 ⟨_, ht, List.mem_append_right _ hl⟩)))
    have mem_of_function : ∀ {l f}, f ∈ d.plan.functions →
        l ∈ flattenLines (fun _ n => n.statement d.timeLayout) f → l ∈ d.codeLines := fun hf hl =>
      List.mem_append_left _ (List.mem_append_right _
        (List.mem_flatMap.2 ⟨_, hf, List.mem_append_right _ hl⟩))
    rintro (htables | ⟨f, hf, hunion⟩)
    · obtain ⟨t, ht⟩ : ∃ t, t ∈ d.plan.tables := by
        refine List.exists_mem_of_ne_nil _ ?_
        simpa using htables
      let text := "return \"\", fmt.Errorf(\"" ++ t.enumeration.name ++
        " has no variant with ordinal %d\", int(v))"
      have hl : ⟨2, text⟩ ∈ lookupLines t := by simp [lookupLines, block, braces, text]
      refine ⟨_, mem_of_table ht hl, ?_⟩
      have htext : text = "return \"\", fmt.Errorf(" ++
          ("\"" ++ t.enumeration.name ++ " has no variant with ordinal %d\", int(v))") := by
        simp only [text, ← String.append_assoc]
        rfl
      rw [htext]
      exact callsErrorf_head (by decide) _
    · obtain ⟨u, hu⟩ := Option.isSome_iff_exists.1 hunion
      let text := "return nil, fmt.Errorf(\"unexpected " ++ f.type ++ " value %T\", pr.GetValue())"
      have hl : ⟨2, text⟩ ∈ flattenLines (fun _ n => n.statement d.timeLayout) f := by
        simp [flattenLines, unionLines, hu, block, braces, text]
      refine ⟨_, mem_of_function hf hl, ?_⟩
      have htext : text = "return nil, fmt.Errorf(" ++
          ("\"unexpected " ++ f.type ++ " value %T\", pr.GetValue())") := by
        simp only [text, ← String.append_assoc]
        rfl
      rw [htext]
      exact callsErrorf_head (by decide) _

end Imports

end DataSource

/-- A response whose sources use one alias for two packages. -/
def eventShape : Shape where
  name := "GetEventApiResponse"
  type := "GetEventApiResponse"
  importAlias := some "import1"
  importPath := some "acme/models/events"
  fields := [
    { name := "State", type := "State" },
    { name := "Site", type := "*import2.Site", isComposite := true
      importAlias := some "import2", importPath := some "acme/models/clusters"
      children := [{ name := "Name", type := "*string" }] },
    { name := "oneOfType0", type := "[]import2.Change", isComposite := true
      importAlias := some "import2", importPath := some "acme/models/audits"
      children := [{ name := "Label", type := "*string" }] }]

/-- The second package gets another alias. -/
example : (Plan.build eventShape [⟨"State", "", []⟩] ["ext_id"]).imports =
    [⟨"import3", "acme/models/audits"⟩, ⟨"import2", "acme/models/clusters"⟩,
      ⟨"import1", "acme/models/events"⟩] := by
  decide +kernel

theorem numberedShape_eventShape : NumberedShape eventShape where
  ascii := by simp [eventShape]
  numbered name hname := ⟨['1'], by rw [← Option.some.inj hname]; decide, List.all_eq_true.1 rfl⟩
  fields f hf := by
    simp only [eventShape, ShapeField.within_cons_iff, ShapeField.not_within_nil, or_false,
      false_or] at hf
    have hnone : ∀ name ∈ none, IsNumbered name := fun name hname =>
      absurd hname (Option.not_mem_none name)
    have hsecond : ∀ name ∈ some "import2", IsNumbered name := fun name hname =>
      ⟨['2'], by rw [← Option.some.inj hname]; decide, List.all_eq_true.1 rfl⟩
    rcases hf with rfl | rfl | rfl | rfl | rfl
    · exact ⟨by simp, hnone⟩
    · exact ⟨by simp, hsecond⟩
    · exact ⟨by simp, hnone⟩
    · exact ⟨by simp, hsecond⟩
    · exact ⟨by simp, hnone⟩

/-- The data source for such a response. -/
def eventSource : DataSource where
  names := .ofOperation "nutanix" "eventsv2" "GetEvent"
  plan := .build eventShape [⟨"State", "", []⟩] ["ext_id"]
  apiField := "EventAPIInstance"
  method := "GetEvent"
  providerModule := "github.com/terraform-providers/terraform-provider-nutanix"
  timeLayout := "2006"

end ProviderGlue
