import Mathlib.Data.List.TakeWhile
import ProviderGlue.Proofs.Go.Grammar
import ProviderGlue.Proofs.Go.Slots

/-!
# Nodes of the grammar

By the grammar a specification of constants starts with its names and the commas between them, and no
name or comma is marked behind these.  So the specifications in every source file that the grammar reads
list their names.

## Key results

- `Rule.marks_sourceFile`: where the grammar marks declarations of constants, and what is in them
- `nameList_of_sourceFile?`: the specifications of a source file list their names
-/

namespace ProviderGlue.Go

open Grammar

namespace Grammar

open Phrase

/-! ## Marks of the grammar -/

namespace Rule

variable {P : Kind → Rule.Phrase → Prop} {Q : Rule → Prop} {p : Rule.Phrase}

@[simp]
theorem marks_tok (s : String) : (tok s).Marks P Q := by
  rw [tok]
  split <;> trivial

@[simp]
theorem marks_inParens : (inParens p).Marks P Q ↔ p.Marks P Q := by
  simp [inParens]

@[simp]
theorem marks_terminator : terminator.Marks P Q := by
  simp [terminator]

@[simp]
theorem marks_terminated : (terminated p).Marks P Q ↔ p.Marks P Q := by
  simp [terminated]

/-- A further name of a specification of constants, with the comma before it. -/
def furtherName : Rule.Phrase :=
  sameLine ++ node .separator (tok ",") ++ node .name anyName

/-- The names of a specification of constants. -/
def specNames : Rule.Phrase := node .name anyName ++ many furtherName

/-- Whether a node of that kind stands in no slot. -/
def NoSlot (kind : Kind) (_ : Rule.Phrase) : Prop := kind ≠ .name ∧ kind ≠ .separator

/-- Whether a specification of constants starts with its names and marks none behind them. -/
def NamesFirst (kind : Kind) (p : Rule.Phrase) : Prop :=
  kind = .constSpec →
    ∃ rest, p = specNames ++ rest ∧ rest.Marks NoSlot fun r => ∃ endsAtLine, r = .type endsAtLine

/-- Whether the specifications in a declaration of constants are such. -/
def SpecsOnly (kind : Kind) (p : Rule.Phrase) : Prop :=
  kind = .constants → p.Marks NamesFirst fun _ => False

theorem marks_constSpec (valued : Bool) : (constSpec valued).Marks NamesFirst Q := by
  refine fun _ => ⟨_, rfl, ?_⟩
  cases valued <;> simp [NoSlot]

/-- A type marks no names beside the node that it is. -/
theorem marks_anyType (endsAtLine : Bool) : (anyType endsAtLine).Marks NoSlot Q := by
  simp [anyType, structType, genericType, namedType, NoSlot]

theorem marks_declaration : declaration.Marks SpecsOnly Q := by
  simp [declaration, constDeclaration, varDeclaration, typeDeclaration, typeSpec, allTerminated,
    SpecsOnly, marks_constSpec]

theorem marks_topLevel : topLevel.Marks SpecsOnly Q := by
  simp [topLevel, method, importSpec, anyName, SpecsOnly]

theorem marks_closing : closing.Marks SpecsOnly Q := by
  simp [closing, SpecsOnly, marks_topLevel, marks_constSpec]

/-- Wherever the grammar marks a declaration of constants at the top of a file, it is made of such
specifications. -/
theorem marks_sourceFile : sourceFile.Marks SpecsOnly Q := by
  simp [sourceFile, topStatement, marks_topLevel, marks_declaration, marks_closing]

end Rule

/-! ## Words -/

/-- What is read as a word stands at the start of the text, and is no comma. -/
theorem ne_comma_of_identifier? {text w rest : List Char}
    (h : Lexeme.identifier? text = some (w, rest)) :
    text = w ++ rest ∧ String.ofList w ≠ "," := by
  unfold Lexeme.identifier? at h
  split at h
  · contradiction
  · next c cs =>
    obtain ⟨hstart, heq⟩ := Option.ite_none_right_eq_some.1 h
    obtain ⟨rfl, rfl⟩ := Prod.mk.inj (Option.some.inj heq)
    refine ⟨by rw [List.cons_append, List.takeWhile_append_dropWhile], fun hcomma => ?_⟩
    have hword := congrArg String.toList hcomma
    rw [String.toList_ofList] at hword
    obtain ⟨rfl, -⟩ := List.cons.inj hword
    exact absurd hstart (by decide)

end Grammar

namespace SourceFile

open Phrase Rule

/-! ## Slots among nodes -/

/-- Whether a node stands in a slot. -/
def isSlot (n : Node) : Bool := n.is .name || n.is .separator

/-- The texts of those of some nodes that satisfy `p`. -/
def textsWhere (p : Node → Bool) (nodes : List Node) : List String := (nodes.filter p).map asWritten

theorem textsWhere_append (p : Node → Bool) (before after : List Node) :
    textsWhere p (before ++ after) = textsWhere p before ++ textsWhere p after := by
  rw [textsWhere, List.filter_append, List.map_append]
  rfl

theorem textsWhere_eq_nil {p : Node → Bool} {nodes : List Node} (h : ∀ n ∈ nodes, p n = false) :
    textsWhere p nodes = [] := by
  have hnone : nodes.filter p = [] := List.filter_eq_nil_iff.2 fun n hn => by simp [h n hn]
  rw [textsWhere, hnone, List.map_nil]

/-- A node counts with its own text, and comments before it do not count. -/
theorem textsWhere_node {p : Node → Bool} (hcomment : ∀ text, p (.comment text) = false)
    (comments : List (List Char)) (n : Node) :
    textsWhere p (comments.map .comment ++ [n]) = if p n then [asWritten n] else [] := by
  have hcomments : ∀ n ∈ (comments.map .comment : List Node), p n = false := by
    intro n hn
    obtain ⟨text, -, rfl⟩ := List.mem_map.1 hn
    exact hcomment text
  rw [textsWhere_append, textsWhere_eq_nil hcomments, List.nil_append, textsWhere,
    List.filter_singleton]
  cases p n <;> rfl

/-! ## Readings of names -/

section Readings

variable {rule : Rule → Cursor → Outcome Kind} {c c' : Cursor} {nodes : List Node}

theorem read_name (h : (node .name anyName).read rule c = some (nodes, c')) :
    ∃ w, w ≠ "," ∧ textsWhere (·.is .name) nodes = [w] ∧ textsWhere isSlot nodes = [w] := by
  obtain ⟨length, rest, hlexeme, rfl⟩ := read_node_token_eq_some (fun _ => rfl) h
  obtain ⟨⟨w, rest'⟩, hword, heq⟩ := Option.bind_eq_some_iff.1 hlexeme
  obtain ⟨-, heq⟩ := Option.ite_none_right_eq_some.1 heq
  obtain ⟨rfl, rfl⟩ := Prod.mk.inj (Option.some.inj heq)
  obtain ⟨htext, hcomma⟩ := ne_comma_of_identifier? hword
  have htake : c.rest.take w.length = w := by
    rw [show c.rest = w ++ rest' from htext, List.take_left]
  rw [htake]
  exact ⟨String.ofList w, hcomma, textsWhere_node (fun _ => rfl) _ _,
    textsWhere_node (fun _ => rfl) _ _⟩

theorem read_comma (h : (node .separator (tok ",")).read rule c = some (nodes, c')) :
    textsWhere (·.is .name) nodes = [] ∧ textsWhere isSlot nodes = [","] := by
  obtain ⟨length, rest, hlexeme, rfl⟩ := read_node_token_eq_some (fun _ => rfl) h
  obtain ⟨rest', hprefix, heq⟩ := Option.map_eq_some_iff.1 hlexeme
  obtain ⟨rfl, rfl⟩ := Prod.mk.inj heq
  have htake : c.rest.take 1 = [','] := by
    rw [show c.rest = [','] ++ rest' from Text.afterPrefix?_eq_some_iff.1 hprefix]
    rfl
  rw [show c.rest.take ",".length = [','] from htake]
  exact ⟨textsWhere_node (fun _ => rfl) _ _, textsWhere_node (fun _ => rfl) _ _⟩

/-- A further name has a comma in the slot before it. -/
theorem read_furtherName (h : furtherName.read rule c = some (nodes, c')) :
    ∃ w, w ≠ "," ∧ textsWhere (·.is .name) nodes = [w] ∧ textsWhere isSlot nodes = [",", w] := by
  obtain ⟨before, middle, name, hbefore, hname, rfl⟩ := read_seq_eq_some_iff.1 h
  obtain ⟨blank, start, comma, hblank, hcomma, rfl⟩ := read_seq_eq_some_iff.1 hbefore
  obtain ⟨w, hw, hnames, hslots⟩ := read_name hname
  obtain ⟨hnoNames, hcommaSlot⟩ := read_comma hcomma
  have hnone : blank = [] := by
    rw [Phrase.read] at hblank
    split at hblank
    · contradiction
    · exact (Prod.mk.inj (Option.some.inj hblank)).1.symm
  subst hnone
  refine ⟨w, hw, ?_, ?_⟩
  · rw [textsWhere_append, List.nil_append, hnoNames, hnames, List.nil_append]
  · rw [textsWhere_append, List.nil_append, hcommaSlot, hslots, List.singleton_append]

/-- Behind any name, the slots of further names continue the names with commas between them. -/
theorem textsWhere_furtherNames {parts : List (List Node)}
    (h : ∀ part ∈ parts, ∃ before after, furtherName.read rule before = some (part, after)) :
    "," ∉ textsWhere (·.is .name) parts.flatten ∧
      ∀ w, w :: textsWhere isSlot parts.flatten =
        (w :: textsWhere (·.is .name) parts.flatten).intersperse "," := by
  induction parts with
  | nil => exact ⟨List.not_mem_nil, fun w => rfl⟩
  | cons part parts ih =>
    obtain ⟨⟨before, after, hpart⟩, hparts⟩ := List.forall_mem_cons.1 h
    obtain ⟨v, hv, hname, hslots⟩ := read_furtherName hpart
    obtain ⟨hapart, hinterspersed⟩ := ih hparts
    rw [List.flatten_cons, textsWhere_append, textsWhere_append, hname, hslots]
    refine ⟨List.not_mem_cons_of_ne_of_not_mem hv.symm hapart, fun w => ?_⟩
    show w :: "," :: v :: textsWhere isSlot parts.flatten =
      w :: "," :: (v :: textsWhere (·.is .name) parts.flatten).intersperse ","
    rw [hinterspersed]

/-- The slots of names are the names with commas between them. -/
theorem read_specNames (h : specNames.read rule c = some (nodes, c')) :
    "," ∉ textsWhere (·.is .name) nodes ∧
      textsWhere isSlot nodes = (textsWhere (·.is .name) nodes).intersperse "," := by
  obtain ⟨first, middle, further, hfirst, hfurther, rfl⟩ := read_seq_eq_some_iff.1 h
  obtain ⟨w, hw, hname, hslot⟩ := read_name hfirst
  obtain ⟨parts, rfl, hparts⟩ := read_many_eq_some hfurther
  obtain ⟨hapart, hinterspersed⟩ := textsWhere_furtherNames hparts
  rw [textsWhere_append, textsWhere_append, hname, hslot]
  exact ⟨List.not_mem_cons_of_ne_of_not_mem hw.symm hapart, hinterspersed w⟩

end Readings

/-! ## Specifications of a source file -/

/-- Nodes of other kinds stand in no slots. -/
theorem isSlot_of_noSlot {kind : Kind} {p : Rule.Phrase} (h : NoSlot kind p) (text : List Char)
    (children : List Node) : isSlot (.node kind text children) = false := by
  show (kind == .name || kind == .separator) = false
  rw [beq_false_of_ne h.1, beq_false_of_ne h.2, Bool.false_or]

/-- Types stand in no slots. -/
theorem yields_type (fuel : Nat) (endsAtLine : Bool) :
    Yields (isSlot · = false) (readRule phrase fuel (.type endsAtLine)) := by
  cases fuel with
  | zero => exact fun c trees c' h => nomatch h
  | succ fuel =>
    exact yields_read (Q := fun _ => False) (fun _ => rfl)
      (fun kind p hp c c' inside _ => isSlot_of_noSlot hp _ _) (fun r hr => hr.elim) _
      (marks_anyType endsAtLine)

/-- A specification that is read lists its names. -/
theorem nameList_of_read {fuel : Nat} {c c' : Cursor} {inside : List Node} {p : Rule.Phrase}
    (hp : NamesFirst .constSpec p) (h : p.read (readRule phrase fuel) c = some (inside, c'))
    (text : List Char) : NameList (.node .constSpec text inside) := by
  obtain ⟨rest, rfl, hrest⟩ := hp rfl
  obtain ⟨before, middle, after, hbefore, hafter, rfl⟩ := read_seq_eq_some_iff.1 h
  obtain ⟨hapart, hslots⟩ := read_specNames hbefore
  -- behind the names stand values and perhaps a type
  have hother : ∀ n ∈ after, isSlot n = false :=
    yields_read (fun _ => rfl) (fun kind p hp c c' inside _ => isSlot_of_noSlot hp _ _)
      (fun r hr => by
        obtain ⟨endsAtLine, rfl⟩ := hr
        exact yields_type fuel endsAtLine) rest hrest middle after c' hafter
  have hnoName : ∀ n ∈ after, n.is .name = false := fun n hn =>
    (Bool.or_eq_false_iff.1 (hother n hn)).1
  have hnames : textsWhere (·.is .name) (before ++ after) = textsWhere (·.is .name) before := by
    rw [textsWhere_append, textsWhere_eq_nil hnoName, List.append_nil]
  have hall : textsWhere isSlot (before ++ after) = textsWhere isSlot before := by
    rw [textsWhere_append, textsWhere_eq_nil hother, List.append_nil]
  rw [← hnames] at hapart hslots
  exact ⟨hall.trans hslots, hapart⟩

/-- **The grammar gives specifications that list their names**, in all declarations of constants at the
top of a source file. -/
theorem nameList_of_sourceFile? {text : List Char} {nodes : List Node}
    (h : sourceFile? text = some nodes) {declaration spec : Node} (hmem : declaration ∈ nodes)
    (hkind : declaration.is .constants = true) (hspec : spec ∈ declaration.all .constSpec) :
    NameList spec := by
  obtain ⟨⟨nodes, c'⟩, hread, rfl⟩ := Option.map_eq_some_iff.1 h
  cases hfuel : 16 * (text.length + 2) with
  | zero => omega
  | succ fuel =>
    rw [hfuel] at hread
    -- a declaration comes with what was read inside of it
    refine yields_read (P := SpecsOnly) (Q := fun _ => False)
      (S := fun t => t.is .constants = true → ∀ spec ∈ t.all .constSpec, NameList spec)
      (fun _ => nofun) ?_ (fun r hr => hr.elim) sourceFile marks_sourceFile _ _ _ hread declaration
      hmem hkind spec hspec
    intro kind p hp c c' inside hinside hkind spec hspec
    -- and so does each specification in the declaration
    refine yields_read (P := NamesFirst) (Q := fun _ => False)
      (S := fun t => t.is .constSpec = true → NameList t)
      (fun _ => nofun) ?_ (fun r hr => hr.elim) p (hp (eq_of_beq hkind)) _ _ _ hinside spec
      (List.mem_filter.1 hspec).1 (List.mem_filter.1 hspec).2
    intro kind p hp c c' inside hinside hkind
    obtain rfl := eq_of_beq hkind
    exact nameList_of_read hp hinside _

end SourceFile

end ProviderGlue.Go
