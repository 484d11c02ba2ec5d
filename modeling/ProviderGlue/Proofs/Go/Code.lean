import ProviderGlue.Go.Code
import ProviderGlue.Proofs.Text.Cut

/-!
# Reading lines of code back

A text that is written from lines gives them back: line feeds end the lines, and the tabs at the start
of a line tell its depth.  Braces are counted in one pass, which fails where one closes that is not
open.

## Key results

- `readLines_render`: the lines that a text is written from
- `openBraces?_append`: braces are counted part by part
- `BracesMatch.braces`: what stands between braces that close each other
-/

namespace ProviderGlue.Go

open Text

/-! ## Lines -/

/-- A line as its text shows it. -/
def Line.ofText (text : List Char) : Line :=
  ⟨(text.takeWhile (· = '\t')).length, String.ofList (text.dropWhile (· = '\t'))⟩

/-- The lines of a text, each of which a line feed ends. -/
def readLines (text : String) : List Line :=
  (splitAt '\n' text.toList).dropLast.map Line.ofText

/-- A text that can be read as that of a line: it stands in one line, and starts with no tab. -/
structure IsLegible (text : String) : Prop where
  feed : '\n' ∉ text.toList
  start : text.toList.head? ≠ some '\t'

theorem Line.toList_written (l : Line) :
    l.written.toList = List.replicate l.depth '\t' ++ l.text.toList := by
  rw [written, String.toList_append, String.toList_ofList]

/-- The tabs before a legible text are those of the line. -/
theorem Line.ofText_written {l : Line} (h : IsLegible l.text) :
    Line.ofText l.written.toList = l := by
  have htabs : ∀ c ∈ List.replicate l.depth '\t', decide (c = '\t') = true :=
    fun c hc => decide_eq_true (List.eq_of_mem_replicate hc)
  have hstart : l.text.toList.takeWhile (· = '\t') = [] ∧
      l.text.toList.dropWhile (· = '\t') = l.text.toList := by
    cases htext : l.text.toList with
    | nil => exact ⟨rfl, rfl⟩
    | cons c cs =>
      have hc : c ≠ '\t' := fun heq => h.start (by rw [htext, heq, List.head?_cons])
      constructor
      · rw [List.takeWhile_cons_of_neg (by simpa using hc)]
      · rw [List.dropWhile_cons_of_neg (by simpa using hc)]
  rw [Line.ofText, toList_written, List.takeWhile_append_of_pos htabs,
    List.dropWhile_append_of_pos htabs, hstart.1, hstart.2, List.append_nil, List.length_replicate,
    String.ofList_toList]

@[simp] theorem render_nil : render [] = "" := rfl

theorem render_cons (l : Line) (ls : List Line) :
    render (l :: ls) = l.written ++ "\n" ++ render ls := by
  simp [render]

theorem render_append (ls ms : List Line) : render (ls ++ ms) = render ls ++ render ms := by
  simp [render]

/-- **Lines are read back** from the text that is written from them. -/
theorem readLines_render {ls : List Line} (h : ∀ l ∈ ls, IsLegible l.text) :
    readLines (render ls) = ls := by
  have hpieces : ∀ ls : List Line, (∀ l ∈ ls, IsLegible l.text) →
      splitAt '\n' (render ls).toList = ls.map (·.written.toList) ++ [[]] := by
    intro ls hls
    induction ls with
    | nil => rfl
    | cons l ls ih =>
      obtain ⟨hl, hls⟩ := List.forall_mem_cons.1 hls
      have hfeed : ∀ c ∈ l.written.toList, (c == '\n') = false := by
        intro c hc
        rw [Line.toList_written] at hc
        rcases List.mem_append.1 hc with hc | hc
        · rw [List.eq_of_mem_replicate hc]
          rfl
        · exact beq_false_of_ne fun heq => hl.feed (heq ▸ hc)
      have htext : (render (l :: ls)).toList = l.written.toList ++ '\n' :: (render ls).toList := by
        rw [render_cons, String.toList_append, String.toList_append, List.append_assoc]
        rfl
      rw [htext, splitAt, splitWhere_append (by rfl), splitWhere_eq_self hfeed, ← splitAt, ih hls]
      rfl
  have hlines : ls.map (Line.ofText ∘ (·.written.toList)) = ls.map id :=
    List.map_congr_left fun l hl => Line.ofText_written (h l hl)
  rw [readLines, hpieces ls h, List.dropLast_concat, List.map_map, hlines, List.map_id]

/-- What holds of the lines of an entry. -/
theorem forall_mem_entry {P : Line → Prop} {depth : Nat} {head : String} {body : List Line} :
    (∀ l ∈ entry depth head body, P l) ↔
      P ⟨depth, head ++ "\x7b"⟩ ∧ (∀ l ∈ body, P l) ∧ P ⟨depth, "\x7d" ++ ","⟩ := by
  rw [entry, braces, List.cons_append, List.forall_mem_cons, List.forall_mem_append,
    List.forall_mem_singleton]

/-! ## Braces -/

/-- How many braces are open behind a character before which `n` are.  No brace may close where none
is open. -/
def countBrace? (n : Nat) (c : Char) : Option Nat :=
  if c = '\x7b' then some (n + 1)
  else if c = '\x7d' then if n = 0 then none else some (n - 1)
  else some n

/-- How many braces are open behind a text before which `n` are. -/
def openBraces? (n : Nat) (text : List Char) : Option Nat := text.foldlM countBrace? n

theorem openBraces?_append (n : Nat) (first last : List Char) :
    openBraces? n (first ++ last) = (openBraces? n first).bind (openBraces? · last) :=
  List.foldlM_append

/-- A text without braces. -/
def IsBraceless (text : List Char) : Prop := ∀ c ∈ text, c ≠ '\x7b' ∧ c ≠ '\x7d'

instance (text : List Char) : Decidable (IsBraceless text) :=
  List.decidableBAll _ text

theorem IsBraceless.append {first last : List Char} (hfirst : IsBraceless first)
    (hlast : IsBraceless last) : IsBraceless (first ++ last) :=
  List.forall_mem_append.2 ⟨hfirst, hlast⟩

theorem IsBraceless.openBraces? {text : List Char} (h : IsBraceless text) (n : Nat) :
    openBraces? n text = some n := by
  induction text with
  | nil => rfl
  | cons c cs ih =>
    obtain ⟨⟨hopen, hclose⟩, hcs⟩ := List.forall_mem_cons.1 h
    rw [Go.openBraces?, List.foldlM_cons, countBrace?, if_neg hopen, if_neg hclose]
    exact ih hcs

/-- Lines in which every brace closes the last open one, and all are closed. -/
def BracesMatch (ls : List Line) : Prop := ∀ n, openBraces? n (render ls).toList = some n

namespace BracesMatch

variable {ls ms : List Line} {depth : Nat} {head after text : String}

theorem nil : BracesMatch [] := fun _ => rfl

theorem append (hls : BracesMatch ls) (hms : BracesMatch ms) : BracesMatch (ls ++ ms) := fun n => by
  rw [render_append, String.toList_append, openBraces?_append, hls n]
  exact hms n

/-- The tabs before a line and the line feed behind it are no braces. -/
theorem openBraces?_line (n : Nat) (l : Line) :
    openBraces? n (render [l]).toList = openBraces? n l.text.toList := by
  have htabs : IsBraceless (List.replicate l.depth '\t') := fun c hc => by
    rw [List.eq_of_mem_replicate hc]
    decide
  rw [render_cons, render_nil, String.append_empty, String.toList_append, Line.toList_written,
    openBraces?_append, openBraces?_append, htabs.openBraces?]
  show (openBraces? n l.text.toList).bind (openBraces? · "\n".toList) = _
  have hfeed : (openBraces? · "\n".toList) = some := funext fun m => rfl
  rw [hfeed, Option.bind_fun_some]

theorem line (h : ∀ n, openBraces? n text.toList = some n) : BracesMatch [⟨depth, text⟩] :=
  fun n => by rw [openBraces?_line, h n]

/-- What stands between braces that close each other is closed, if all that stands inside is. -/
theorem braces (hhead : IsBraceless head.toList) (hbody : BracesMatch ls)
    (hafter : IsBraceless after.toList) : BracesMatch (Go.braces depth head ls after) := fun n => by
  have hfirst : openBraces? n (render [⟨depth, head ++ "\x7b"⟩]).toList = some (n + 1) := by
    rw [openBraces?_line, String.toList_append, openBraces?_append, hhead.openBraces?]
    rfl
  have hlast : openBraces? (n + 1) (render [⟨depth, "\x7d" ++ after⟩]).toList = some n := by
    rw [openBraces?_line, String.toList_append, openBraces?_append]
    exact hafter.openBraces? n
  rw [Go.braces, ← List.singleton_append, render_append, render_append, String.toList_append,
    String.toList_append, openBraces?_append, openBraces?_append, hfirst]
  show ((openBraces? (n + 1) (render ls).toList).bind _) = _
  rw [hbody (n + 1)]
  exact hlast

end BracesMatch

end ProviderGlue.Go
