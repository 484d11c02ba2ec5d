import Mathlib.Data.List.TakeWhile
import Mathlib.Tactic.MkIffOfInductiveProp
import ProviderGlue.Go.Grammar.Lexeme
import ProviderGlue.Proofs.Text.Ascii

/-!
# Names in Go

A name in Go is a word that the language does not keep for itself.  A word of ASCII starts with a
letter or an underscore, and goes on with letters, digits and underscores.

## Key results

- `isWord_iff_of_ascii`: the words of ASCII
-/

namespace ProviderGlue.Go

open Text Unicode Grammar

/-- Whether a name is a word of the language. -/
def Grammar.IsWord (name : String) : Prop :=
  Lexeme.identifier? name.toList = some (name.toList, [])

/-- The words that Go keeps for itself. -/
def keywords : List String :=
  ["break", "case", "chan", "const", "continue", "default", "defer", "else", "fallthrough", "for",
    "func", "go", "goto", "if", "import", "interface", "map", "package", "range", "return", "select",
    "struct", "switch", "type", "var"]

/-- Whether code can use a text as a name. -/
@[mk_iff]
structure IsIdentifier (name : String) : Prop where
  word : IsWord name
  free : name ∉ keywords

theorem isWord_iff {name : String} :
    IsWord name ↔ ∃ c cs, name.toList = c :: cs ∧ Lexeme.startsIdentifier c = true ∧
      ∀ d ∈ cs, isIdentifierContinue d = true := by
  rw [IsWord]
  cases name.toList with
  | nil => simp [Lexeme.identifier?]
  | cons c cs =>
    simp only [Lexeme.identifier?, Option.ite_none_right_eq_some, Option.some_inj, Prod.mk.injEq,
      List.cons.injEq, true_and]
    constructor
    · rintro ⟨hstart, htake, -⟩
      exact ⟨c, cs, ⟨rfl, rfl⟩, hstart, List.takeWhile_eq_self_iff.1 htake⟩
    · rintro ⟨_, _, ⟨rfl, rfl⟩, hstart, hrest⟩
      exact ⟨hstart, List.takeWhile_eq_self_iff.2 hrest, List.dropWhile_eq_nil_iff.2 hrest⟩

/-- The words of ASCII start with a letter or an underscore, and go on with these and digits. -/
theorem isWord_iff_of_ascii {name : String} (h : IsAscii name.toList) :
    IsWord name ↔ ∃ c cs, name.toList = c :: cs ∧ (c = '_' ∨ c.isAlpha = true) ∧
      ∀ d ∈ cs, d.isAlphanum = true ∨ d = '_' := by
  rw [isWord_iff]
  refine exists_congr fun c => exists_congr fun cs => and_congr_right fun hname => ?_
  rw [IsAscii, hname, List.forall_mem_cons] at h
  have hrest : ∀ d ∈ cs, isIdentifierContinue d = true ↔ d.isAlphanum = true ∨ d = '_' := by
    intro d hd
    rw [isIdentifierContinue, inProperty_of_ascii (h.2 d hd), Bool.or_eq_true, beq_iff_eq]
  rw [Lexeme.startsIdentifier, isIdentifierStart, inProperty_of_ascii h.1, Bool.or_eq_true,
    beq_iff_eq]
  exact and_congr_right fun _ => forall₂_congr hrest

end ProviderGlue.Go
