import ProviderGlue.Go.Grammar.Rules

/-!
# Nodes of recognized text

What holds of the nodes that a phrase marks follows from the phrase alone: reading it gives comments,
the nodes that it marks itself and those of the rules that it calls.

## Key results

- `read_seq_eq_some_iff`, `read_node_eq_some_iff`, `read_many_eq_some`: what the parts of a phrase read
- `yields_read`: the nodes of a phrase have what its marks and its rules have
-/

namespace ProviderGlue.Go.Grammar

variable {ρ κ : Type}

/-! ## Cursors -/

namespace Cursor

/-- Passing over white space does not move the end of the token before. -/
theorem ended_skip (ended position : Nat) (lineBreak : Bool) (comments : List (List Char))
    (text : List Char) : (skip ended position lineBreak comments text).ended = ended := by
  fun_induction skip ended position lineBreak comments text with
  | case1 | case4 => rfl
  | case2 _ _ _ _ _ _ ih | case3 _ _ _ _ _ _ _ _ _ ih => exact ih

/-- The text of a token is what was read of it. -/
theorem textUpTo_behind (c : Cursor) (length : Nat) (rest : List Char) :
    c.textUpTo (c.behind length rest) = c.rest.take length := by
  rw [textUpTo, behind, ended_skip, Nat.add_sub_cancel_left]

end Cursor

/-! ## Readings of phrases -/

/-- Whether all nodes that a step gives satisfy `S`. -/
def Yields (S : Tree κ → Prop) (step : Cursor → Outcome κ) : Prop :=
  ∀ c trees c', step c = some (trees, c') → ∀ t ∈ trees, S t

namespace Phrase

/-- A token gives the comments before it. -/
theorem token_eq_some_iff {c c' : Cursor} {lexeme : Read} {trees : List (Tree κ)} :
    token c lexeme = some (trees, c') ↔
      ∃ length rest, lexeme = some (length, rest) ∧ c.comments.map .comment = trees ∧
        c.behind length rest = c' := by
  rw [token, Option.map_eq_some_iff]
  simp only [Prod.exists, Prod.mk.injEq]

theorem read_seq_eq_some_iff {rule : ρ → Cursor → Outcome κ} {p q : Phrase ρ κ} {c c' : Cursor}
    {trees : List (Tree κ)} :
    (seq p q).read rule c = some (trees, c') ↔
      ∃ before middle after, p.read rule c = some (before, middle) ∧
        q.read rule middle = some (after, c') ∧ trees = before ++ after := by
  rw [read]
  cases h : p.read rule c with
  | none => simp
  | some r =>
    obtain ⟨before, middle⟩ := r
    simp only [Option.map_eq_some_iff, Prod.exists, Prod.mk.injEq, Option.some.injEq]
    constructor
    · rintro ⟨after, c', hq, rfl, rfl⟩
      exact ⟨before, middle, after, ⟨rfl, rfl⟩, hq, rfl⟩
    · rintro ⟨_, _, after, ⟨rfl, rfl⟩, hq, rfl⟩
      exact ⟨after, c', hq, rfl, rfl⟩

theorem read_node_eq_some_iff {rule : ρ → Cursor → Outcome κ} {kind : κ} {p : Phrase ρ κ}
    {c c' : Cursor} {trees : List (Tree κ)} :
    (node kind p).read rule c = some (trees, c') ↔
      ∃ inside, p.read rule { c with comments := [] } = some (inside, c') ∧
        trees = c.comments.map .comment ++ [.node kind (c.textUpTo c') inside] := by
  rw [read, Option.map_eq_some_iff]
  simp only [Prod.exists, Prod.mk.injEq]
  constructor
  · rintro ⟨inside, c', hp, rfl, rfl⟩
    exact ⟨inside, hp, rfl⟩
  · rintro ⟨inside, hp, rfl⟩
    exact ⟨inside, c', hp, rfl, rfl⟩

/-- A node around a token has no nodes inside. -/
theorem read_node_token_eq_some {rule : ρ → Cursor → Outcome κ} {kind : κ} {p : Phrase ρ κ}
    {lexeme : Cursor → Read} (hp : ∀ c, p.read rule c = token c (lexeme c)) {c c' : Cursor}
    {trees : List (Tree κ)} (h : (node kind p).read rule c = some (trees, c')) :
    ∃ length rest, lexeme { c with comments := [] } = some (length, rest) ∧
      trees = c.comments.map .comment ++ [.node kind (c.rest.take length) []] := by
  obtain ⟨inside, hinside, rfl⟩ := read_node_eq_some_iff.1 h
  rw [hp] at hinside
  obtain ⟨length, rest, hlexeme, rfl, rfl⟩ := token_eq_some_iff.1 hinside
  have htext : c.textUpTo (c.behind length rest) = c.rest.take length := c.textUpTo_behind length rest
  exact ⟨length, rest, hlexeme, by rw [← htext]; rfl⟩

/-- What a repetition gives is put together from what its steps give. -/
theorem readMany_eq_flatten (step : Cursor → Outcome κ) (limit : Nat) (c : Cursor) :
    ∃ parts : List (List (Tree κ)), (readMany step limit c).1 = parts.flatten ∧
      ∀ part ∈ parts, ∃ before after, step before = some (part, after) := by
  induction limit generalizing c with
  | zero => exact ⟨[], rfl, fun part hpart => absurd hpart List.not_mem_nil⟩
  | succ limit ih =>
    rw [readMany]
    split
    · exact ⟨[], rfl, fun part hpart => absurd hpart List.not_mem_nil⟩
    · next trees c' hstep =>
      split
      · exact ⟨[], rfl, fun part hpart => absurd hpart List.not_mem_nil⟩
      · obtain ⟨parts, heq, hparts⟩ := ih c'
        exact ⟨trees :: parts, congrArg (trees ++ ·) heq,
          List.forall_mem_cons.2 ⟨⟨c, c', hstep⟩, hparts⟩⟩

theorem read_many_eq_some {rule : ρ → Cursor → Outcome κ} {p : Phrase ρ κ} {c c' : Cursor}
    {trees : List (Tree κ)} (h : (many p).read rule c = some (trees, c')) :
    ∃ parts : List (List (Tree κ)), trees = parts.flatten ∧
      ∀ part ∈ parts, ∃ before after, p.read rule before = some (part, after) := by
  rw [read] at h
  obtain ⟨parts, heq, hparts⟩ := readMany_eq_flatten (p.read rule) (2 * c.rest.length + 1) c
  rw [Option.some.inj h] at heq
  exact ⟨parts, heq, hparts⟩

/-! ## Marks -/

/-- Whether the nodes that a phrase marks itself satisfy `P`, and the rules that it calls outside of
them satisfy `Q`. -/
@[simp]
def Marks (P : κ → Phrase ρ κ → Prop) (Q : ρ → Prop) : Phrase ρ κ → Prop
  | seq p q => p.Marks P Q ∧ q.Marks P Q
  | alt p q => p.Marks P Q ∧ q.Marks P Q
  | many p => p.Marks P Q
  | node kind p => P kind p
  | call r => Q r
  | nothing | word _ | name _ | symbol _ | literal _ | ahead _ | notAhead _ | sameLine | lineBreak
  | endOfText | unmarked _ => True

/-! What a phrase marks is a matter of its parts. -/

section Marks

variable {P : κ → Phrase ρ κ → Prop} {Q : ρ → Prop} {p q : Phrase ρ κ}

@[simp]
theorem marks_append : (p ++ q).Marks P Q ↔ p.Marks P Q ∧ q.Marks P Q := Iff.rfl

@[simp]
theorem marks_orElse : (p <|> q).Marks P Q ↔ p.Marks P Q ∧ q.Marks P Q := Iff.rfl

@[simp]
theorem marks_maybe : p.maybe.Marks P Q ↔ p.Marks P Q := by
  rw [maybe, Marks, Marks, and_true]

@[simp]
theorem marks_sepBy1 : (p.sepBy1 q).Marks P Q ↔ p.Marks P Q ∧ q.Marks P Q := by
  show p.Marks P Q ∧ q.Marks P Q ∧ p.Marks P Q ↔ _
  exact and_congr_right fun hp => and_iff_left hp

@[simp]
theorem marks_oneOf {ps : List (Phrase ρ κ)} : (oneOf ps).Marks P Q ↔ ∀ p ∈ ps, p.Marks P Q := by
  fun_induction oneOf ps with
  | case1 => simp
  | case2 p => simp
  | case3 p ps _ ih => rw [Marks, ih, List.forall_mem_cons]

end Marks

/-! ## What readings give -/

section Yields

variable {P : κ → Phrase ρ κ → Prop} {Q : ρ → Prop} {S : Tree κ → Prop}
  {rule : ρ → Cursor → Outcome κ}

theorem yields_token (hcomment : ∀ text, S (.comment text)) (lexeme : Cursor → Read) :
    Yields S fun c => token c (lexeme c) := by
  intro c trees c' h t ht
  obtain ⟨-, -, -, rfl, -⟩ := token_eq_some_iff.1 h
  obtain ⟨text, -, rfl⟩ := List.mem_map.1 ht
  exact hcomment text

/-- The nodes of a phrase satisfy `S` if comments do, the nodes that it marks and the nodes of the
rules that it calls. -/
theorem yields_read (hcomment : ∀ text, S (.comment text))
    (hnode : ∀ kind p, P kind p → ∀ (c c' : Cursor) (inside : List (Tree κ)),
      p.read rule { c with comments := [] } = some (inside, c') →
      S (.node kind (c.textUpTo c') inside))
    (hrule : ∀ r, Q r → Yields S (rule r)) (p : Phrase ρ κ) (hp : p.Marks P Q) :
    Yields S (p.read rule) := by
  have hcomments : ∀ c : Cursor, ∀ t ∈ (c.comments.map .comment : List (Tree κ)), S t := by
    intro c t ht
    obtain ⟨text, -, rfl⟩ := List.mem_map.1 ht
    exact hcomment text
  have hnone : ∀ t ∈ ([] : List (Tree κ)), S t := fun t ht => absurd ht List.not_mem_nil
  -- nodes come from marks and calls alone; tokens, nodes and the end of the text add comments
  induction p with
  | word | name | symbol => exact yields_token hcomment _
  | literal group => cases group <;> exact yields_token hcomment _
  | seq p q ihp ihq =>
    intro c trees c' h
    obtain ⟨before, middle, after, hbefore, hafter, rfl⟩ := read_seq_eq_some_iff.1 h
    exact List.forall_mem_append.2 ⟨ihp hp.1 c before middle hbefore, ihq hp.2 middle after c' hafter⟩
  | alt p q ihp ihq =>
    intro c trees c' h
    rw [read] at h
    cases hfirst : p.read rule c with
    | none =>
      rw [hfirst] at h
      exact ihq hp.2 c trees c' h
    | some r =>
      rw [hfirst] at h
      exact ihp hp.1 c trees c' (hfirst.trans h)
  | many p ih =>
    intro c trees c' h t ht
    obtain ⟨parts, rfl, hparts⟩ := read_many_eq_some h
    obtain ⟨part, hpart, ht⟩ := List.mem_flatten.1 ht
    obtain ⟨before, after, hstep⟩ := hparts part hpart
    exact ih hp before part after hstep t ht
  | node kind p =>
    intro c trees c' h
    obtain ⟨inside, hinside, rfl⟩ := read_node_eq_some_iff.1 h
    exact List.forall_mem_append.2 ⟨hcomments c, List.forall_mem_singleton.2
      (hnode kind p hp c c' inside hinside)⟩
  | call r => exact hrule r hp
  | nothing =>
    rintro c trees c' ⟨⟩
    exact hnone
  | ahead p =>
    intro c trees c' h
    obtain ⟨r, -, ⟨⟩⟩ := Option.map_eq_some_iff.1 h
    exact hnone
  | unmarked p =>
    intro c trees c' h
    obtain ⟨r, -, ⟨⟩⟩ := Option.map_eq_some_iff.1 h
    exact hnone
  | notAhead p =>
    intro c trees c' h
    rw [read] at h
    split at h
    · contradiction
    · cases h
      exact hnone
  | sameLine =>
    intro c trees c' h
    rw [read] at h
    split at h
    · contradiction
    · cases h
      exact hnone
  | lineBreak =>
    intro c trees c' h
    rw [read] at h
    split at h
    · cases h
      exact hnone
    · contradiction
  | endOfText =>
    intro c trees c' h
    rw [read] at h
    split at h
    · cases h
      exact hcomments c
    · contradiction

end Yields

end Phrase

end ProviderGlue.Go.Grammar
