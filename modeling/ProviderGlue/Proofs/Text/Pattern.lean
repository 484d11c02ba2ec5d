import ProviderGlue.Proofs.Text.Cut

/-!
# Patterns

A pattern is searched in a text from left to right, and at each place its ways of matching are tried in
order: repetitions take as much as they can before they take less.  The first way at the first place that
has one is the match.

## Key results

- `mem_runs_iff`: how a repetition can match
-/

namespace ProviderGlue.Text

/-- A pattern. -/
inductive Pattern where
  /-- Known text. -/
  | text (chars : List Char)
  /-- One or more characters of a class. -/
  | many (p : Char → Bool)
  /-- A pattern of which the match is kept. -/
  | capture (pattern : Pattern)
  /-- One pattern behind another one. -/
  | seq (first second : Pattern)

/-- A way to match at some place in a text. -/
structure Match where
  /-- The text that is matched. -/
  consumed : List Char
  /-- The text that is kept of it. -/
  captured : Option (List Char)
  /-- The text behind it. -/
  rest : List Char

namespace Pattern

/-- The runs of characters of a class at the start of a text, the longest one first. -/
def runs (p : Char → Bool) : List Char → List Match
  | [] => []
  | c :: cs =>
    if p c then ((runs p cs).map fun m => { m with consumed := c :: m.consumed }) ++ [⟨[c], none, cs⟩]
    else []

/-- The ways to match at the start of a text, those that are tried first before others. -/
def ways : Pattern → List Char → List Match
  | text chars, cs => (afterPrefix? chars cs).toList.map fun rest => ⟨chars, none, rest⟩
  | many p, cs => runs p cs
  | capture pattern, cs => (ways pattern cs).map fun m => { m with captured := some m.consumed }
  | seq first second, cs => (ways first cs).flatMap fun m =>
    (ways second m.rest).map fun m' =>
      ⟨m.consumed ++ m'.consumed, m'.captured.or m.captured, m'.rest⟩

/-- The first way at the first place of a text where there is one. -/
def search (pattern : Pattern) : List Char → Option Match
  | [] => (pattern.ways []).head?
  | c :: cs => (pattern.ways (c :: cs)).head?.or (search pattern cs)

/-- A run is any start of a text that is in the class, and keeps nothing by itself. -/
theorem mem_runs_iff {p : Char → Bool} {text : List Char} {m : Match} :
    m ∈ runs p text ↔ m.captured = none ∧ m.consumed ≠ [] ∧ (∀ c ∈ m.consumed, p c = true) ∧
      text = m.consumed ++ m.rest := by
  induction text generalizing m with
  | nil =>
    refine iff_of_false List.not_mem_nil ?_
    rintro ⟨-, hne, -, heq⟩
    exact hne (List.append_eq_nil_iff.1 heq.symm).1
  | cons c cs ih =>
    obtain ⟨consumed, captured, rest⟩ := m
    rw [runs]
    constructor
    · intro h
      split at h
      · next hc =>
        rcases List.mem_append.1 h with h | h
        · obtain ⟨m, hm, heq⟩ := List.mem_map.1 h
          cases heq
          obtain ⟨hcaptured, -, hall, hcs⟩ := ih.1 hm
          exact ⟨hcaptured, List.cons_ne_nil _ _, List.forall_mem_cons.2 ⟨hc, hall⟩, congrArg _ hcs⟩
        · cases List.mem_singleton.1 h
          exact ⟨rfl, List.cons_ne_nil _ _, List.forall_mem_singleton.2 hc, rfl⟩
      · exact absurd h List.not_mem_nil
    · rintro ⟨rfl, hne, hall, heq⟩
      cases consumed with
      | nil => exact absurd rfl hne
      | cons d consumed =>
        obtain ⟨rfl, rfl⟩ := List.cons.inj heq
        obtain ⟨hc, hall⟩ := List.forall_mem_cons.1 hall
        rw [if_pos hc, List.mem_append, List.mem_map]
        -- a run of one character is tried last
        cases consumed with
        | nil => exact .inr List.mem_cons_self
        | cons e consumed =>
          exact .inl ⟨⟨e :: consumed, none, rest⟩, ih.2 ⟨rfl, List.cons_ne_nil _ _, hall, rfl⟩, rfl⟩

end Pattern

end ProviderGlue.Text
