import Mathlib.Data.List.Chain
import Mathlib.Logic.Function.Iterate
import ProviderGlue.Proofs.Text.Case

/-!
# Snake case from left to right

Snake case can be written character by character.  An underscore is left out behind another one, but
underscores of the name itself stay, so runs of them are shortened round by round, and those at the ends
are taken off.  What is left is the snake case of `snakeCase`: a canonical name, which snake case leaves
alone.

## Key results

- `IsJoined.joinWords_eq`: words that are joined stay as they are
- `exists_rounds`: there are only so many rounds
- `snakeCase_eq_strip`: what the last round leaves is the snake case
- `isCanonical_snakeCase`, `IsCanonical.snakeCase_eq`: snake case is canonical, and leaves that alone
- `IsCanonical.append`: canonical names are put together with an underscore
-/

namespace ProviderGlue.Text

open Unicode

/-! ## Joined words -/

/-- A text without underscores beside each other and at its ends. -/
structure IsJoined (text : List Char) : Prop where
  single : text.IsChain fun c d => c ≠ '_' ∨ d ≠ '_'
  start : text.head? ≠ some '_'
  ending : text.getLast? ≠ some '_'

theorem isJoined_append {left right : List Char} (hleft : left ≠ []) (hright : right ≠ []) :
    IsJoined (left ++ '_' :: right) ↔ IsJoined left ∧ IsJoined right := by
  have hhead : (left ++ '_' :: right).head? = left.head? := by
    rw [List.head?_append, Option.or_of_isSome (List.isSome_head?.2 hleft)]
  have hlast : (left ++ '_' :: right).getLast? = right.getLast? := by
    rw [List.getLast?_append, List.getLast?_cons_of_ne_nil hright,
      Option.or_of_isSome (List.getLast?_isSome.2 hright)]
  constructor
  · intro h
    obtain ⟨hfront, hback, hbetween⟩ := List.isChain_append.1 h.single
    obtain ⟨hnext, hback⟩ := List.isChain_cons.1 hback
    refine ⟨⟨hfront, hhead ▸ h.start, ?_⟩, ⟨hback, ?_, hlast ▸ h.ending⟩⟩
    · exact fun heq => (hbetween '_' heq '_' rfl).elim (absurd rfl) (absurd rfl)
    · exact fun heq => (hnext '_' heq).elim (absurd rfl) (absurd rfl)
  · rintro ⟨hl, hr⟩
    refine ⟨List.isChain_append.2 ⟨hl.single, List.isChain_cons.2 ⟨?_, hr.single⟩, ?_⟩, ?_, ?_⟩
    · exact fun c hc => .inr fun heq => hr.start (heq ▸ hc)
    · exact fun c hc _ _ => .inl fun heq => hl.ending (heq ▸ hc)
    · exact hhead ▸ hl.start
    · exact hlast ▸ hr.ending

/-- Between the underscores of a joined text there are words. -/
theorem IsJoined.ne_nil_of_mem {parts : List (List Char)} (h : IsJoined (['_'].intercalate parts))
    (hne : ['_'].intercalate parts ≠ []) : ∀ part ∈ parts, part ≠ [] := by
  induction parts with
  | nil => exact fun _ hpart => absurd hpart List.not_mem_nil
  | cons part parts ih =>
    cases parts with
    | nil =>
      rw [List.intercalate_singleton] at hne
      exact List.forall_mem_singleton.2 hne
    | cons next parts =>
      rw [List.intercalate_cons_cons, List.append_assoc, List.singleton_append] at h
      -- without a word on a side, the underscore would stand at an end
      have hpart : part ≠ [] := by
        rintro rfl
        exact h.start rfl
      have hrest : ['_'].intercalate (next :: parts) ≠ [] := by
        intro heq
        rw [heq] at h
        exact h.ending (List.getLast?_concat)
      exact List.forall_mem_cons.2 ⟨hpart, ih ((isJoined_append hpart hrest).1 h).2 hrest⟩

/-- **Joined words stay as they are.** -/
theorem IsJoined.joinWords_eq {text : List Char} (h : IsJoined text) : joinWords text = text := by
  by_cases hnil : text = []
  · rw [hnil]
    rfl
  · have hsplit := intercalate_splitAt '_' text
    rw [← hsplit] at h hnil
    have hall : ∀ part ∈ splitAt '_' text, (! part.isEmpty) = true := by
      intro part hpart
      rw [List.isEmpty_eq_false_iff.2 (h.ne_nil_of_mem hnil part hpart)]
      rfl
    rw [joinWords, List.filter_eq_self.2 hall, hsplit]

/-! ## Canonical names -/

/-- A name of words in small letters, joined by single underscores. -/
structure IsCanonical (name : List Char) : Prop extends IsJoined name where
  marked : IsMarked name

namespace IsCanonical

/-- **Snake case leaves canonical names alone.** -/
theorem snakeCase_eq {name : List Char} (h : IsCanonical name) : snakeCase name = name := by
  rw [snakeCase, markWords_eq_self h.marked, h.joinWords_eq]

/-- Canonical names are put together with an underscore. -/
theorem append {name name' : List Char} (h : IsCanonical name) (h' : IsCanonical name')
    (hne : name ≠ []) (hne' : name' ≠ []) : IsCanonical (name ++ '_' :: name') where
  toIsJoined := (isJoined_append hne hne').2 ⟨h.toIsJoined, h'.toIsJoined⟩
  marked := List.forall_mem_append.2 ⟨h.marked, List.forall_mem_cons.2 ⟨by decide, h'.marked⟩⟩

end IsCanonical

/-! ## Written from left to right -/

/-- The text written so far, and what is written behind it for the next character of a name. -/
def writeChar (written : List Char) (previous : Option Char) (c : Char) (next : List Char) :
    List Char :=
  if isUppercase c then
    (if opensWord previous next && written.getLast? ≠ some '_' then written ++ ['_'] else written) ++
      lowerChar c
  else if isGap c then
    if written = [] ∨ written.getLast? = some '_' then written else written ++ ['_']
  else written ++ [c]

/-- The text written so far, and what is written behind it for the rest of a name. -/
def writeName (written : List Char) (previous : Option Char) : List Char → List Char
  | [] => written
  | c :: cs => writeName (writeChar written previous c cs) (some c) cs

/-- An underscore separates nothing at the start or behind another one. -/
theorem pieces_underscore {text : List Char} (h : text = [] ∨ text.getLast? = some '_')
    (rest : List Char) : pieces (text ++ '_' :: rest) = pieces (text ++ rest) := by
  have hstart : pieces ('_' :: rest) = pieces rest := pieces_append [] rest
  rcases h with rfl | hlast
  · exact hstart
  · obtain ⟨front, rfl⟩ := List.getLast?_eq_some_iff.1 hlast
    rw [List.append_assoc, List.append_assoc, List.singleton_append, List.singleton_append,
      pieces_append, pieces_append, hstart]

/-- Only underscores that separate nothing are left out. -/
theorem pieces_writeChar (written : List Char) (previous : Option Char) (c : Char)
    (next rest : List Char) :
    pieces (writeChar written previous c next ++ rest) =
      pieces (written ++ (markedChar previous c next ++ rest)) := by
  rw [writeChar, markedChar]
  split
  · cases opensWord previous next with
    | false => simp
    | true =>
      -- a word is opened without an underscore behind another one
      by_cases hlast : written.getLast? = some '_'
      · simp [hlast, pieces_underscore (.inr hlast)]
      · simp [hlast]
  · split
    · split
      · next hnone => exact (pieces_underscore hnone rest).symm
      · simp
    · simp

theorem pieces_writeName (written : List Char) (previous : Option Char) (name : List Char) :
    pieces (writeName written previous name) = pieces (written ++ markWords previous name) := by
  induction name generalizing written previous with
  | nil => rw [writeName, markWords, List.append_nil]
  | cons c cs ih => rw [writeName, ih, pieces_writeChar, markWords_cons]

/-! ## Rounds -/

/-- Whether there are underscores beside each other. -/
def hasDouble (text : List Char) : Bool := occursIn ['_', '_'] text

/-- The text with one underscore for each two, found from left to right. -/
def shorten : List Char → List Char
  | '_' :: '_' :: cs => '_' :: shorten cs
  | c :: cs => c :: shorten cs
  | [] => []

theorem hasDouble_cons_iff {c : Char} {cs : List Char} :
    hasDouble (c :: cs) = true ↔ (c = '_' ∧ cs.head? = some '_') ∨ hasDouble cs = true := by
  rw [hasDouble, occursIn, Bool.or_eq_true, ← hasDouble]
  refine or_congr_left ?_
  cases cs with
  | nil => exact iff_of_false (fun h => nomatch Bool.and_eq_true _ _ ▸ h) nofun
  | cons d cs =>
    simp only [List.isPrefixOf, Bool.and_true, Bool.and_eq_true, beq_iff_eq, List.head?_cons,
      Option.some.injEq]
    exact and_congr eq_comm eq_comm

theorem isChain_of_hasDouble {text : List Char} (h : hasDouble text = false) :
    text.IsChain fun c d => c ≠ '_' ∨ d ≠ '_' := by
  induction text with
  | nil => exact .nil
  | cons c cs ih =>
    rw [← Bool.not_eq_true, hasDouble_cons_iff, not_or, Bool.not_eq_true] at h
    refine List.isChain_cons.2 ⟨fun d hd => not_and_or.1 ?_, ih h.2⟩
    rintro ⟨hc, rfl⟩
    exact h.1 ⟨hc, hd⟩

/-- A round leaves the words, behind any start. -/
theorem pieces_shorten (front text : List Char) :
    pieces (front ++ shorten text) = pieces (front ++ text) := by
  induction text using shorten.induct generalizing front with
  | case1 cs ih =>
    -- of both underscores the first one ends the words of the start
    rw [shorten, pieces_append, pieces_append]
    exact congrArg _ (ih [])
  | case2 c cs hne ih =>
    rw [shorten, ← List.singleton_append, ← List.append_assoc, ih, List.append_assoc]
    · rfl
    · exact hne
  | case3 => rfl

/-- A round shortens the text if there is something to shorten. -/
theorem length_shorten (text : List Char) :
    (shorten text).length ≤ text.length ∧
      (hasDouble text = true → (shorten text).length < text.length) := by
  induction text using shorten.induct with
  | case1 cs ih =>
    rw [shorten, List.length_cons, List.length_cons, List.length_cons]
    exact ⟨by omega, fun _ => by omega⟩
  | case2 c cs hne ih =>
    have hlength : (shorten (c :: cs)).length = (shorten cs).length + 1 := by
      rw [shorten]
      · rfl
      · exact hne
    rw [hlength, List.length_cons]
    refine ⟨Nat.succ_le_succ ih.1, fun h => Nat.succ_lt_succ (ih.2 ?_)⟩
    refine (hasDouble_cons_iff.1 h).resolve_left ?_
    rintro ⟨hc, hhead⟩
    obtain ⟨cs', hcs⟩ := List.head?_eq_some_iff.1 hhead
    exact hne cs' hc hcs
  | case3 => exact ⟨le_rfl, fun h => absurd h (by decide)⟩

/-- **There are only so many rounds** until no underscores are beside each other. -/
theorem exists_rounds (text : List Char) : ∃ n ≤ text.length,
    (∀ k < n, hasDouble (shorten^[k] text) = true) ∧ hasDouble (shorten^[n] text) = false := by
  -- each round leaves less, so the induction is on the length
  induction hlength : text.length using Nat.strong_induction_on generalizing text with
  | _ length ih =>
    cases hdouble : hasDouble text with
    | false => exact ⟨0, Nat.zero_le _, nofun, hdouble⟩
    | true =>
      have hlt := (length_shorten text).2 hdouble
      obtain ⟨n, hn, hbefore, hafter⟩ := ih _ (hlength ▸ hlt) (shorten text) rfl
      refine ⟨n + 1, by omega, fun k hk => ?_, hafter⟩
      cases k with
      | zero => exact hdouble
      | succ k => exact hbefore k (Nat.lt_of_succ_lt_succ hk)

/-! ## The ends -/

/-- The text without the underscores at its ends. -/
def strip (text : List Char) : List Char := dropEndWhile (· == '_') (text.dropWhile (· == '_'))

theorem pieces_dropWhile (text : List Char) : pieces (text.dropWhile (· == '_')) = pieces text := by
  induction text with
  | nil => rfl
  | cons c cs ih =>
    rw [List.dropWhile_cons]
    split
    · next hc =>
      rw [ih, eq_of_beq hc]
      exact (pieces_underscore (.inl rfl) cs).symm
    · rfl

theorem pieces_append_underscores {ending : List Char} (h : ∀ c ∈ ending, (c == '_') = true)
    (text : List Char) : pieces (text ++ ending) = pieces text := by
  induction ending generalizing text with
  | nil => rw [List.append_nil]
  | cons c cs ih =>
    obtain ⟨hc, hcs⟩ := List.forall_mem_cons.1 h
    -- behind the first underscore nothing else is left
    have hnone : pieces cs = [] := ih hcs []
    rw [eq_of_beq hc, pieces_append, hnone, List.append_nil]

theorem pieces_strip (text : List Char) : pieces (strip text) = pieces text := by
  obtain ⟨ending, hending, htext⟩ := exists_dropEndWhile (· == '_') (text.dropWhile (· == '_'))
  rw [← pieces_dropWhile text, htext, pieces_append_underscores hending]
  rfl

theorem isJoined_strip {text : List Char} (h : text.IsChain fun c d => c ≠ '_' ∨ d ≠ '_') :
    IsJoined (strip text) := by
  obtain ⟨ending, -, htext⟩ := exists_dropEndWhile (· == '_') (text.dropWhile (· == '_'))
  have hback := h.suffix (List.dropWhile_suffix (· == '_'))
  have hhead := List.head?_dropWhile_not (· == '_') text
  constructor
  case single =>
    rw [htext] at hback
    exact (List.isChain_append.1 hback).1
  case start =>
    -- an underscore at the start would have been dropped there
    intro hstart
    rw [htext, List.head?_append, ← strip, hstart] at hhead
    have hne : ('_' == '_') = false := hhead
    exact absurd hne (by decide)
  case ending =>
    intro hend
    exact absurd (not_of_getLast?_dropEndWhile hend) (by decide)

/-! ## Snake case -/

/-- The text that is written for a name, after some rounds. -/
def shortened (name : List Char) (rounds : Nat) : List Char := shorten^[rounds] (writeName [] none name)

theorem pieces_shortened (name : List Char) (rounds : Nat) :
    pieces (shortened name rounds) = pieces (markWords none name) := by
  induction rounds with
  | zero => exact pieces_writeName [] none name
  | succ rounds ih =>
    rw [shortened, Function.iterate_succ_apply', ← shortened, ← ih]
    exact pieces_shorten [] _

/-- **What the last round leaves is the snake case.** -/
theorem snakeCase_eq_strip {name : List Char} {rounds : Nat}
    (h : hasDouble (shortened name rounds) = false) :
    snakeCase name = strip (shortened name rounds) := by
  -- a joined text is determined by its words, and no round changes these
  rw [← (isJoined_strip (isChain_of_hasDouble h)).joinWords_eq, joinWords_eq, pieces_strip,
    pieces_shortened, snakeCase, joinWords_eq]

/-- Snake case joins words, whatever the name. -/
theorem isJoined_snakeCase (name : List Char) : IsJoined (snakeCase name) := by
  obtain ⟨rounds, -, -, hlast⟩ := exists_rounds (writeName [] none name)
  rw [snakeCase_eq_strip hlast]
  exact isJoined_strip (isChain_of_hasDouble hlast)

/-- **The snake case of a name of ASCII is canonical.** -/
theorem isCanonical_snakeCase {name : List Char} (h : IsAscii name) : IsCanonical (snakeCase name) where
  toIsJoined := isJoined_snakeCase name
  marked := (snakeCase_spec h).1

/-- What is no underscore and stands in no gap between words. -/
def kept (name : List Char) : List Char := name.filter fun c => c ≠ '_' && ! isGap c

/-- Snake case keeps the letters of a name, and makes them small. -/
theorem kept_snakeCase {name : List Char} (h : IsAscii name) :
    kept (snakeCase name) = (kept name).map Char.toLower := by
  obtain ⟨hmarked, hascii⟩ := snakeCase_spec h
  have hsmall : ∀ c ∈ kept (snakeCase name), c.toLower = c := by
    intro c hc
    have hmem := (List.mem_filter.1 hc).1
    have hupper := (hmarked c hmem).1
    rw [isUppercase, inProperty_of_ascii (hascii c hmem)] at hupper
    exact toLower_eq_self hupper
  have hletters : (kept (snakeCase name)).map Char.toLower = (kept name).map Char.toLower :=
    letters_snakeCase h
  rw [← hletters, List.map_congr_left hsmall, List.map_id']

end ProviderGlue.Text
