import ProviderGlue.Proofs.Text.Cut
import ProviderGlue.Text.Case

/-!
# Snake case and camel case

Both spellings keep the letters and digits of a name of ASCII, in order, and only change their case and
what stands between words.  Behind an underscore a name in snake case stays as it is.

## Key results

- `pieces_joinWords`: the words that are joined are read back
- `snakeCase_prefixed`: behind the same start, snake case tells apart what it tells apart alone
- `camelCase_append`: camel case goes part by part
- `letters_snakeCase`, `letters_camelCase`: what both spellings keep
-/

namespace ProviderGlue.Text

open Unicode

@[simp] theorem toList_onChars (f : List Char → List Char) (s : String) :
    (onChars f s).toList = f s.toList :=
  String.toList_ofList

/-! ## Words between underscores -/

/-- The words of a text between underscores. -/
def pieces (text : List Char) : List (List Char) := (splitAt '_' text).filter (! ·.isEmpty)

theorem joinWords_eq (text : List Char) : joinWords text = ['_'].intercalate (pieces text) := rfl

theorem pieces_append (left right : List Char) :
    pieces (left ++ '_' :: right) = pieces left ++ pieces right := by
  rw [pieces, splitAt, splitWhere_append rfl, List.filter_append]
  rfl

/-- A word of a text is not empty and has no underscore. -/
theorem mem_pieces {text word : List Char} (h : word ∈ pieces text) : word ≠ [] ∧ '_' ∉ word := by
  obtain ⟨hword, hne⟩ := List.mem_filter.1 h
  refine ⟨by simpa using hne, fun hmem => ?_⟩
  exact absurd (not_mem_of_mem_splitWhere hword '_' hmem) (by decide)

/-- Joined words are read back. -/
theorem pieces_intercalate {words : List (List Char)} (h : ∀ w ∈ words, w ≠ [] ∧ '_' ∉ w) :
    pieces (['_'].intercalate words) = words := by
  cases words with
  | nil => rfl
  | cons w ws =>
    rw [pieces, splitAt_intercalate (List.cons_ne_nil w ws) fun v hv => (h v hv).2]
    exact List.filter_eq_self.2 fun v hv => by simpa using (h v hv).1

@[simp] theorem pieces_joinWords (text : List Char) : pieces (joinWords text) = pieces text :=
  pieces_intercalate fun _ => mem_pieces

/-! ## Marked words -/

/-- Whether a character other than an underscore stands between words. -/
def isGap (c : Char) : Bool := c = '-' || c = ' ' || c = '.'

/-- What a character of a name becomes where words are marked. -/
def markedChar (previous : Option Char) (c : Char) (next : List Char) : List Char :=
  if isUppercase c then (if opensWord previous next then ['_'] else []) ++ lowerChar c
  else if isGap c then ['_']
  else [c]

theorem markWords_cons (previous : Option Char) (c : Char) (cs : List Char) :
    markWords previous (c :: cs) = markedChar previous c cs ++ markWords (some c) cs := by
  have hgap : isGap c = true ↔ c = '-' ∨ c = ' ' ∨ c = '.' := by
    simp [isGap, or_assoc]
  simp only [markWords, markedChar, hgap]

/-- A text in which no words are left to be marked. -/
def IsMarked (text : List Char) : Prop := ∀ c ∈ text, isUppercase c = false ∧ isGap c = false

theorem markWords_eq_self {text : List Char} (h : IsMarked text) (previous : Option Char) :
    markWords previous text = text := by
  induction text generalizing previous with
  | nil => rfl
  | cons c cs ih =>
    obtain ⟨⟨hupper, hgap⟩, hcs⟩ := List.forall_mem_cons.1 h
    rw [markWords_cons, markedChar, hupper, hgap, ih hcs]
    rfl

/-- How the words before an underscore are marked does not depend on what follows. -/
theorem exists_markWords_underscore (start : List Char) (previous : Option Char) :
    ∃ marked, ∀ rest, markWords previous (start ++ '_' :: rest) =
      marked ++ '_' :: markWords (some '_') rest := by
  induction start generalizing previous with
  | nil => exact ⟨[], fun rest => rfl⟩
  | cons c cs ih =>
    obtain ⟨marked, hmarked⟩ := ih (some c)
    have hchar : ∀ rest, markedChar previous c (cs ++ '_' :: rest) =
        markedChar previous c (cs ++ ['_']) := by
      intro rest
      cases cs <;> rfl
    refine ⟨markedChar previous c (cs ++ ['_']) ++ marked, fun rest => ?_⟩
    rw [List.cons_append, markWords_cons, hmarked, hchar, List.append_assoc]

/-- A capital of ASCII becomes a small letter, maybe behind an underscore, a gap becomes an underscore,
and anything else stays. -/
theorem markedChar_cases {c : Char} (hc : c.toNat < 0x80) (previous : Option Char)
    (next : List Char) :
    (c.isUpper = true ∧ (markedChar previous c next = [c.toLower] ∨
        markedChar previous c next = ['_', c.toLower])) ∨
      (isGap c = true ∧ markedChar previous c next = ['_']) ∨
      (c.isUpper = false ∧ isGap c = false ∧ markedChar previous c next = [c]) := by
  rw [markedChar, isUppercase, inProperty_of_ascii hc, lowerChar_of_ascii hc]
  cases hupper : c.isUpper with
  | true =>
    cases opensWord previous next with
    | true => exact .inl ⟨rfl, .inr rfl⟩
    | false => exact .inl ⟨rfl, .inl rfl⟩
  | false =>
    cases hgap : isGap c with
    | true => exact .inr (.inl ⟨rfl, rfl⟩)
    | false => exact .inr (.inr ⟨rfl, rfl, rfl⟩)

/-- Where the words of ASCII are marked, none are left. -/
theorem markWords_spec {text : List Char} (h : IsAscii text) (previous : Option Char) :
    IsMarked (markWords previous text) ∧ IsAscii (markWords previous text) := by
  have hlower : ∀ n < 0x80, (Char.ofNat n).isUpper = true → (Char.ofNat n).toLower.toNat < 0x80 ∧
      (Char.ofNat n).toLower.isUpper = false ∧ isGap (Char.ofNat n).toLower = false := by
    decide +kernel
  have hchar : ∀ d : Char, d.toNat < 0x80 → d.isUpper = false → isGap d = false →
      (isUppercase d = false ∧ isGap d = false) ∧ d.toNat < 0x80 := by
    intro d hd hupper hgap
    rw [isUppercase, inProperty_of_ascii hd]
    exact ⟨⟨hupper, hgap⟩, hd⟩
  have hunderscore := hchar '_' (by decide) (by decide) (by decide)
  have hall : ∀ d ∈ markWords previous text,
      (isUppercase d = false ∧ isGap d = false) ∧ d.toNat < 0x80 := by
    induction text generalizing previous with
    | nil => exact fun d hd => absurd hd List.not_mem_nil
    | cons c cs ih =>
      obtain ⟨hc, hcs⟩ := List.forall_mem_cons.1 h
      rw [markWords_cons, List.forall_mem_append]
      refine ⟨?_, ih hcs (some c)⟩
      rcases markedChar_cases hc previous cs with ⟨hupper, heq⟩ | ⟨-, heq⟩ | ⟨hupper, hgap, heq⟩
      · obtain ⟨hd, hdupper, hdgap⟩ := of_ascii
          (P := fun c => c.isUpper = true → c.toLower.toNat < 0x80 ∧ c.toLower.isUpper = false ∧
            isGap c.toLower = false) hlower hc hupper
        have hsmall := hchar _ hd hdupper hdgap
        rcases heq with heq | heq <;> rw [heq]
        · exact List.forall_mem_singleton.2 hsmall
        · exact List.forall_mem_cons.2 ⟨hunderscore, List.forall_mem_singleton.2 hsmall⟩
      · rw [heq]
        exact List.forall_mem_singleton.2 hunderscore
      · rw [heq]
        exact List.forall_mem_singleton.2 (hchar c hc hupper hgap)
  exact ⟨fun d hd => (hall d hd).1, fun d hd => (hall d hd).2⟩

/-! ## Snake case -/

theorem mem_joinWords {text : List Char} {c : Char} (h : c ∈ joinWords text) :
    c = '_' ∨ c ∈ text := by
  refine (mem_intercalate h).imp id ?_
  rintro ⟨word, hword, hc⟩
  exact subset_of_mem_splitWhere (List.mem_filter.1 hword).1 hc

/-- A name of ASCII in snake case has no words to be marked. -/
theorem snakeCase_spec {name : List Char} (h : IsAscii name) :
    IsMarked (snakeCase name) ∧ IsAscii (snakeCase name) := by
  obtain ⟨hmarked, hascii⟩ := markWords_spec h none
  constructor
  · intro c hc
    rcases mem_joinWords hc with rfl | hc
    · decide
    · exact hmarked c hc
  · intro c hc
    rcases mem_joinWords hc with rfl | hc
    · decide
    · exact hascii c hc

/-- **Behind the same start and an underscore, snake case tells apart what it tells apart alone**, if
the names are of ASCII. -/
theorem snakeCase_prefixed {name name' : List Char} (h : IsAscii name) (h' : IsAscii name')
    (start : List Char) :
    snakeCase (start ++ '_' :: snakeCase name) = snakeCase (start ++ '_' :: snakeCase name') ↔
      snakeCase name = snakeCase name' := by
  constructor
  · intro heq
    obtain ⟨marked, hmarked⟩ := exists_markWords_underscore start none
    have hjoined : ∀ {name}, IsAscii name →
        snakeCase (start ++ '_' :: snakeCase name) = joinWords (marked ++ '_' :: snakeCase name) :=
      fun {name} hname => by
        rw [snakeCase, hmarked, markWords_eq_self (snakeCase_spec hname).1]
    rw [hjoined h, hjoined h'] at heq
    have hpieces := congrArg pieces heq
    rw [pieces_joinWords, pieces_joinWords, pieces_append, pieces_append, snakeCase, snakeCase,
      pieces_joinWords, pieces_joinWords, List.append_cancel_left_eq] at hpieces
    rw [snakeCase, snakeCase, joinWords_eq, joinWords_eq, hpieces]
  · intro heq
    rw [heq]

/-! ## Camel case -/

theorem camelCase_append (left right : List Char) :
    camelCase (left ++ '_' :: right) = camelCase left ++ camelCase right := by
  rw [camelCase, splitWhere_append (by decide), List.flatMap_append]
  rfl

/-! ## Letters -/

/-- What stays of a name without what stands between words, whatever its case. -/
def letters (name : List Char) : List Char :=
  (name.filter fun c => c ≠ '_' && ! isGap c).map Char.toLower

theorem letters_append (left right : List Char) :
    letters (left ++ right) = letters left ++ letters right := by
  simp [letters]

theorem letters_flatMap (f : List Char → List Char) (words : List (List Char)) :
    letters (words.flatMap f) = words.flatMap fun w => letters (f w) := by
  induction words with
  | nil => rfl
  | cons w ws ih => rw [List.flatMap_cons, List.flatMap_cons, letters_append, ih]

theorem letters_markWords {text : List Char} (h : IsAscii text) (previous : Option Char) :
    letters (markWords previous text) = letters text := by
  have hlower : ∀ n < 0x80, (Char.ofNat n).isUpper = true →
      letters [(Char.ofNat n).toLower] = letters [Char.ofNat n] := by
    decide +kernel
  induction text generalizing previous with
  | nil => rfl
  | cons c cs ih =>
    obtain ⟨hc, hcs⟩ := List.forall_mem_cons.1 h
    have hchar : letters (markedChar previous c cs) = letters [c] := by
      rcases markedChar_cases hc previous cs with ⟨hupper, heq⟩ | ⟨hgap, heq⟩ | ⟨-, -, heq⟩
      · have hsmall := of_ascii
          (P := fun c => c.isUpper = true → letters [c.toLower] = letters [c]) hlower hc hupper
        rcases heq with heq | heq <;> rw [heq]
        · exact hsmall
        · exact hsmall
      · rw [heq]
        simp [letters, hgap]
      · rw [heq]
    rw [markWords_cons, letters_append, hchar, ih hcs, ← letters_append]
    rfl

/-- The pieces between characters that are no part of words have all letters. -/
theorem flatMap_letters_splitWhere {p : Char → Bool} (hp : ∀ c, p c = true → letters [c] = [])
    (text : List Char) : (splitWhere p text).flatMap letters = letters text := by
  induction text with
  | nil => rfl
  | cons c cs ih =>
    have hcons : letters (c :: cs) = letters [c] ++ letters cs := letters_append [c] cs
    rw [splitWhere, hcons, ← ih]
    split
    · next hc =>
      rw [hp c hc]
      rfl
    · obtain ⟨piece, rest, heq⟩ := List.exists_cons_of_ne_nil (splitWhere_ne_nil p cs)
      rw [heq]
      show letters ([c] ++ piece) ++ _ = _
      rw [letters_append, List.append_assoc]
      rfl

theorem letters_joinWords (text : List Char) : letters (joinWords text) = letters text := by
  have hjoin : ∀ words : List (List Char),
      letters (['_'].intercalate words) = words.flatMap letters := by
    intro words
    induction words with
    | nil => rfl
    | cons w ws ih =>
      cases ws with
      | nil => simp [List.intercalate]
      | cons v vs =>
        have hcons : ['_'].intercalate (w :: v :: vs) = w ++ (['_'] ++ ['_'].intercalate (v :: vs)) := by
          simp [List.intercalate]
        rw [hcons, letters_append, letters_append, ih]
        rfl
  have hempty : ∀ words : List (List Char),
      (words.filter (! ·.isEmpty)).flatMap letters = words.flatMap letters := by
    intro words
    induction words with
    | nil => rfl
    | cons w ws ih =>
      cases w with
      | nil => exact ih
      | cons c cs => exact congrArg (letters (c :: cs) ++ ·) ih
  rw [joinWords_eq, hjoin, pieces, hempty, splitAt]
  exact flatMap_letters_splitWhere (fun c hc => by rw [eq_of_beq hc]; rfl) text

/-- Snake case keeps the letters of a name. -/
theorem letters_snakeCase {name : List Char} (h : IsAscii name) :
    letters (snakeCase name) = letters name := by
  rw [snakeCase, letters_joinWords, letters_markWords h]

/-- Camel case keeps the letters of a name. -/
theorem letters_camelCase {name : List Char} (h : IsAscii name) :
    letters (camelCase name) = letters name := by
  have hupper : ∀ n < 0x80, letters [(Char.ofNat n).toUpper] = letters [Char.ofNat n] := by
    decide +kernel
  have hcapitalize : ∀ piece ∈ splitWhere (fun c => c = '-' ∨ c = '_') name,
      letters (capitalize piece) = letters piece := by
    intro piece hpiece
    cases hcase : piece with
    | nil => rfl
    | cons c cs =>
      have hc : c.toNat < 0x80 := h c (subset_of_mem_splitWhere hpiece (hcase ▸ List.mem_cons_self))
      rw [capitalize, upperChar_of_ascii hc, letters_append,
        of_ascii (P := fun c => letters [c.toUpper] = letters [c]) hupper hc, ← letters_append]
      rfl
  have hgap : ∀ c, decide (c = '-' ∨ c = '_') = true → letters [c] = [] := by
    intro c hc
    rcases of_decide_eq_true hc with rfl | rfl <;> rfl
  rw [camelCase, letters_flatMap, ← flatMap_letters_splitWhere hgap name, List.flatMap_def,
    List.flatMap_def, List.map_congr_left hcapitalize]

end ProviderGlue.Text
