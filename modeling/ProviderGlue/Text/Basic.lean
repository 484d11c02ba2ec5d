import ProviderGlue.Text.Unicode.Word

/-!
# Cutting text

Functions on text as a list of characters: removing a known start or end, trimming, splitting at a
separator, searching.  Each cut is pinned down by a lemma that puts the text together again:

* `afterPrefix?_eq_some_iff`   `afterPrefix? p t = some r ↔ t = p ++ r`
* `beforeSuffix?_eq_some_iff`  `beforeSuffix? s t = some r ↔ t = r ++ s`
* `append_of_splitOnce?`       `splitOnce? sep t = some (l, r) → t = l ++ sep ++ r`
* `intercalate_splitAt`        `[sep].intercalate (splitAt sep t) = t`
-/

namespace ProviderGlue.Text

open Unicode

/-! ## Known starts and ends -/

/-- What follows `start` in the text, if the text begins with it. -/
def afterPrefix? : (start text : List Char) → Option (List Char)
  | [], text => some text
  | _ :: _, [] => none
  | p :: ps, c :: cs => if p = c then afterPrefix? ps cs else none

theorem afterPrefix?_eq_some_iff {start text rest : List Char} :
    afterPrefix? start text = some rest ↔ text = start ++ rest := by
  induction start generalizing text with
  | nil => simp [afterPrefix?]
  | cons p ps ih =>
    cases text with
    | nil => simp [afterPrefix?]
    | cons c cs =>
      by_cases h : p = c
      · simp [afterPrefix?, h, ih]
      · simp [afterPrefix?, h, Ne.symm h]

@[simp] theorem afterPrefix?_append (start rest : List Char) :
    afterPrefix? start (start ++ rest) = some rest :=
  afterPrefix?_eq_some_iff.2 rfl

/-- What precedes `ending` in the text, if the text ends with it. -/
def beforeSuffix? (ending text : List Char) : Option (List Char) :=
  (afterPrefix? ending.reverse text.reverse).map List.reverse

theorem beforeSuffix?_eq_some_iff {ending text rest : List Char} :
    beforeSuffix? ending text = some rest ↔ text = rest ++ ending := by
  simp only [beforeSuffix?, Option.map_eq_some_iff, afterPrefix?_eq_some_iff]
  constructor
  · rintro ⟨r, h, rfl⟩
    rw [← List.reverse_reverse text, h]
    simp
  · rintro rfl
    exact ⟨rest.reverse, by simp, by simp⟩

/-- Whether the text ends with `ending`. -/
def endsWith (ending text : List Char) : Bool :=
  (beforeSuffix? ending text).isSome

/-! ## Trimming -/

/-- The list without its longest ending of elements that satisfy `p`. -/
def dropEndWhile {α : Type} (p : α → Bool) (l : List α) : List α :=
  (l.reverse.dropWhile p).reverse

/-- A list ends with what is dropped from its end. -/
theorem dropEndWhile_append_takeWhile {α : Type} (p : α → Bool) (l : List α) :
    dropEndWhile p l ++ (l.reverse.takeWhile p).reverse = l := by
  rw [dropEndWhile, ← List.reverse_append, List.takeWhile_append_dropWhile, List.reverse_reverse]

/-- The text without the blanks at its start. -/
def trimStart (text : List Char) : List Char :=
  text.dropWhile isBlank

/-- The text without the blanks at both ends. -/
def trim (text : List Char) : List Char :=
  dropEndWhile isBlank (trimStart text)

/-! ## Searching and splitting -/

/-- Whether `pattern` occurs somewhere in the text. -/
def occursIn (pattern : List Char) : (text : List Char) → Bool
  | [] => pattern.isEmpty
  | c :: cs => pattern.isPrefixOf (c :: cs) || occursIn pattern cs

/-- The text before and after the first occurrence of `sep`. -/
def splitOnce? (sep : List Char) : (text : List Char) → Option (List Char × List Char)
  | [] => (afterPrefix? sep []).map fun rest => ([], rest)
  | c :: cs =>
    match afterPrefix? sep (c :: cs) with
    | some rest => some ([], rest)
    | none => (splitOnce? sep cs).map fun (left, right) => (c :: left, right)

theorem append_of_splitOnce? {sep text left right : List Char}
    (h : splitOnce? sep text = some (left, right)) : text = left ++ sep ++ right := by
  induction text generalizing left right with
  | nil =>
    obtain ⟨rest, hr, he⟩ := Option.map_eq_some_iff.1 h
    obtain ⟨rfl, rfl⟩ := Prod.mk.inj he
    simpa using afterPrefix?_eq_some_iff.1 hr
  | cons c cs ih =>
    simp only [splitOnce?] at h
    split at h
    · next rest hr =>
      obtain ⟨rfl, rfl⟩ := Prod.mk.inj (Option.some.inj h)
      simpa using afterPrefix?_eq_some_iff.1 hr
    · obtain ⟨⟨l, r⟩, hp, he⟩ := Option.map_eq_some_iff.1 h
      obtain ⟨rfl, rfl⟩ := Prod.mk.inj he
      simp [ih hp]

/-- The text before and after the last occurrence of the character `sep`. -/
def splitLast? (sep : Char) (text : List Char) : Option (List Char × List Char) :=
  (splitOnce? [sep] text.reverse).map fun (right, left) => (left.reverse, right.reverse)

/-- The pieces of the text between the characters that satisfy `isSep`, empty pieces included. -/
def splitWhere (isSep : Char → Bool) : List Char → List (List Char)
  | [] => [[]]
  | c :: cs =>
    if isSep c then [] :: splitWhere isSep cs
    else match splitWhere isSep cs with
      | [] => [[c]]
      | piece :: pieces => (c :: piece) :: pieces

/-- The pieces of the text between the occurrences of the character `sep`. -/
def splitAt (sep : Char) (text : List Char) : List (List Char) :=
  splitWhere (· == sep) text

theorem splitWhere_ne_nil (isSep : Char → Bool) (text : List Char) :
    splitWhere isSep text ≠ [] := by
  cases text with
  | nil => simp [splitWhere]
  | cons c cs =>
    simp only [splitWhere]
    split
    · simp
    · split <;> simp

theorem intercalate_splitAt (sep : Char) (text : List Char) :
    [sep].intercalate (splitAt sep text) = text := by
  induction text with
  | nil => simp [splitAt, splitWhere, List.intercalate]
  | cons c cs ih =>
    simp only [splitAt] at ih ⊢
    have hne := splitWhere_ne_nil (· == sep) cs
    rw [splitWhere]
    generalize splitWhere (· == sep) cs = pieces at ih hne
    match pieces, hne with
    | [p], _ => split <;> simp_all [List.intercalate]
    | p :: q :: ps, _ => split <;> simp_all [List.intercalate]

/-- Whether a list stands before another one or equals it, by the first elements that differ. -/
def notBehind {α : Type} [BEq α] [LT α] [DecidableLT α] (as bs : List α) : Bool :=
  ! bs.lex as (fun b a => decide (b < a))

/-- The words of the text: its pieces between blanks, without the empty ones. -/
def words (text : List Char) : List (List Char) :=
  (splitWhere isBlank text).filter (! ·.isEmpty)

/-- The lines of the text.  A line break is a line feed with an optional carriage return before it,
and the last line needs none. -/
def lines (text : List Char) : List (List Char) :=
  let pieces := splitAt '\n' text
  let complete := pieces.dropLast.map fun l => (beforeSuffix? ['\r'] l).getD l
  match pieces.getLast? with
  | none | some [] => complete
  | some last => complete ++ [last]

end ProviderGlue.Text
