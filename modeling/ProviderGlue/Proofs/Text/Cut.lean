import ProviderGlue.Proofs.Text.Ascii
import ProviderGlue.Text.Basic

/-!
# Cuts and blanks

What cutting and trimming do to a text that is put together from known pieces.

## Key results

- `splitOnce?_append`, `splitLast?_append`: a text is cut at a character that one side does not have
- `splitWhere_append`, `splitWhere_concat`, `splitWhere_eq_self`: the pieces between separators
- `splitAt_intercalate`, `lines_intercalate`: parts that are joined are split again
- `isBlank_of_isWordChar`: no blank is part of a word
- `trim_blanks`: trimming takes off exactly the blanks around a solid text
-/

namespace ProviderGlue.Text.Unicode

/-- The code points of the blanks beyond ASCII, one by one. -/
private def blankCodes : List Nat :=
  [0x85, 0xA0, 0x1680, 0x2000, 0x2001, 0x2002, 0x2003, 0x2004, 0x2005, 0x2006, 0x2007, 0x2008, 0x2009,
    0x200A, 0x2028, 0x2029, 0x202F, 0x205F, 0x3000]

private theorem mem_blankCodes {n : Nat} (h : blankPoints.has n = true) : n ∈ blankCodes := by
  simp only [CodePoints.has, blankPoints, List.any_cons, List.any_nil, Bool.or_false,
    Bool.or_eq_true, Bool.and_eq_true, decide_eq_true_eq] at h
  simp only [blankCodes, List.mem_cons, List.not_mem_nil, or_false]
  omega

/-- No blank is part of a word. -/
theorem isBlank_of_isWordChar {c : Char} (h : isWordChar c = true) : isBlank c = false := by
  rw [← Bool.not_eq_true]
  intro hblank
  simp only [isWordChar, isBlank, inProperty] at h hblank
  split at hblank
  · next hascii =>
    rw [if_pos hascii] at h
    -- an ASCII blank is a space or a control character
    have hrange : c.toNat = 0x20 ∨ (0x09 ≤ c.toNat ∧ c.toNat ≤ 0x0D) := by
      simp only [Bool.or_eq_true, Bool.and_eq_true, decide_eq_true_eq, beq_iff_eq] at hblank
      rcases hblank with rfl | hrange
      · exact .inl rfl
      · exact .inr hrange
    have hcontrol : ∀ n < 0x21, n = 0x20 ∨ (0x09 ≤ n ∧ n ≤ 0x0D) →
        ((Char.ofNat n).isAlphanum || Char.ofNat n == '_') = false := by decide
    have hfalse := hcontrol c.toNat (by omega) hrange
    rw [Char.ofNat_toNat, h] at hfalse
    contradiction
  · next hascii =>
    rw [if_neg hascii] at h
    have hnone : ∀ n ∈ blankCodes, wordPoints.has n = false := by decide +kernel
    rw [hnone _ (mem_blankCodes hblank)] at h
    contradiction

/-- No part of a word is blank. -/
theorem isWordChar_of_isBlank {c : Char} (h : isBlank c = true) : isWordChar c = false := by
  rw [← Bool.not_eq_true]
  intro hword
  rw [isBlank_of_isWordChar hword] at h
  contradiction

/-- ASCII letters and digits are part of words. -/
theorem isWordChar_of_isAlphanum {c : Char} (h : c.isAlphanum = true) : isWordChar c = true := by
  rw [isWordChar, inProperty_of_ascii (toNat_lt_of_isAlphanum h), h, Bool.true_or]

/-- Decimal digits are part of words. -/
theorem isWordChar_of_isDigit {c : Char} (h : c.isDigit = true) : isWordChar c = true :=
  isWordChar_of_isAlphanum (by rw [Char.isAlphanum, h, Bool.or_true])

end ProviderGlue.Text.Unicode

namespace ProviderGlue.Text

open Unicode

/-! ## Splitting -/

/-- A text is cut at the first occurrence of a separator, if its first character does not stand
before it. -/
theorem splitOnce?_separator {c : Char} {left : List Char} (sep right : List Char) (h : c ∉ left) :
    splitOnce? (c :: sep) (left ++ c :: (sep ++ right)) = some (left, right) := by
  induction left with
  | nil => rw [List.nil_append, splitOnce?, ← List.cons_append, afterPrefix?_append]
  | cons x left ih =>
    have hne : c ≠ x := fun heq => h (heq ▸ List.mem_cons_self)
    have hmem : c ∉ left := fun hc => h (List.mem_cons_of_mem _ hc)
    simp [splitOnce?, afterPrefix?, hne, ih hmem]

/-- A text is cut at the first occurrence of a character. -/
theorem splitOnce?_append {c : Char} {left : List Char} (right : List Char) (h : c ∉ left) :
    splitOnce? [c] (left ++ c :: right) = some (left, right) :=
  splitOnce?_separator [] right h

/-- A text without the first character of a separator is not cut. -/
theorem splitOnce?_eq_none {c : Char} {sep text : List Char} (h : c ∉ text) :
    splitOnce? (c :: sep) text = none := by
  induction text with
  | nil => simp [splitOnce?, afterPrefix?]
  | cons x text ih =>
    have hne : c ≠ x := fun heq => h (heq ▸ List.mem_cons_self)
    have hmem : c ∉ text := fun hc => h (List.mem_cons_of_mem _ hc)
    simp [splitOnce?, afterPrefix?, hne, ih hmem]

/-- The part of a text behind the last occurrence of a character. -/
theorem splitLast?_append {c : Char} {right : List Char} (left : List Char) (h : c ∉ right) :
    splitLast? c (left ++ c :: right) = some (left, right) := by
  have hrev : (left ++ c :: right).reverse = right.reverse ++ c :: left.reverse := by simp
  rw [splitLast?, hrev, splitOnce?_append _ (by simpa using h)]
  simp

theorem splitLast?_eq_none {c : Char} {text : List Char} (h : c ∉ text) :
    splitLast? c text = none := by
  rw [splitLast?, splitOnce?_eq_none (by simpa using h)]
  rfl

/-! ## Pieces -/

/-- A text is split at each separator. -/
theorem splitWhere_append {p : Char → Bool} {c : Char} (hc : p c = true) (left right : List Char) :
    splitWhere p (left ++ c :: right) = splitWhere p left ++ splitWhere p right := by
  induction left with
  | nil => simp [splitWhere, hc]
  | cons x left ih =>
    rw [List.cons_append, splitWhere, splitWhere, ih]
    split
    · rfl
    · -- the first piece before the separator goes on to the left
      obtain ⟨piece, pieces, heq⟩ := List.exists_cons_of_ne_nil (splitWhere_ne_nil p left)
      rw [heq]
      rfl

/-- A text without separators is one piece. -/
theorem splitWhere_eq_self {p : Char → Bool} {text : List Char} (h : ∀ c ∈ text, p c = false) :
    splitWhere p text = [text] := by
  induction text with
  | nil => rfl
  | cons c text ih =>
    obtain ⟨hc, htext⟩ := List.forall_mem_cons.1 h
    rw [splitWhere, if_neg (by rw [hc]; decide), ih htext]

theorem splitWhere_cons_of_pos {p : Char → Bool} {c : Char} (hc : p c = true) (text : List Char) :
    splitWhere p (c :: text) = [] :: splitWhere p text :=
  splitWhere_append hc [] text

/-- Where texts are put together, the last piece of one goes on as the first piece of the other. -/
theorem splitWhere_concat {p : Char → Bool} {left right : List Char} {front pieces : List (List Char)}
    {last piece : List Char} (hleft : splitWhere p left = front ++ [last])
    (hright : splitWhere p right = piece :: pieces) :
    splitWhere p (left ++ right) = front ++ (last ++ piece) :: pieces := by
  induction left generalizing front last with
  | nil =>
    obtain ⟨rfl, heq⟩ | ⟨-, heq⟩ := List.append_eq_singleton_iff.1 hleft.symm
    · rw [List.singleton_inj.1 heq]
      exact hright
    · exact absurd heq (List.cons_ne_nil last [])
  | cons c cs ih =>
    rw [splitWhere] at hleft
    rw [List.cons_append, splitWhere]
    split
    · next hc =>
      rw [if_pos hc] at hleft
      cases front with
      | nil => exact absurd (List.cons.inj hleft).2 (splitWhere_ne_nil p cs)
      | cons _ front =>
        obtain ⟨rfl, hcs⟩ := List.cons.inj hleft
        rw [ih hcs]
        rfl
    · next hc =>
      obtain ⟨first, rest, heq⟩ := List.exists_cons_of_ne_nil (splitWhere_ne_nil p cs)
      rw [if_neg hc, heq] at hleft
      -- the character belongs to the first piece, which is the last one if there is no other
      cases front with
      | nil =>
        obtain ⟨rfl, rfl⟩ := List.cons.inj hleft
        have hcs : splitWhere p cs = [] ++ [first] := heq
        rw [ih hcs]
        rfl
      | cons _ front =>
        obtain ⟨rfl, rfl⟩ := List.cons.inj hleft
        have hcs : splitWhere p cs = (first :: front) ++ [last] := heq
        rw [ih hcs]
        rfl

/-- No piece has a separator. -/
theorem not_mem_of_mem_splitWhere {p : Char → Bool} {text piece : List Char}
    (h : piece ∈ splitWhere p text) : ∀ c ∈ piece, p c = false := by
  induction text generalizing piece with
  | nil =>
    rw [splitWhere, List.mem_singleton] at h
    rw [h]
    exact fun c hc => absurd hc List.not_mem_nil
  | cons x text ih =>
    obtain ⟨first, pieces, heq⟩ := List.exists_cons_of_ne_nil (splitWhere_ne_nil p text)
    rw [heq] at ih
    rw [splitWhere, heq] at h
    split at h
    · rcases List.mem_cons.1 h with rfl | h
      · exact fun c hc => absurd hc List.not_mem_nil
      · exact ih h
    · next hx =>
      rcases List.mem_cons.1 h with rfl | h
      · exact List.forall_mem_cons.2 ⟨Bool.not_eq_true _ ▸ hx, ih List.mem_cons_self⟩
      · exact ih (List.mem_cons_of_mem _ h)

/-- The pieces have no characters that the text has not. -/
theorem subset_of_mem_splitWhere {p : Char → Bool} {text piece : List Char}
    (h : piece ∈ splitWhere p text) : piece ⊆ text := by
  induction text generalizing piece with
  | nil =>
    rw [splitWhere, List.mem_singleton] at h
    rw [h]
    exact List.nil_subset _
  | cons x text ih =>
    obtain ⟨first, pieces, heq⟩ := List.exists_cons_of_ne_nil (splitWhere_ne_nil p text)
    rw [heq] at ih
    rw [splitWhere, heq] at h
    split at h
    · rcases List.mem_cons.1 h with rfl | h
      · exact List.nil_subset _
      · exact List.subset_cons_of_subset _ (ih h)
    · rcases List.mem_cons.1 h with rfl | h
      · exact List.cons_subset_cons _ (ih List.mem_cons_self)
      · exact List.subset_cons_of_subset _ (ih (List.mem_cons_of_mem _ h))

/-- What is put together has the characters of its pieces, and separators. -/
theorem mem_intercalate {c sep : Char} {parts : List (List Char)} (h : c ∈ [sep].intercalate parts) :
    c = sep ∨ ∃ part ∈ parts, c ∈ part := by
  induction parts with
  | nil => exact absurd h List.not_mem_nil
  | cons part parts ih =>
    cases parts with
    | nil =>
      rw [List.intercalate_singleton] at h
      exact .inr ⟨part, List.mem_cons_self, h⟩
    | cons next parts =>
      rw [List.intercalate_cons_cons, List.append_assoc, List.mem_append, List.mem_append,
        List.mem_singleton] at h
      rcases h with h | h | h
      · exact .inr ⟨part, List.mem_cons_self, h⟩
      · exact .inl h
      · exact (ih h).imp_right fun ⟨part, hpart, hc⟩ => ⟨part, List.mem_cons_of_mem _ hpart, hc⟩

/-- Splitting undoes joining, if no part has the separator. -/
theorem splitAt_intercalate {sep : Char} {parts : List (List Char)} (hne : parts ≠ [])
    (h : ∀ part ∈ parts, sep ∉ part) : splitAt sep ([sep].intercalate parts) = parts := by
  have hpart : ∀ part : List Char, sep ∉ part → splitAt sep part = [part] := fun part hsep =>
    splitWhere_eq_self fun c hc => beq_false_of_ne fun heq => hsep (heq ▸ hc)
  induction parts with
  | nil => exact absurd rfl hne
  | cons part parts ih =>
    obtain ⟨hfirst, hparts⟩ := List.forall_mem_cons.1 h
    cases parts with
    | nil => rw [List.intercalate_singleton, hpart part hfirst]
    | cons next parts =>
      have hsplit := splitWhere_append (p := (· == sep)) (beq_self_eq_true sep) part
        ([sep].intercalate (next :: parts))
      rw [List.intercalate_cons_cons, List.append_assoc, List.singleton_append, splitAt, hsplit,
        ← splitAt, ← splitAt, hpart part hfirst, ih (List.cons_ne_nil _ _) hparts,
        List.singleton_append]

/-- Parts without line breaks are the lines of the text that joins them, unless the last one is empty. -/
theorem lines_intercalate {parts : List (List Char)} {last : List Char}
    (hparts : ∀ part ∈ parts ++ [last], '\n' ∉ part ∧ '\r' ∉ part) (hlast : last ≠ []) :
    lines (['\n'].intercalate (parts ++ [last])) = parts ++ [last] := by
  have hcomplete : parts.map (fun l => (beforeSuffix? ['\r'] l).getD l) = parts := by
    refine (List.map_congr_left fun part hpart => ?_).trans (List.map_id parts)
    have hnone : beforeSuffix? ['\r'] part = none := by
      refine Option.eq_none_iff_forall_ne_some.2 fun rest hrest => ?_
      have hreturn := (hparts part (List.mem_append_left _ hpart)).2
      rw [beforeSuffix?_eq_some_iff.1 hrest] at hreturn
      exact hreturn (List.mem_append_right _ List.mem_cons_self)
    rw [hnone]
    rfl
  have hne : parts ++ [last] ≠ [] := List.append_ne_nil_of_right_ne_nil parts (List.cons_ne_nil _ _)
  have hsplit := splitAt_intercalate hne fun part hpart => (hparts part hpart).1
  rw [lines, hsplit, List.dropLast_concat, List.getLast?_concat, hcomplete]
  cases last with
  | nil => exact absurd rfl hlast
  | cons c cs => rfl

/-! ## Dropping -/

/-- A character that is not dropped from the start of a text stays. -/
theorem mem_dropWhile_of_not {p : Char → Bool} {c : Char} {text : List Char} (h : c ∈ text)
    (hc : p c = false) : c ∈ text.dropWhile p := by
  rw [← List.takeWhile_append_dropWhile (p := p) (l := text)] at h
  rcases List.mem_append.1 h with h | h
  · have hall := List.all_eq_true.1 (List.all_takeWhile (p := p) (l := text)) c h
    rw [hc] at hall
    contradiction
  · exact h

/-- A text that starts with something else keeps its start. -/
theorem dropWhile_eq_self {p : Char → Bool} {text : List Char}
    (h : ∀ c ∈ text.head?, p c = false) : text.dropWhile p = text := by
  cases text with
  | nil => rfl
  | cons c text => rw [List.dropWhile_cons, h c rfl, if_neg Bool.false_ne_true]

theorem dropEndWhile_append {p : Char → Bool} {text ending : List Char}
    (h : ∀ c ∈ ending, p c = true) : dropEndWhile p (text ++ ending) = dropEndWhile p text := by
  rw [dropEndWhile, List.reverse_append,
    List.dropWhile_append_of_pos fun c hc => h c (List.mem_reverse.1 hc), dropEndWhile]

/-- A text that ends with something else keeps its end. -/
theorem dropEndWhile_eq_self {p : Char → Bool} {text : List Char}
    (h : ∀ c ∈ text.getLast?, p c = false) : dropEndWhile p text = text := by
  rw [dropEndWhile, dropWhile_eq_self, List.reverse_reverse]
  rw [List.head?_reverse]
  exact h

/-- What is dropped from the end of a text. -/
theorem exists_dropEndWhile (p : Char → Bool) (text : List Char) :
    ∃ ending, (∀ c ∈ ending, p c = true) ∧ text = dropEndWhile p text ++ ending := by
  refine ⟨(text.reverse.takeWhile p).reverse, fun c hc => ?_, ?_⟩
  · exact List.all_eq_true.1 List.all_takeWhile c (List.mem_reverse.1 hc)
  · exact (dropEndWhile_append_takeWhile p text).symm

/-- What is not dropped ends with something else. -/
theorem not_of_getLast?_dropEndWhile {p : Char → Bool} {text : List Char} {c : Char}
    (h : (dropEndWhile p text).getLast? = some c) : p c = false := by
  have hhead := List.head?_dropWhile_not p text.reverse
  rw [dropEndWhile, List.getLast?_reverse] at h
  rwa [h] at hhead

/-! ## Trimming -/

/-- Dropping characters at the ends leaves a part of the text. -/
theorem trim_sublist (text : List Char) : (trim text).Sublist text := by
  have hend := (List.dropWhile_sublist isBlank (l := (trimStart text).reverse)).reverse
  rw [List.reverse_reverse] at hend
  exact hend.trans (List.dropWhile_sublist _)

theorem mem_of_mem_trim {c : Char} {text : List Char} (h : c ∈ trim text) : c ∈ text :=
  (trim_sublist text).mem h

/-- Trimming keeps what is not blank. -/
theorem mem_trim_of_mem {c : Char} {text : List Char} (h : c ∈ text) (hc : isBlank c = false) :
    c ∈ trim text := by
  rw [trim, dropEndWhile, List.mem_reverse]
  exact mem_dropWhile_of_not (List.mem_reverse.2 (mem_dropWhile_of_not h hc)) hc

/-- A text of blanks. -/
structure Blanks where
  /-- The characters. -/
  chars : List Char
  blank : ∀ c ∈ chars, isBlank c = true

/-- No blanks at all. -/
def Blanks.none : Blanks := ⟨[], nofun⟩

/-- One space. -/
def Blanks.space : Blanks := ⟨[' '], List.forall_mem_singleton.2 (by decide)⟩

theorem Blanks.not_mem (gap : Blanks) {c : Char} (h : isBlank c = false) : c ∉ gap.chars := by
  intro hmem
  rw [gap.blank c hmem] at h
  contradiction

/-- A text that neither starts nor ends with a blank. -/
structure Solid (text : List Char) : Prop where
  ne_nil : text ≠ []
  start : ∀ c ∈ text.head?, isBlank c = false
  ending : ∀ c ∈ text.getLast?, isBlank c = false

/-- A text without blanks is solid. -/
theorem Solid.of_not_blank {text : List Char} (hne : text ≠ [])
    (h : ∀ c ∈ text, isBlank c = false) : Solid text where
  ne_nil := hne
  start c hc := h c (List.mem_of_mem_head? hc)
  ending c hc := h c (List.mem_of_getLast? hc)

theorem Solid.singleton {c : Char} (h : isBlank c = false) : Solid [c] :=
  .of_not_blank (List.cons_ne_nil c []) (List.forall_mem_singleton.2 h)

/-- Between two solid texts there may be anything. -/
theorem Solid.append {first last : List Char} (hfirst : Solid first) (middle : List Char)
    (hlast : Solid last) : Solid (first ++ middle ++ last) where
  ne_nil h := hlast.ne_nil (List.append_eq_nil_iff.1 h).2
  start c hc := by
    rw [List.append_assoc, List.head?_append, Option.or_of_isSome] at hc
    · exact hfirst.start c hc
    · exact List.isSome_head?.2 hfirst.ne_nil
  ending c hc := by
    rw [List.getLast?_append, Option.or_of_isSome] at hc
    · exact hlast.ending c hc
    · exact List.getLast?_isSome.2 hlast.ne_nil

theorem Solid.trimStart_eq {text : List Char} (h : Solid text) (before : Blanks) :
    trimStart (before.chars ++ text) = text := by
  rw [trimStart, List.dropWhile_append_of_pos before.blank, dropWhile_eq_self h.start]

/-- Trimming takes off the blanks around a solid text. -/
theorem trim_blanks {text : List Char} (h : Solid text) (before after : Blanks) :
    trim (before.chars ++ text ++ after.chars) = text := by
  have hstart : ∀ c ∈ (text ++ after.chars).head?, isBlank c = false := by
    rw [List.head?_append, Option.or_of_isSome (List.isSome_head?.2 h.ne_nil)]
    exact h.start
  rw [trim, trimStart, List.append_assoc, List.dropWhile_append_of_pos before.blank,
    dropWhile_eq_self hstart, dropEndWhile_append after.blank, dropEndWhile_eq_self h.ending]

theorem Solid.trim_eq {text : List Char} (h : Solid text) : trim text = text := by
  have htrim := trim_blanks h .none .none
  rwa [Blanks.none, List.nil_append, List.append_nil] at htrim

end ProviderGlue.Text
