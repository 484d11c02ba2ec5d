import Mathlib.Logic.Function.Iterate
import ProviderGlue.Proofs.Go.TypeExpr
import ProviderGlue.Proofs.Go.Wrapper

/-!
# Spellings of types

One type can be spelled in many ways: blanks may follow its stars and brackets, and the key of a map
may be any text that closes the brackets it opens.  The declared name is found in every spelling.

The wrappers of a type are stripped in rounds, until a round changes nothing.  Each round that does
change the text makes it shorter, so there are no more rounds than characters.

## Key results

- `iterate_stripRound`: the rounds come to an end, which is what `stripWrappers` finds
- `Spelling.baseName_text`: the declared name of a spelling
- `baseName_spelled`: both for all texts
-/

namespace ProviderGlue.Go

open Text Unicode

namespace TypeText

/-! ## Rounds -/

/-- One round: the stars at the start are stripped, then the brackets behind them. -/
def stripRound (text : List Char) : List Char :=
  let bare := stripStars text
  ((afterBrackets? bare).map trimStart).getD bare

/-- A round takes a part of the text away from its start. -/
theorem stripRound_suffix (text : List Char) : stripRound text <:+ text := by
  rw [stripRound]
  cases hrest : afterBrackets? (stripStars text) with
  | none => exact stripStars_suffix text
  | some rest =>
    have hsuffix : trimStart rest <:+ rest := List.dropWhile_suffix _
    exact (hsuffix.trans (afterBrackets?_suffix hrest)).trans (stripStars_suffix text)

/-- A round that changes the text makes it shorter. -/
theorem length_stripRound_lt {text : List Char} (h : stripRound text ≠ text) :
    (stripRound text).length < text.length :=
  Nat.lt_of_le_of_ne (stripRound_suffix text).length_le
    fun heq => h ((stripRound_suffix text).eq_of_length heq)

/-- What is found is what the rounds lead to. -/
theorem stripWrappers_eq (text : List Char) :
    stripWrappers text =
      if stripRound text = text then text else stripWrappers (stripRound text) := by
  rw [stripWrappers]
  split
  · next rest hrest =>
    have hround : stripRound text = trimStart rest := by rw [stripRound, hrest]; rfl
    have hne : stripRound text ≠ text := fun heq => by
      have hrest := length_afterBrackets? hrest
      have htrim : (trimStart rest).length ≤ rest.length := (List.dropWhile_sublist _).length_le
      have hstars := length_stripStars_le text
      have hlength := congrArg List.length (hround ▸ heq)
      omega
    rw [if_neg hne, hround]
  · next hnone =>
    have hround : stripRound text = stripStars text := by rw [stripRound, hnone]; rfl
    rw [hround]
    by_cases heq : stripStars text = text
    · rw [if_neg (by rw [heq]; exact Nat.lt_irrefl _), if_pos heq, heq]
    · rw [if_pos (hround ▸ length_stripRound_lt (hround ▸ heq)), if_neg heq]

/-- **The rounds come to an end**: after no more rounds than there are characters, another one
changes nothing. -/
theorem iterate_stripRound (text : List Char) :
    ∃ n ≤ text.length, stripRound^[n] text = stripWrappers text ∧
      stripRound (stripWrappers text) = stripWrappers text := by
  -- the length of what is left carries the induction
  induction hlength : text.length using Nat.strong_induction_on generalizing text with
  | _ k ih =>
    rw [stripWrappers_eq]
    by_cases hround : stripRound text = text
    · rw [if_pos hround]
      exact ⟨0, Nat.zero_le _, rfl, hround⟩
    · have hlt := length_stripRound_lt hround
      obtain ⟨n, hn, hiterate, hfixed⟩ := ih _ (hlength ▸ hlt) (stripRound text) rfl
      rw [if_neg hround]
      exact ⟨n + 1, by omega, hiterate, hfixed⟩

/-- The stripping goes on with what a round leaves. -/
theorem stripWrappers_stripRound (text : List Char) :
    stripWrappers (stripRound text) = stripWrappers text := by
  rw [stripWrappers_eq text]
  split
  · next heq => rw [heq, stripWrappers_eq, if_pos heq]
  · rfl

/-! ## Stars and brackets -/

/-- A text that starts with something else has no stars to strip. -/
theorem stripStars_cons {c : Char} (cs : List Char) (hstar : c ≠ '*') (hblank : isBlank c = false) :
    stripStars (c :: cs) = c :: cs := by
  rw [stripStars, dropWhile_eq_self, trimStart, dropWhile_eq_self]
  · exact fun x hx => Option.some.inj hx ▸ hblank
  · exact fun x hx => Option.some.inj hx ▸ decide_eq_false hstar

/-- Behind stars, the stripping goes on as if they had not been there. -/
theorem stripWrappers_stripStars (text : List Char) :
    stripWrappers (stripStars text) = stripWrappers text := by
  rw [← stripWrappers_stripRound text, stripRound]
  cases hstars : stripStars text with
  | nil => rfl
  | cons c cs =>
    by_cases hc : c = '*'
    · -- blanks stand before more stars, which are left for the next round
      rw [hc]
      rfl
    · have hblank := List.head?_dropWhile_not isBlank (text.dropWhile (· = '*'))
      rw [← trimStart, ← stripStars, hstars] at hblank
      have hagain := stripStars_cons cs hc hblank
      rw [← stripWrappers_stripRound (c :: cs), stripRound, hagain]

/-- Brackets at the start are stripped with the blanks behind them. -/
theorem stripWrappers_brackets {c : Char} {cs rest : List Char} (hstar : c ≠ '*')
    (hblank : isBlank c = false) (h : afterBrackets? (c :: cs) = some rest) :
    stripWrappers (c :: cs) = stripWrappers (trimStart rest) := by
  rw [← stripWrappers_stripRound, stripRound, stripStars_cons cs hstar hblank, h]
  rfl

/-- What starts with a word and has no brackets is not stripped. -/
theorem stripWrappers_word {c : Char} {cs : List Char} (hword : isWordChar c = true)
    (hopen : '[' ∉ c :: cs) : stripWrappers (c :: cs) = c :: cs := by
  have hstar : c ≠ '*' := by rintro rfl; exact absurd hword (by decide)
  have hfirst : c ≠ '[' := fun heq => hopen (heq ▸ List.mem_cons_self)
  -- even a name that starts like a map has no bracket behind that word
  have hmap : afterPrefix? "map[".toList (c :: cs) = none := by
    rw [Option.eq_none_iff_forall_not_mem]
    intro rest hrest
    rw [afterPrefix?_eq_some_iff.1 hrest] at hopen
    exact hopen (List.mem_append_left _ (by decide))
  have hnone : afterBrackets? (c :: cs) = none := by
    rw [afterBrackets?, afterMapKey?, hmap, afterPrefix?, if_neg hfirst.symm]
    simp [afterArrayLength?, hfirst]
  have hround : stripRound (c :: cs) = c :: cs := by
    rw [stripRound, stripStars_cons cs hstar (isBlank_of_isWordChar hword), hnone]
    rfl
  rw [stripWrappers_eq, if_pos hround]

/-- The length of an array ends where its bracket closes. -/
theorem afterBrackets?_array (length : ArrayLength) (rest : List Char) :
    afterBrackets? ('[' :: (length.digits ++ ']' :: rest)) = some rest := by
  obtain ⟨d, ds, hdigits⟩ := List.exists_cons_of_ne_nil length.ne_nil
  have hclose : ']' ≠ d := by
    rintro rfl
    exact absurd (length.digit ']' (hdigits ▸ List.mem_cons_self)) (by decide)
  have hslice : afterPrefix? ['[', ']'] ('[' :: (length.digits ++ ']' :: rest)) = none := by
    rw [afterPrefix?, if_pos rfl, hdigits, List.cons_append, afterPrefix?, if_neg hclose]
  have htake : (length.digits ++ ']' :: rest).takeWhile Char.isDigit = length.digits := by
    rw [List.takeWhile_append_of_pos length.digit, List.takeWhile_cons, if_neg (by decide),
      List.append_nil]
  have hdrop : (length.digits ++ ']' :: rest).dropWhile Char.isDigit = ']' :: rest := by
    rw [List.dropWhile_append_of_pos length.digit, List.dropWhile_cons, if_neg (by decide)]
  rw [afterBrackets?, hslice]
  show afterArrayLength? ('[' :: (length.digits ++ ']' :: rest)) = some rest
  rw [afterArrayLength?, htake, hdrop, hdigits]
  rfl

end TypeText

/-! ## Spellings -/

/-- A text that closes the brackets that it opens, and no others. -/
inductive Balanced : List Char → Prop
  | nil : Balanced []
  | char {c : Char} {cs : List Char} : c ≠ '[' → c ≠ ']' → Balanced cs → Balanced (c :: cs)
  | brackets {inner cs : List Char} : Balanced inner → Balanced cs →
      Balanced ('[' :: inner ++ ']' :: cs)

namespace Balanced

/-- Text without brackets is balanced. -/
theorem of_not_mem {cs : List Char} (hopen : '[' ∉ cs) (hclose : ']' ∉ cs) : Balanced cs := by
  induction cs with
  | nil => exact .nil
  | cons c cs ih =>
    rw [List.mem_cons, not_or] at hopen hclose
    exact .char (fun heq => hopen.1 heq.symm) (fun heq => hclose.1 heq.symm)
      (ih hopen.2 hclose.2)

theorem append {first last : List Char} (hfirst : Balanced first) (hlast : Balanced last) :
    Balanced (first ++ last) := by
  induction hfirst with
  | nil => exact hlast
  | char hopen hclose _ ih => exact .char hopen hclose ih
  | @brackets inner cs hinner _ _ ih =>
    rw [List.append_assoc, List.cons_append]
    exact .brackets hinner ih

/-- A balanced text is passed over. -/
theorem afterClosing?_append {key : List Char} (h : Balanced key) (depth : Nat)
    (rest : List Char) : TypeText.afterClosing? (depth + 1) (key ++ rest) =
      TypeText.afterClosing? (depth + 1) rest := by
  induction h generalizing depth rest with
  | nil => rfl
  | char hopen hclose _ ih =>
    rw [List.cons_append, TypeText.afterClosing?, ih]
    · exact hopen
    · exact hclose
  | @brackets inner cs _ _ ihinner ih =>
    -- a pair of brackets goes one deeper and comes back
    rw [List.append_assoc, List.cons_append, List.cons_append, TypeText.afterClosing?, ihinner,
      TypeText.afterClosing?, if_neg (by omega)]
    exact ih depth rest

end Balanced

/-- The key of a map, as it is spelled. -/
structure Key where
  /-- The characters. -/
  chars : List Char
  balanced : Balanced chars

/-- A type expression as it is spelled, with the blanks behind its stars and brackets. -/
inductive Spelling where
  /-- A declared type, behind the name of its package if that is another one. -/
  | named (package : Option Identifier) (name : Identifier)
  | pointer (gap : Blanks) (type : Spelling)
  | slice (gap : Blanks) (element : Spelling)
  | array (length : ArrayLength) (gap : Blanks) (element : Spelling)
  | map (key : Key) (gap : Blanks) (value : Spelling)

namespace Spelling

/-- The text of a spelling. -/
def text : Spelling → List Char
  | named package name => (TypeExpr.named package name).text
  | pointer gap type => '*' :: (gap.chars ++ type.text)
  | slice gap element => '[' :: ']' :: (gap.chars ++ element.text)
  | array length gap element => '[' :: (length.digits ++ ']' :: (gap.chars ++ element.text))
  | map key gap value => "map[".toList ++ (key.chars ++ ']' :: (gap.chars ++ value.text))

/-- The name that pointers, elements and values lead to. -/
def declared : Spelling → Identifier
  | named _ name => name
  | pointer _ type => type.declared
  | slice _ element => element.declared
  | array _ _ element => element.declared
  | map _ _ value => value.declared

/-- A spelling starts and ends with a character that is not blank. -/
theorem solid_text (t : Spelling) : Solid t.text := by
  have behind : ∀ {c : Char} {t : Spelling} (cs : List Char), isBlank c = false → Solid t.text →
      Solid (c :: (cs ++ t.text)) := fun cs hc ht =>
    (Solid.of_not_blank (List.cons_ne_nil _ _) (List.forall_mem_singleton.2 hc)).append cs ht
  induction t with
  | named package name => exact (TypeExpr.named package name).solid_text
  | pointer gap type ih => exact behind gap.chars (by decide) ih
  | slice gap element ih => exact behind (']' :: gap.chars) (by decide) ih
  | array length gap element ih =>
    have hsolid := behind (c := '[') (length.digits ++ ']' :: gap.chars) (by decide) ih
    rwa [List.append_assoc] at hsolid
  | map key gap value ih =>
    have hsolid := behind (c := 'm') ("ap[".toList ++ (key.chars ++ ']' :: gap.chars)) (by decide) ih
    rwa [List.append_assoc, List.append_assoc] at hsolid

/-- Blanks before a spelling are taken off. -/
theorem trimStart_text (t : Spelling) (gap : Blanks) : trimStart (gap.chars ++ t.text) = t.text :=
  t.solid_text.trimStart_eq gap

/-- A star and the blanks behind it are stripped. -/
theorem stripWrappers_pointer (gap : Blanks) (t : Spelling) :
    TypeText.stripWrappers (pointer gap t).text = TypeText.stripWrappers t.text := by
  rw [← TypeText.stripWrappers_stripStars, ← TypeText.stripWrappers_stripStars t.text]
  cases hgap : gap.chars with
  | nil => rw [text, hgap]; rfl
  | cons c cs =>
    -- the first blank ends the stars
    have hblank : isBlank c = true := gap.blank c (hgap ▸ List.mem_cons_self)
    have hstar : c ≠ '*' := by rintro rfl; exact absurd hblank (by decide)
    have hstars : TypeText.stripStars (pointer gap t).text = t.text := by
      have hdrop : (gap.chars ++ t.text).dropWhile (· = '*') = gap.chars ++ t.text := by
        rw [hgap]
        exact dropWhile_eq_self fun x hx => Option.some.inj hx ▸ decide_eq_false hstar
      rw [TypeText.stripStars, text, List.dropWhile_cons, if_pos (by simp), hdrop, trimStart_text]
    rw [hstars, TypeText.stripWrappers_stripStars]

/-- What is left of a spelling is the declared type that it leads to. -/
theorem stripWrappers_text (t : Spelling) :
    ∃ package, TypeText.stripWrappers t.text = (named package t.declared).text := by
  induction t with
  | named package name =>
    obtain ⟨c, cs, heq, hword⟩ := TypeExpr.exists_named_text package name
    have hopen := TypeExpr.open_not_mem_named package name
    refine ⟨package, ?_⟩
    rw [heq] at hopen
    rw [declared, text, heq]
    exact TypeText.stripWrappers_word hword hopen
  | pointer gap type ih =>
    rw [stripWrappers_pointer]
    exact ih
  | slice gap element ih =>
    have hbrackets : TypeText.afterBrackets? ('[' :: ']' :: (gap.chars ++ element.text)) =
        some (gap.chars ++ element.text) := rfl
    rw [text, TypeText.stripWrappers_brackets (by decide) (by decide) hbrackets, trimStart_text]
    exact ih
  | array length gap element ih =>
    have hbrackets := TypeText.afterBrackets?_array length (gap.chars ++ element.text)
    rw [text, TypeText.stripWrappers_brackets (by decide) (by decide) hbrackets, trimStart_text]
    exact ih
  | map key gap value ih =>
    have hbrackets : TypeText.afterBrackets? (map key gap value).text =
        some (gap.chars ++ value.text) := by
      rw [TypeText.afterBrackets?, TypeText.afterMapKey?, text, afterPrefix?_append,
        Option.bind_some, key.balanced.afterClosing?_append]
      rfl
    rw [text] at hbrackets ⊢
    rw [show "map[".toList = 'm' :: "ap[".toList from rfl, List.cons_append] at hbrackets ⊢
    rw [TypeText.stripWrappers_brackets (by decide) (by decide) hbrackets, trimStart_text]
    exact ih

/-- The declared name of a spelling is the one that it leads to. -/
theorem baseName_text (t : Spelling) (before after : Blanks) :
    TypeText.baseName (before.chars ++ t.text ++ after.chars) = t.declared.chars := by
  obtain ⟨package, hstrip⟩ := stripWrappers_text t
  have hlast : TypeText.afterLastDot (named package t.declared).text = t.declared.chars := by
    cases package with
    | none => exact TypeText.afterLastDot_eq_self t.declared.dot_not_mem
    | some package => exact TypeText.afterLastDot_append package.chars t.declared.dot_not_mem
  rw [TypeText.baseName, trim_blanks t.solid_text, hstrip, hlast]
  exact (TypeExpr.named none t.declared).trim_text

end Spelling

namespace TypeExpr

/-- A type closes the brackets that it opens. -/
theorem balanced_text (t : TypeExpr) : Balanced t.text := by
  induction t with
  | named package name =>
    refine .of_not_mem (open_not_mem_named package name) ?_
    cases package with
    | none => exact name.close_not_mem
    | some package =>
      rw [text, List.mem_append, List.mem_cons, not_or, not_or]
      exact ⟨package.close_not_mem, by decide, name.close_not_mem⟩
  | pointer type ih => exact .char (by decide) (by decide) ih
  | slice element ih => exact .brackets .nil ih
  | array length element ih =>
    -- there are only digits between the brackets of an array
    have not_mem : ∀ {c : Char}, c.isDigit = false → c ∉ length.digits := fun hc hmem => by
      rw [length.digit _ hmem] at hc
      contradiction
    exact .brackets (.of_not_mem (not_mem (by decide)) (not_mem (by decide))) ih
  | map key value ihkey ihvalue =>
    rw [text, List.append_assoc]
    have hword : Balanced "map".toList := .of_not_mem (by decide) (by decide)
    exact hword.append (.brackets ihkey ihvalue)

/-- A type as it is spelled without blanks. -/
def spelling : TypeExpr → Spelling
  | named package name => .named package name
  | pointer type => .pointer .none type.spelling
  | slice element => .slice .none element.spelling
  | array length element => .array length .none element.spelling
  | map key value => .map ⟨key.text, key.balanced_text⟩ .none value.spelling

theorem text_spelling (t : TypeExpr) : t.spelling.text = t.text := by
  induction t with
  | named package name => rfl
  | pointer type ih => exact congrArg _ ih
  | slice element ih => exact congrArg (fun cs => '[' :: ']' :: cs) ih
  | array length element ih =>
    exact congrArg (fun cs => '[' :: (length.digits ++ ']' :: cs)) ih
  | map key value _ ih =>
    rw [text, List.append_assoc]
    exact congrArg (fun cs => "map[".toList ++ (key.text ++ ']' :: cs)) ih

theorem declared_spelling (t : TypeExpr) : t.spelling.declared = t.declared := by
  induction t with
  | named package name => rfl
  | pointer type ih => exact ih
  | slice element ih => exact ih
  | array length element ih => exact ih
  | map key value _ ih => exact ih

/-- The declared name of a type is the one that it leads to. -/
theorem baseName_text (t : TypeExpr) : TypeText.baseName t.text = t.declared.chars := by
  have hname := t.spelling.baseName_text .none .none
  rw [text_spelling, declared_spelling, Blanks.none, List.nil_append, List.append_nil] at hname
  exact hname

end TypeExpr

/-- **The declared name is found in every spelling**, and the search comes to an end on every
text. -/
theorem baseName_spelled :
    (∀ (t : Spelling) (before after : Blanks),
      baseName (String.ofList (before.chars ++ t.text ++ after.chars)) =
        String.ofList t.declared.chars) ∧
    ∀ text : List Char, ∃ n ≤ text.length,
      TypeText.stripRound^[n] text = TypeText.stripWrappers text ∧
        TypeText.stripRound (TypeText.stripWrappers text) = TypeText.stripWrappers text := by
  refine ⟨fun t before after => ?_, TypeText.iterate_stripRound⟩
  rw [baseName, String.toList_ofList, t.baseName_text]

end ProviderGlue.Go
