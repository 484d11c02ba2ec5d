import ProviderGlue.Proofs.Go.TypeText

/-!
# Type expressions and their texts

The functions that read types work on any text.  On the text of a type expression they find what the
expression is made of, however deep it is.

## Key results

- `unpointed_text`, `sliceElement?_text`, `isMap_text`, `isPointer_text`: the outermost form
-/

namespace ProviderGlue.Go

open Text Unicode

/-! ## Expressions -/

/-- A name of a type or package. -/
structure Identifier where
  /-- The characters. -/
  chars : List Char
  ne_nil : chars ≠ []
  word : ∀ c ∈ chars, isWordChar c = true
  start : ∀ c ∈ chars.head?, isDecimalDigit c = false

/-- An identifier whose characters are given. -/
def Identifier.ofChars (chars : List Char) (word : chars.all isWordChar = true)
    (start : chars.head?.any (fun c => !isDecimalDigit c) = true) : Identifier where
  chars := chars
  ne_nil := by rintro rfl; exact nomatch start
  word := List.all_eq_true.1 word
  start c hc := by rwa [hc, Option.any_some, Bool.not_eq_true'] at start

/-- The length of an array, in decimal. -/
structure ArrayLength where
  /-- The digits. -/
  digits : List Char
  ne_nil : digits ≠ []
  digit : ∀ c ∈ digits, c.isDigit = true

/-- A type expression. -/
inductive TypeExpr where
  /-- A declared type, behind the name of its package if that is another one. -/
  | named (package : Option Identifier) (name : Identifier)
  | pointer (type : TypeExpr)
  | slice (element : TypeExpr)
  | array (length : ArrayLength) (element : TypeExpr)
  | map (key value : TypeExpr)

namespace TypeExpr

/-- A type as it is written, without blanks. -/
def text : TypeExpr → List Char
  | named none name => name.chars
  | named (some package) name => package.chars ++ '.' :: name.chars
  | pointer type => '*' :: type.text
  | slice element => '[' :: ']' :: element.text
  | array length element => '[' :: length.digits ++ ']' :: element.text
  | map key value => "map[".toList ++ key.text ++ ']' :: value.text

/-- The name that pointers, elements and values lead to. -/
def declared : TypeExpr → Identifier
  | named _ name => name
  | pointer type => type.declared
  | slice element => element.declared
  | array _ element => element.declared
  | map _ value => value.declared

/-- The type without the pointers to it. -/
def unpointed : TypeExpr → TypeExpr
  | pointer type => type.unpointed
  | type => type

end TypeExpr

/-! ## Characters of a text -/

namespace Identifier

variable (n : Identifier)

theorem not_mem {c : Char} (h : isWordChar c = false) : c ∉ n.chars := by
  intro hmem
  rw [n.word c hmem] at h
  exact nomatch h

theorem dot_not_mem : '.' ∉ n.chars := n.not_mem (by decide)

theorem open_not_mem : '[' ∉ n.chars := n.not_mem (by decide)

theorem close_not_mem : ']' ∉ n.chars := n.not_mem (by decide)

/-- An identifier is a character and some more. -/
theorem exists_cons : ∃ c cs, n.chars = c :: cs ∧ isWordChar c = true := by
  obtain ⟨c, cs, heq⟩ := List.exists_cons_of_ne_nil n.ne_nil
  exact ⟨c, cs, heq, n.word c (heq ▸ List.mem_cons_self)⟩

end Identifier

namespace TypeExpr

/-- There are no blanks in the text of a type. -/
theorem isBlank_of_mem_text (t : TypeExpr) : ∀ c ∈ t.text, isBlank c = false := by
  induction t with
  | named package name =>
    have hname : ∀ c ∈ name.chars, isBlank c = false := fun c hc =>
      isBlank_of_isWordChar (name.word c hc)
    cases package with
    | none => exact hname
    | some package =>
      rw [text, List.forall_mem_append, List.forall_mem_cons]
      exact ⟨fun c hc => isBlank_of_isWordChar (package.word c hc), by decide, hname⟩
  | pointer type ih => exact List.forall_mem_cons.2 ⟨by decide, ih⟩
  | slice element ih =>
    rw [text, List.forall_mem_cons, List.forall_mem_cons]
    exact ⟨by decide, by decide, ih⟩
  | array length element ih =>
    rw [text, List.forall_mem_append, List.forall_mem_cons, List.forall_mem_cons]
    refine ⟨⟨by decide, fun c hc => ?_⟩, by decide, ih⟩
    exact isBlank_of_isWordChar (isWordChar_of_isDigit (length.digit c hc))
  | map key value ihkey ihvalue =>
    rw [text, List.forall_mem_append, List.forall_mem_append, List.forall_mem_cons]
    refine ⟨⟨fun c hc => ?_, ihkey⟩, by decide, ihvalue⟩
    change c ∈ ['m', 'a', 'p', '['] at hc
    simp only [List.mem_cons, List.not_mem_nil, or_false] at hc
    rcases hc with rfl | rfl | rfl | rfl <;> decide

/-- A type is written with one character at least, and none of them is blank. -/
theorem solid_text (t : TypeExpr) : Solid t.text := by
  refine .of_not_blank ?_ t.isBlank_of_mem_text
  cases t with
  | named package name =>
    cases package with
    | none => exact name.ne_nil
    | some package => exact List.append_ne_nil_of_left_ne_nil package.ne_nil _
  | _ => exact List.cons_ne_nil _ _

@[simp] theorem trim_text (t : TypeExpr) : trim t.text = t.text :=
  t.solid_text.trim_eq

@[simp] theorem trimStart_text (t : TypeExpr) : trimStart t.text = t.text :=
  dropWhile_eq_self t.solid_text.start

/-! ## The outermost form -/

/-- A declared type starts with a character of a word. -/
theorem exists_named_text (package : Option Identifier) (name : Identifier) :
    ∃ c cs, (named package name).text = c :: cs ∧ isWordChar c = true := by
  cases package with
  | none => exact name.exists_cons
  | some package =>
    obtain ⟨c, cs, heq, hword⟩ := package.exists_cons
    exact ⟨c, cs ++ '.' :: name.chars, by rw [text, heq, List.cons_append], hword⟩

/-- There are no brackets in the text of a declared type. -/
theorem open_not_mem_named (package : Option Identifier) (name : Identifier) :
    '[' ∉ (named package name).text := by
  cases package with
  | none => exact name.open_not_mem
  | some package =>
    rw [text, List.mem_append, List.mem_cons, not_or, not_or]
    exact ⟨package.open_not_mem, by decide, name.open_not_mem⟩

/-- An array starts with a bracket and a digit. -/
theorem exists_array_text (length : ArrayLength) (element : TypeExpr) :
    ∃ d ds, d.isDigit = true ∧ length.digits = d :: ds ∧
      (array length element).text = '[' :: d :: (ds ++ ']' :: element.text) := by
  obtain ⟨d, ds, heq⟩ := List.exists_cons_of_ne_nil length.ne_nil
  exact ⟨d, ds, length.digit d (heq ▸ List.mem_cons_self), heq, by rw [text, heq]; rfl⟩

/-- Dropping stars takes a type to what it points to. -/
theorem dropWhile_text (t : TypeExpr) : t.text.dropWhile (· = '*') = t.unpointed.text := by
  induction t with
  | named package name =>
    obtain ⟨c, cs, heq, hword⟩ := exists_named_text package name
    have hstar : c ≠ '*' := by rintro rfl; exact absurd hword (by decide)
    show _ = (named package name).text
    rw [heq, List.dropWhile_cons, if_neg (by simpa using hstar)]
  | pointer type ih =>
    rw [text, List.dropWhile_cons, if_pos (by simp), ih, unpointed]
  | slice element _ => rfl
  | array length element _ => rfl
  | map key value _ _ => rfl

@[simp] theorem unpointed_text (t : TypeExpr) : TypeText.unpointed t.text = t.unpointed.text := by
  rw [TypeText.unpointed, trim_text, dropWhile_text]

/-- What stands below all pointers is no pointer. -/
theorem unpointed_ne_pointer (t u : TypeExpr) : t.unpointed ≠ pointer u := by
  induction t with
  | pointer type ih => exact ih
  | _ => exact nofun

/-- A type is written with a star exactly if it is a pointer. -/
theorem isPointer_text (t : TypeExpr) : TypeText.isPointer t.text = true ↔ ∃ u, t = pointer u := by
  rw [TypeText.isPointer, trim_text]
  cases t with
  | named package name =>
    obtain ⟨c, cs, heq, hword⟩ := exists_named_text package name
    have hstar : '*' ≠ c := by rintro rfl; exact absurd hword (by decide)
    rw [heq]
    simp [hstar]
  | pointer type => exact ⟨fun _ => ⟨type, rfl⟩, fun _ => rfl⟩
  | slice element => exact ⟨nofun, nofun⟩
  | array length element => exact ⟨nofun, nofun⟩
  | map key value => exact ⟨nofun, nofun⟩

/-- What a slice holds, pointers before it aside. -/
def sliceElement? (t : TypeExpr) : Option TypeExpr :=
  match t.unpointed with
  | slice element => some element
  | _ => none

/-- Only slices are written with empty brackets. -/
theorem afterPrefix?_brackets_text (t : TypeExpr) :
    afterPrefix? ['[', ']'] t.text = match t with
      | slice element => some element.text
      | _ => none := by
  cases t with
  | named package name =>
    obtain ⟨c, cs, heq, hword⟩ := exists_named_text package name
    have hopen : '[' ≠ c := by rintro rfl; exact absurd hword (by decide)
    rw [heq, afterPrefix?, if_neg hopen]
  | pointer type => rfl
  | slice element => rfl
  | array length element =>
    obtain ⟨d, ds, hdigit, -, heq⟩ := exists_array_text length element
    have hclose : ']' ≠ d := by rintro rfl; exact absurd hdigit (by decide)
    rw [heq, afterPrefix?, if_pos rfl, afterPrefix?, if_neg hclose]
  | map key value => rfl

theorem sliceElement?_text (t : TypeExpr) :
    TypeText.sliceElement? t.text = t.sliceElement?.map text := by
  rw [TypeText.sliceElement?, unpointed_text, afterPrefix?_brackets_text, sliceElement?]
  cases t.unpointed with
  | slice element => exact congrArg some (trimStart_text element)
  | _ => rfl

/-- Only maps are written with that word and a bracket. -/
theorem isMap_text (t : TypeExpr) :
    TypeText.isMap t.text = true ↔ ∃ key value, t.unpointed = map key value := by
  rw [TypeText.isMap, unpointed_text]
  cases hunpointed : t.unpointed with
  | named package name =>
    refine ⟨fun h => ?_, nofun⟩
    have hmem : '[' ∈ (named package name).text :=
      (List.isPrefixOf_iff_prefix.1 h).subset (by decide)
    exact absurd hmem (open_not_mem_named package name)
  | pointer type => exact absurd hunpointed (unpointed_ne_pointer t type)
  | slice element => exact ⟨nofun, nofun⟩
  | array length element => exact ⟨nofun, nofun⟩
  | map key value =>
    refine ⟨fun _ => ⟨key, value, rfl⟩, fun _ => ?_⟩
    rw [text, List.append_assoc]
    exact List.isPrefixOf_iff_prefix.2 (List.prefix_append _ _)

end TypeExpr

end ProviderGlue.Go
