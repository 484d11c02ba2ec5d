import ProviderGlue.Proofs.Go.TypeText

/-!
# Packages in types

Generated code writes a type with the alias of its package, perhaps as the element of a slice.  The
aliases that it uses are the word `import` and a number.  In the text of such a type the alias is the
only package that is mentioned.

## Key results

- `isNumbered_of_importAlias?`: aliases that are found in ASCII types are of this form
- `qualifiers_append`: the packages that a written type mentions
-/

namespace ProviderGlue.Go

open Text Unicode

/-- Whether an alias is the word `import` and some decimal digits. -/
def IsNumbered (name : String) : Prop :=
  ∃ digits, name.toList = "import".toList ++ digits ∧ ∀ c ∈ digits, c.isDigit = true

namespace TypeText

/-! ## Aliases in types -/

/-- An alias at the start of a text is the word `import` with the digits that follow it. -/
theorem exists_of_aliasAtStart? {text name : List Char} (h : aliasAtStart? text = some name) :
    ∃ rest, text = "import".toList ++ rest ∧
      name = "import".toList ++ rest.takeWhile isDecimalDigit := by
  obtain ⟨rest, hrest, h⟩ := Option.bind_eq_some_iff.1 h
  refine ⟨rest, afterPrefix?_eq_some_iff.1 hrest, ?_⟩
  split at h
  · exact nomatch h
  · exact (Option.some.inj h).symm
  · split at h
    · exact nomatch h
    · exact (Option.some.inj h).symm

theorem isNumbered_of_aliasAtStart? {text name : List Char} (hascii : ∀ c ∈ text, c.toNat < 0x80)
    (h : aliasAtStart? text = some name) : IsNumbered (String.ofList name) := by
  obtain ⟨rest, htext, hname⟩ := exists_of_aliasAtStart? h
  refine ⟨_, by rw [String.toList_ofList, hname], fun c hc => ?_⟩
  have hmem : c ∈ text := by
    rw [htext]
    exact List.mem_append_right _ ((List.takeWhile_sublist _).mem hc)
  have hdigit : isDecimalDigit c = true := by
    have hall := List.all_takeWhile (p := isDecimalDigit) (l := rest)
    exact List.all_eq_true.1 hall c hc
  rw [isDecimalDigit, inProperty_of_ascii (hascii c hmem)] at hdigit
  exact hdigit

theorem isNumbered_of_findAlias? {afterWord : Bool} {text name : List Char}
    (hascii : ∀ c ∈ text, c.toNat < 0x80) (h : findAlias? afterWord text = some name) :
    IsNumbered (String.ofList name) := by
  induction text generalizing afterWord with
  | nil => exact nomatch h
  | cons c cs ih =>
    rw [findAlias?, Option.or_eq_some_iff] at h
    rcases h with h | ⟨-, h⟩
    · cases afterWord with
      | true => exact nomatch h
      | false => exact isNumbered_of_aliasAtStart? hascii h
    · exact ih (fun c hc => hascii c (List.mem_cons_of_mem _ hc)) h

theorem isNumbered_of_importAlias? {text name : List Char} (hascii : ∀ c ∈ text, c.toNat < 0x80)
    (h : importAlias? text = some name) : IsNumbered (String.ofList name) :=
  isNumbered_of_findAlias? hascii h

/-- Every alias that is found starts with the word `import`. -/
theorem exists_of_findAlias? {afterWord : Bool} {text name : List Char}
    (h : findAlias? afterWord text = some name) : ∃ digits, name = "import".toList ++ digits := by
  induction text generalizing afterWord with
  | nil => exact nomatch h
  | cons c cs ih =>
    rw [findAlias?, Option.or_eq_some_iff] at h
    rcases h with h | ⟨-, h⟩
    · cases afterWord with
      | true => exact nomatch h
      | false =>
        obtain ⟨rest, -, hname⟩ := exists_of_aliasAtStart? h
        exact ⟨_, hname⟩
    · exact ih h

/-- The characters of an element are among those of the type. -/
theorem mem_of_mem_elementType {c : Char} {text : List Char} (h : c ∈ elementType text) :
    c ∈ text := by
  have hbare : ∀ {c}, c ∈ unpointed text → c ∈ text := fun hc =>
    mem_of_mem_trim ((List.dropWhile_sublist _).mem hc)
  have h := (List.dropWhile_sublist _).mem (mem_of_mem_trim h)
  cases hslice : afterPrefix? ['[', ']'] (unpointed text) with
  | none =>
    rw [hslice] at h
    exact hbare h
  | some element =>
    rw [hslice] at h
    refine hbare ?_
    rw [afterPrefix?_eq_some_iff.1 hslice]
    exact List.mem_append_right _ h

/-! ## Packages of written types -/

/-- A run of letters and digits is part of one word. -/
theorem qualifiersFrom_append {run word : List Char} (rest : List Char)
    (h : ∀ c ∈ word, c.isAlphanum = true) :
    qualifiersFrom run (word ++ rest) = qualifiersFrom (word.reverse ++ run) rest := by
  induction word generalizing run with
  | nil => rfl
  | cons c word ih =>
    rw [List.cons_append, qualifiersFrom, if_pos (.inl (h c List.mem_cons_self)),
      ih fun c hc => h c (List.mem_cons_of_mem _ hc), List.reverse_cons, List.append_assoc]
    rfl

/-- Only what stands before a dot is a package. -/
theorem qualifiersFrom_of_no_dot {run text : List Char} (h : '.' ∉ text) :
    qualifiersFrom run text = [] := by
  induction text generalizing run with
  | nil => rfl
  | cons c text ih =>
    rw [List.mem_cons, not_or] at h
    have hdot : c ≠ '.' := fun heq => h.1 heq.symm
    rw [qualifiersFrom, if_neg hdot, ih h.2, ih h.2, ite_self]

/-- Brackets and stars do not belong to the package behind them. -/
theorem qualifiers_append {wrapping package base : List Char}
    (hwrapping : ∀ c ∈ wrapping, c = '[' ∨ c = ']' ∨ c = '*')
    (hpackage : IsNumbered (String.ofList package)) (hbase : '.' ∉ base) :
    qualifiers (wrapping ++ (package ++ '.' :: base)) = [package] := by
  obtain ⟨digits, hdigits, hdigit⟩ := hpackage
  rw [String.toList_ofList] at hdigits
  have hword : ∀ c ∈ package, c.isAlphanum = true := by
    rw [hdigits, List.forall_mem_append]
    refine ⟨List.all_eq_true.1 rfl, fun c hc => ?_⟩
    rw [Char.isAlphanum, hdigit c hc, Bool.or_true]
  rw [qualifiers]
  induction wrapping with
  | nil =>
    rw [List.nil_append, qualifiersFrom_append _ hword, qualifiersFrom, if_neg (by decide),
      if_pos rfl, List.append_nil, List.reverse_reverse, qualifiersFrom_of_no_dot hbase, hdigits]
    rfl
  | cons c wrapping ih =>
    have hc : ¬ (c.isAlphanum = true ∨ c = '_') ∧ c ≠ '.' := by
      rcases hwrapping c List.mem_cons_self with rfl | rfl | rfl <;> decide
    rw [List.cons_append, qualifiersFrom, if_neg hc.1, if_neg hc.2]
    exact ih fun c hc => hwrapping c (List.mem_cons_of_mem _ hc)

end TypeText

end ProviderGlue.Go
