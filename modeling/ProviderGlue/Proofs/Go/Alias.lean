import Mathlib.Data.List.TakeWhile
import ProviderGlue.Proofs.Go.TypeExpr

/-!
# Aliases in type expressions

A package is found in a type by looking for a word of the form `importN` anywhere in the text.  In a
type expression the words are its names, those in the keys of maps included.

## Key results

- `findAlias?_word`, `findAlias?_mark`: one word of a text, and what stands between two words
- `importAlias?_text`: the first alias among the names of a type
- `importAlias?_text_iff`: when it is the one that the declared type is qualified by
-/

namespace ProviderGlue.Text.Unicode

/-- Every run of decimal digits lies in a run of word characters. -/
theorem decimalDigitPoints_le {first last step : Nat} (h : (first, last, step) ∈ decimalDigitPoints) :
    ∃ run ∈ wordPoints, run.1 ≤ first ∧ last ≤ run.2.1 ∧ run.2.2 = 1 := by
  have hall : (decimalDigitPoints.all fun run => wordPoints.any fun word =>
      Nat.ble word.1 run.1 && Nat.ble run.2.1 word.2.1 && Nat.beq word.2.2 1) = true := by
    decide +kernel
  obtain ⟨word, hword, hle⟩ := List.any_eq_true.1 (List.all_eq_true.1 hall _ h)
  simp only [Bool.and_eq_true, Nat.ble_eq] at hle
  exact ⟨word, hword, hle.1.1, hle.1.2, Nat.eq_of_beq_eq_true hle.2⟩

/-- Decimal digits of all scripts are part of words. -/
theorem isWordChar_of_isDecimalDigit {c : Char} (h : isDecimalDigit c = true) :
    isWordChar c = true := by
  rw [isDecimalDigit, inProperty] at h
  split at h
  · exact isWordChar_of_isDigit h
  · next hascii =>
    obtain ⟨⟨first, last, step⟩, hmem, hrun⟩ := List.any_eq_true.1 h
    obtain ⟨⟨first', last', step'⟩, hmem', hfirst, hlast, hstep⟩ := decimalDigitPoints_le hmem
    simp only [Bool.and_eq_true, decide_eq_true_eq] at hrun hfirst hlast hstep
    rw [isWordChar, inProperty, if_neg hascii, CodePoints.has, List.any_eq_true]
    refine ⟨_, hmem', ?_⟩
    simp only [hstep, Nat.mod_one, Bool.and_eq_true, decide_eq_true_eq, beq_iff_eq, and_true]
    omega

end ProviderGlue.Text.Unicode

namespace ProviderGlue.Go

open Text Unicode

namespace TypeText

/-! ## Words -/

/-- Whether a text does not continue the word before it. -/
def EndsWord (rest : List Char) : Prop := ∀ c ∈ rest.head?, isWordChar c = false

variable {word rest : List Char}

/-- Decimal digits at the end of a word are not made more by what follows. -/
theorem EndsWord.isDecimalDigit (hrest : EndsWord rest) :
    ∀ c ∈ rest.head?, isDecimalDigit c = false := by
  intro c hc
  rw [← Bool.not_eq_true]
  intro hdigit
  have hword := isWordChar_of_isDecimalDigit hdigit
  rw [hrest c hc] at hword
  contradiction

/-- The digits behind `import` make an alias if they are all that is left of the word. -/
theorem aliasAtStart?_import {digits : List Char} (hword : ∀ c ∈ digits, isWordChar c = true)
    (hrest : EndsWord rest) : aliasAtStart? ("import".toList ++ digits ++ rest) =
      if (!digits.isEmpty && digits.all isDecimalDigit) = true then some ("import".toList ++ digits)
      else none := by
  rw [aliasAtStart?, List.append_assoc, afterPrefix?_append, Option.bind_some]
  by_cases hall : ∀ c ∈ digits, isDecimalDigit c = true
  · have hstay : rest.dropWhile isDecimalDigit = rest := dropWhile_eq_self hrest.isDecimalDigit
    have htake : rest.takeWhile isDecimalDigit = [] := by
      have hsplit := List.takeWhile_append_dropWhile (p := isDecimalDigit) (l := rest)
      rwa [hstay, List.append_left_eq_self] at hsplit
    rw [List.takeWhile_append_of_pos hall, List.dropWhile_append_of_pos hall, htake, hstay,
      List.append_nil, List.all_eq_true.2 hall, Bool.and_true]
    cases digits with
    | nil => rfl
    | cons d ds =>
      cases rest with
      | nil => rfl
      | cons c cs => exact if_neg (by rw [hrest c rfl]; exact Bool.false_ne_true)
  · -- a character that is no digit makes the word longer than the alias
    have hnot : digits.all isDecimalDigit = false := by
      rwa [← Bool.not_eq_true, List.all_eq_true]
    obtain ⟨c, cs, hdrop⟩ := List.exists_cons_of_ne_nil (mt List.dropWhile_eq_nil_iff.1 hall)
    have hc : isWordChar c = true := by
      refine hword c ((List.dropWhile_sublist isDecimalDigit).mem ?_)
      rw [hdrop]
      exact List.mem_cons_self
    have hshort : (digits.takeWhile isDecimalDigit).length ≠ digits.length := fun hlength => by
      have hsplit := congrArg List.length
        (List.takeWhile_append_dropWhile (p := isDecimalDigit) (l := digits))
      rw [List.length_append, hdrop, hlength, List.length_cons] at hsplit
      omega
    rw [List.dropWhile_append, List.takeWhile_append, hdrop, hnot, Bool.and_false, if_neg hshort]
    cases digits.takeWhile isDecimalDigit with
    | nil => rfl
    | cons d ds => exact if_pos hc

/-- A word that is not made longer by what follows is an alias as a whole, or none. -/
theorem aliasAtStart?_append (hword : ∀ c ∈ word, isWordChar c = true) (hrest : EndsWord rest) :
    aliasAtStart? (word ++ rest) = if isImportAlias word = true then some word else none := by
  cases hprefix : afterPrefix? "import".toList word with
  | none =>
    -- the word `import` cannot end behind the word, where a mark stands
    have hnone : afterPrefix? "import".toList (word ++ rest) = none := by
      rw [Option.eq_none_iff_forall_not_mem]
      intro digits hdigits
      rcases List.append_eq_append_iff.1 (afterPrefix?_eq_some_iff.1 hdigits) with
        ⟨start, himport, hstart⟩ | ⟨more, hmore, -⟩
      · cases start with
        | nil =>
          rw [List.append_nil] at himport
          rw [← himport] at hprefix
          exact nomatch hprefix
        | cons c start =>
          have hc : isWordChar c = true := by
            have hall : ∀ c ∈ "import".toList, isWordChar c = true := List.all_eq_true.1 (by decide)
            exact hall c (himport ▸ List.mem_append_right _ List.mem_cons_self)
          rw [hstart] at hrest
          exact absurd hc (by rw [hrest c rfl]; exact Bool.false_ne_true)
      · rw [afterPrefix?_eq_some_iff.2 hmore] at hprefix
        exact nomatch hprefix
    rw [aliasAtStart?, isImportAlias, hnone, hprefix]
    rfl
  | some digits =>
    obtain rfl := afterPrefix?_eq_some_iff.1 hprefix
    rw [List.forall_mem_append] at hword
    rw [aliasAtStart?_import hword.2 hrest, isImportAlias, hprefix]

/-- Inside a word no alias starts. -/
theorem findAlias?_afterWord (hword : ∀ c ∈ word, isWordChar c = true) :
    findAlias? true (word ++ rest) = findAlias? true rest := by
  induction word with
  | nil => rfl
  | cons c word ih =>
    rw [List.cons_append, findAlias?, hword c List.mem_cons_self,
      ih fun c hc => hword c (List.mem_cons_of_mem _ hc)]
    rfl

/-- A word is found if it is an alias. -/
theorem findAlias?_word (hword : ∀ c ∈ word, isWordChar c = true) (hne : word ≠ [])
    (hrest : EndsWord rest) : findAlias? false (word ++ rest) =
      (if isImportAlias word = true then some word else none).or (findAlias? true rest) := by
  rw [← aliasAtStart?_append hword hrest]
  obtain ⟨c, cs, rfl⟩ := List.exists_cons_of_ne_nil hne
  rw [List.forall_mem_cons] at hword
  rw [List.cons_append, findAlias?, hword.1, findAlias?_afterWord hword.2]
  rfl

/-- Between words no alias starts. -/
theorem findAlias?_mark {c : Char} (afterWord : Bool) (cs : List Char) (hc : isWordChar c = false) :
    findAlias? afterWord (c :: cs) = findAlias? false cs := by
  have hi : 'i' ≠ c := by rintro rfl; exact absurd hc (by decide)
  have hnone : aliasAtStart? (c :: cs) = none := by
    rw [aliasAtStart?, show "import".toList = 'i' :: "mport".toList from rfl, afterPrefix?, if_neg hi]
    rfl
  rw [findAlias?, hc, hnone, ite_self, Option.none_or]

end TypeText

/-- Whether a name is an alias of the form `importN`. -/
def Identifier.isAlias (n : Identifier) : Bool := TypeText.isImportAlias n.chars

namespace TypeExpr

/-! ## Names of a type -/

/-- The names that a type is written with, in order. -/
def names : TypeExpr → List Identifier
  | named package name => package.toList ++ [name]
  | pointer type => type.names
  | slice element => element.names
  | array _ element => element.names
  | map key value => key.names ++ value.names

/-- The first alias among the names of a type. -/
def firstAlias? (t : TypeExpr) : Option (List Char) :=
  (t.names.find? (·.isAlias)).map (·.chars)

open TypeText in
/-- The text of a type, with something behind it, is searched name by name. -/
theorem findAlias?_text (t : TypeExpr) {rest : List Char} (hrest : EndsWord rest) :
    findAlias? false (t.text ++ rest) = t.firstAlias?.or (findAlias? true rest) := by
  have name_text : ∀ (n : Identifier) {rest : List Char}, EndsWord rest →
      findAlias? false (n.chars ++ rest) =
        (([n].find? (·.isAlias)).map (·.chars)).or (findAlias? true rest) := fun n rest hrest => by
    rw [findAlias?_word n.word n.ne_nil hrest, List.find?_singleton, Identifier.isAlias,
      apply_ite (Option.map _)]
    rfl
  have ends : ∀ {c : Char} (cs : List Char), isWordChar c = false → EndsWord (c :: cs) :=
    fun cs hc x hx => Option.some.inj hx ▸ hc
  induction t generalizing rest with
  | named package name =>
    cases package with
    | none => exact name_text name hrest
    | some package =>
      rw [text, List.append_assoc, List.cons_append, name_text package (ends _ (by decide)),
        findAlias?_mark _ _ (by decide), name_text name hrest, firstAlias?, names, List.find?_append,
        Option.map_or, Option.or_assoc]
      rfl
  | pointer type ih =>
    rw [text, List.cons_append, findAlias?_mark _ _ (by decide)]
    exact ih hrest
  | slice element ih =>
    rw [text, List.cons_append, List.cons_append, findAlias?_mark _ _ (by decide),
      findAlias?_mark _ _ (by decide)]
    exact ih hrest
  | array length element ih =>
    -- the digits between the brackets are no alias
    obtain ⟨d, ds, hdigits⟩ := List.exists_cons_of_ne_nil length.ne_nil
    have hword : ∀ c ∈ length.digits, isWordChar c = true := fun c hc =>
      isWordChar_of_isDigit (length.digit c hc)
    have hnone : isImportAlias length.digits = false := by
      have hi : 'i' ≠ d := by
        rintro rfl
        exact absurd (length.digit 'i' (hdigits ▸ List.mem_cons_self)) (by decide)
      rw [isImportAlias, hdigits, show "import".toList = 'i' :: "mport".toList from rfl,
        afterPrefix?, if_neg hi]
    rw [text, List.cons_append, List.cons_append, List.append_assoc, List.cons_append,
      findAlias?_mark _ _ (by decide), findAlias?_word hword length.ne_nil (ends _ (by decide)), hnone,
      if_neg Bool.false_ne_true, Option.none_or, findAlias?_mark _ _ (by decide)]
    exact ih hrest
  | map key value ihkey ihvalue =>
    have hmap : ∀ cs, findAlias? false ("map[".toList ++ cs) = findAlias? false cs := fun cs => by
      have hword : ∀ c ∈ "map".toList, isWordChar c = true := List.all_eq_true.1 (by decide)
      show findAlias? false ("map".toList ++ '[' :: cs) = _
      rw [findAlias?_word hword (by decide) (ends _ (by decide)), findAlias?_mark _ _ (by decide)]
      rfl
    rw [text, List.append_assoc, List.append_assoc, List.cons_append, hmap, ihkey (ends _ (by decide)),
      findAlias?_mark _ _ (by decide), ihvalue hrest, firstAlias?, firstAlias?, firstAlias?, names,
      List.find?_append, Option.map_or, Option.or_assoc]

/-- The alias that is found in a type is the first one among its names. -/
theorem importAlias?_text (t : TypeExpr) : TypeText.importAlias? t.text = t.firstAlias? := by
  have hend : TypeText.EndsWord [] := nofun
  have hfind := t.findAlias?_text hend
  rw [List.append_nil, TypeText.findAlias?, Option.or_none] at hfind
  exact hfind

/-! ## The package of the declared type -/

/-- The package that the declared type is written with. -/
def package? : TypeExpr → Option Identifier
  | named package _ => package
  | pointer type => type.package?
  | slice element => element.package?
  | array _ element => element.package?
  | map _ value => value.package?

/-- The names in the keys of the maps that lead to the declared type. -/
def keyNames : TypeExpr → List Identifier
  | named _ _ => []
  | pointer type => type.keyNames
  | slice element => element.keyNames
  | array _ element => element.keyNames
  | map key value => key.names ++ value.keyNames

/-- The names of a type are those of its keys, and those that the declared type is written with. -/
theorem names_eq (t : TypeExpr) : t.names = t.keyNames ++ (t.package?.toList ++ [t.declared]) := by
  induction t with
  | named package name => rfl
  | pointer type ih => exact ih
  | slice element ih => exact ih
  | array length element ih => exact ih
  | map key value _ ih => rw [names, keyNames, List.append_assoc, ih]; rfl

/-- The alias that the declared type is qualified by, if it is qualified by one. -/
def qualifier? (t : TypeExpr) : Option (List Char) :=
  (t.package?.filter (·.isAlias)).map (·.chars)

/-- Nothing in a type can be taken for the package of its declared type: if that is known by an alias,
no key mentions another alias, and if not, neither a key nor the declared name looks like one. -/
def Unmistakable (t : TypeExpr) : Prop :=
  match t.qualifier? with
  | some package => ∀ n ∈ t.keyNames.find? (·.isAlias), n.chars = package
  | none => ∀ n ∈ t.keyNames ++ [t.declared], n.isAlias = false

/-- The alias that is found qualifies the declared type exactly if nothing else in the type can be
taken for it. -/
theorem firstAlias?_eq_qualifier?_iff (t : TypeExpr) :
    t.firstAlias? = t.qualifier? ↔ t.Unmistakable := by
  have hpackage : t.package?.toList.find? (·.isAlias) = t.package?.filter (·.isAlias) := by
    cases t.package? with
    | none => rfl
    | some package => rw [Option.toList_some, List.find?_singleton, Option.filter_some]
  rw [firstAlias?, names_eq, List.find?_append, List.find?_append, hpackage, Unmistakable, qualifier?]
  cases t.package?.filter (·.isAlias) with
  | none =>
    rw [Option.none_or, ← List.find?_append, Option.map_none, Option.map_eq_none_iff,
      List.find?_eq_none]
    simp only [Bool.not_eq_true]
  | some package =>
    rw [Option.some_or]
    cases t.keyNames.find? (·.isAlias) with
    | none => exact ⟨fun _ => nofun, fun _ => rfl⟩
    | some n =>
      exact ⟨fun h _ hn => Option.some.inj hn ▸ Option.some.inj h, fun h => congrArg some (h n rfl)⟩

end TypeExpr

end ProviderGlue.Go
