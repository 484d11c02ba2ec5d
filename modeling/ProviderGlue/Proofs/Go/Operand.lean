import ProviderGlue.Proofs.Go.Literal

/-!
# Operands

An operand of a constant expression is a literal or `iota`, with an optional minus sign and perhaps in
parentheses.  It is read from the text around an operator by taking off blanks and parentheses.

## Key results

- `operand?_framed`: what stands in parentheses and blanks is read without them
- `operand?_text`: what is read of a spelled operand
- `Operand.toInt_of_word?`: what is read is the value of the operand
-/

namespace ProviderGlue.Go

open Text Unicode

/-! ## Spelled operands -/

/-- A literal or `iota`. -/
inductive Atom where
  | literal (l : Literal)
  | iota

namespace Atom

/-- The atom as it is written. -/
def text : Atom → List Char
  | literal l => l.text
  | iota => "iota".toList

/-- The integer that the atom stands for. -/
def value (index : Int) : Atom → Int
  | literal l => l.value
  | iota => index

end Atom

/-- The text of an optional minus sign with the blanks behind it. -/
def signText : (minus : Option Blanks) → List Char
  | none => []
  | some gap => '-' :: gap.chars

/-- What an optional minus sign does to a number. -/
def signed {α : Type} [Neg α] : (minus : Option Blanks) → α → α
  | none, a => a
  | some _, a => -a

/-- The text of an optional parenthesis with the blanks behind it. -/
def openText : (parens : Option (Blanks × Blanks)) → List Char
  | none => []
  | some (gap, _) => '(' :: gap.chars

/-- The text of an optional parenthesis with the blanks before it. -/
def closeText : (parens : Option (Blanks × Blanks)) → List Char
  | none => []
  | some (_, gap) => gap.chars ++ [')']

/-- An atom with an optional minus sign, perhaps in parentheses. -/
structure Operand where
  parens : Option (Blanks × Blanks)
  minus : Option Blanks
  atom : Atom

namespace Operand

/-- The operand without its parentheses. -/
def core (o : Operand) : List Char := signText o.minus ++ o.atom.text

/-- The operand as it is written. -/
def text (o : Operand) : List Char := openText o.parens ++ o.core ++ closeText o.parens

/-- The integer that the operand stands for. -/
def value (index : Int) (o : Operand) : Int := signed o.minus (o.atom.value index)

end Operand

/-! ## Atoms -/

namespace Atom

theorem text_ne_nil : (a : Atom) → a.text ≠ []
  | literal l => l.text_ne_nil
  | iota => nofun

theorem isWordChar_of_mem {c : Char} : (a : Atom) → c ∈ a.text → isWordChar c = true
  | literal l, h => l.isWordChar_of_mem h
  | iota, h => List.all_eq_true.1 (by decide : "iota".toList.all isWordChar = true) c h

theorem not_mem_text {c : Char} (a : Atom) (h : isWordChar c = false) : c ∉ a.text := by
  intro hmem
  rw [a.isWordChar_of_mem hmem] at h
  contradiction

theorem solid_text (a : Atom) : Solid a.text :=
  .of_not_blank a.text_ne_nil fun _ hc => isBlank_of_isWordChar (a.isWordChar_of_mem hc)

end Atom

/-! ## Cores -/

/-- A text that is left if parentheses and blanks around it are taken off. -/
structure Core (text : List Char) : Prop extends Solid text where
  opened : text.head? ≠ some '('
  closed : text.getLast? ≠ some ')'

theorem Core.append {first last : List Char} (hfirst : Core first) (middle : List Char)
    (hlast : Core last) : Core (first ++ middle ++ last) where
  toSolid := hfirst.toSolid.append middle hlast.toSolid
  opened := by
    rw [List.append_assoc, List.head?_append_of_ne_nil _ hfirst.ne_nil]
    exact hfirst.opened
  closed := by
    rw [List.getLast?_append_of_ne_nil _ hlast.ne_nil]
    exact hlast.closed

theorem Atom.core_text (a : Atom) : Core a.text where
  toSolid := a.solid_text
  opened h := a.not_mem_text (by decide : isWordChar '(' = false) (List.mem_of_mem_head? h)
  closed h := a.not_mem_text (by decide : isWordChar ')' = false) (List.mem_of_getLast? h)

theorem Operand.core_core (o : Operand) : Core o.core := by
  have hatom := o.atom.core_text
  cases hminus : o.minus with
  | none =>
    rw [core, hminus]
    exact hatom
  | some gap =>
    rw [core, hminus]
    have hsign : Core ['-'] :=
      { toSolid := .singleton (by decide)
        opened := by decide
        closed := by decide }
    exact hsign.append gap.chars hatom

/-- Opening parentheses are dropped from the start of a text. -/
theorem dropWhile_openText (l : Option (Blanks × Blanks)) {core : List Char} (hcore : Core core)
    (rest : List Char) : ∃ gap : Blanks,
      (openText l ++ core ++ rest).dropWhile (· = '(') = gap.chars ++ core ++ rest := by
  obtain ⟨c, cs, rfl⟩ := List.exists_cons_of_ne_nil hcore.ne_nil
  have hc : c ≠ '(' := fun h => hcore.opened (congrArg some h)
  cases l with
  | none => exact ⟨.none, List.dropWhile_cons_of_neg (by simpa using hc)⟩
  | some gaps =>
    obtain ⟨gap, -⟩ := gaps
    refine ⟨gap, (List.dropWhile_cons_of_pos rfl).trans ?_⟩
    refine dropWhile_eq_self fun d hd => decide_eq_false ?_
    -- the first character behind the parenthesis is a blank or starts the core
    cases hgap : gap.chars with
    | nil =>
      rw [hgap] at hd
      rwa [← Option.some.inj hd]
    | cons b bs =>
      rw [hgap] at hd
      obtain rfl := Option.some.inj hd
      have hblank := gap.blank b (hgap ▸ List.mem_cons_self)
      rintro rfl
      contradiction

/-- Closing parentheses are dropped from the end of a text. -/
theorem dropEndWhile_closeText (r : Option (Blanks × Blanks)) {core : List Char} (hcore : Core core)
    (rest : List Char) : ∃ gap : Blanks,
      dropEndWhile (· = ')') (rest ++ core ++ closeText r) = rest ++ core ++ gap.chars := by
  cases r with
  | none =>
    refine ⟨.none, ?_⟩
    rw [closeText, Blanks.none, List.append_nil]
    refine dropEndWhile_eq_self fun c hc => decide_eq_false ?_
    rw [List.getLast?_append_of_ne_nil _ hcore.ne_nil] at hc
    rintro rfl
    exact hcore.closed hc
  | some gaps =>
    obtain ⟨-, gap⟩ := gaps
    refine ⟨gap, ?_⟩
    rw [closeText, ← List.append_assoc, dropEndWhile_append (List.forall_mem_singleton.2 rfl)]
    refine dropEndWhile_eq_self fun c hc => decide_eq_false ?_
    rintro rfl
    rw [List.getLast?_append] at hc
    cases hgap : gap.chars.getLast? with
    | none =>
      rw [hgap, Option.none_or, List.getLast?_append_of_ne_nil _ hcore.ne_nil] at hc
      exact hcore.closed hc
    | some d =>
      rw [hgap, Option.some_or] at hc
      obtain rfl := Option.some.inj hc
      have hblank := gap.blank _ (List.mem_of_getLast? hgap)
      contradiction

/-- Parentheses make no difference to the ends of a text. -/
theorem solid_framed (l r : Option (Blanks × Blanks)) {core : List Char} (hcore : Core core) :
    Solid (openText l ++ core ++ closeText r) := by
  have hopen : Solid (openText l ++ core) := by
    cases l with
    | none => exact hcore.toSolid
    | some gaps =>
      have hparen : Solid ['('] := .singleton (by decide)
      exact hparen.append gaps.1.chars hcore.toSolid
  cases r with
  | none => rwa [closeText, List.append_nil]
  | some gaps =>
    have hparen : Solid [')'] := .singleton (by decide)
    rw [closeText, ← List.append_assoc]
    exact hopen.append gaps.2.chars hparen

theorem Operand.solid_text (o : Operand) : Solid o.text :=
  solid_framed o.parens o.parens o.core_core

/-- The parentheses and blanks around an operand are taken off. -/
theorem operand?_framed (iota : Int64) (before after : Blanks) {core : List Char}
    (l r : Option (Blanks × Blanks)) (hcore : Core core) :
    operand? iota (before.chars ++ (openText l ++ core ++ closeText r) ++ after.chars) =
      if core = "iota".toList then some iota else intLiteral? core := by
  obtain ⟨first, hfirst⟩ := dropWhile_openText l hcore (closeText r)
  obtain ⟨last, hlast⟩ := dropEndWhile_closeText r hcore first.chars
  rw [operand?, trim_blanks (solid_framed l r hcore) before after, hfirst, hlast,
    trim_blanks hcore.toSolid]

/-! ## Operands -/

/-- A minus sign negates what is read behind it. -/
theorem intLiteral?_signed (minus : Option Blanks) {body : List Char} (hsolid : Solid body)
    (hminus : body.head? ≠ some '-') :
    intLiteral? (signText minus ++ body) = (magnitude? body).map (signed minus) := by
  cases minus with
  | none =>
    have htrim : trim (signText none ++ body) = body := hsolid.trim_eq
    rw [intLiteral?_of_not_minus, htrim]
    · exact (Option.map_id' ..).symm
    · intro rest h
      rw [htrim] at h
      exact hminus (by rw [h]; rfl)
  | some gap =>
    have hsign : Solid ['-'] := .singleton (by decide)
    have htrim : trim (signText (some gap) ++ body) = '-' :: (gap.chars ++ body) :=
      (hsign.append gap.chars hsolid).trim_eq
    rw [intLiteral?_of_minus htrim, hsolid.trimStart_eq]
    rfl

/-- Nothing that starts with `iota` is a literal. -/
theorem magnitude?_iota (tail : List Char) : magnitude? ("iota".toList ++ tail) = none := by
  have hnone : readNat? 10 ('i' :: 'o' :: 't' :: 'a' :: tail.filter (· ≠ '_')) = none :=
    readNat?_eq_none List.mem_cons_self rfl
  show (readNat? 10 ('i' :: 'o' :: 't' :: 'a' :: tail.filter (· ≠ '_'))).bind
    (fun n => toInt64? n) = none
  rw [hnone]
  rfl

/-- Only `iota` without a sign is written as `iota`. -/
theorem Operand.core_eq_iota_iff (o : Operand) :
    o.core = "iota".toList ↔ o.minus = none ∧ o.atom = .iota := by
  rw [core]
  constructor
  · intro h
    cases hminus : o.minus with
    | some gap =>
      rw [hminus] at h
      exact absurd (List.cons.inj h).1 (by decide)
    | none =>
      cases hatom : o.atom with
      | iota => exact ⟨rfl, rfl⟩
      | literal l =>
        rw [hminus, hatom] at h
        have htext : l.text = "iota".toList := h
        exact absurd (htext ▸ List.mem_cons_self) l.not_mem_i
  · rintro ⟨hminus, hatom⟩
    rw [hminus, hatom]
    rfl

/-- The word that is read of an operand. -/
def Operand.word? (iota : Int64) (o : Operand) : Option Int64 :=
  match o.atom, o.minus with
  | .iota, none => some iota
  | .iota, some _ => none
  | .literal l, minus => (toInt64? l.value).map (signed minus)

/-- An operand is read with blanks around it. -/
theorem operand?_text (iota : Int64) (before after : Blanks) (o : Operand) :
    operand? iota (before.chars ++ o.text ++ after.chars) = o.word? iota := by
  rw [Operand.text, operand?_framed iota before after _ _ o.core_core]
  split
  · next hiota =>
    obtain ⟨hminus, hatom⟩ := o.core_eq_iota_iff.1 hiota
    rw [Operand.word?, hatom, hminus]
  · next hiota =>
    rw [Operand.core_eq_iota_iff] at hiota
    rw [Operand.core, intLiteral?_signed _ o.atom.solid_text
      fun hhead => o.atom.not_mem_text (by decide) (List.mem_of_mem_head? hhead), Operand.word?]
    cases hatom : o.atom with
    | literal l => rw [Atom.text, l.magnitude?_text]
    | iota =>
      rw [Atom.text, ← List.append_nil "iota".toList, magnitude?_iota]
      cases hminus : o.minus with
      | none => exact absurd ⟨hminus, hatom⟩ hiota
      | some gap => rfl

/-- What is read of an operand is its value. -/
theorem Operand.toInt_of_word? {iota v : Int64} {o : Operand} (h : o.word? iota = some v) :
    v.toInt = o.value iota.toInt := by
  obtain ⟨parens, minus, atom⟩ := o
  cases atom with
  | iota =>
    cases minus with
    | none => rw [← Option.some.inj h]; rfl
    | some gap => contradiction
  | literal l =>
    obtain ⟨w, hw, rfl⟩ := Option.map_eq_some_iff.1 h
    rw [toInt64?_eq_some_iff] at hw
    cases minus with
    | none => exact hw
    | some gap =>
      have hne : w ≠ Int64.minValue := by
        rintro rfl
        have hnonneg : (0 : Int) ≤ l.value := Int.natCast_nonneg _
        rw [← hw] at hnonneg
        contradiction
      show (-w).toInt = -(l.value : Int)
      rw [toInt_neg hne, hw]

end ProviderGlue.Go
