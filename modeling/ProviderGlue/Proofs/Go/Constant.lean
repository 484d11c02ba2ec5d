import ProviderGlue.Proofs.Go.Expression

/-!
# The values of constant expressions

Sums, differences and products are refused if they do not fit a word; a shift drops the bits that
leave the word.  That, and the texts that pass for one literal, are the only ways to a wrong value.

## Key results

- `Expression.value?_eq_some_iff`: when the word that is given is the value of the expression
- `constant?_evaluated`: values are exact up to dropped bits and misread zeros
- `constant?_inexact`: a source file with both exceptions
-/

namespace ProviderGlue.Go

open Text

/-! ## Exactness -/

/-- Shifting is refused for its amount only. -/
theorem shiftLeft?_eq_some_iff {a n v : Int64} :
    shiftLeft? a n = some v ↔ 0 ≤ n.toInt ∧ n.toInt < 64 ∧ a <<< n = v := by
  rw [shiftLeft?, Option.ite_none_right_eq_some, Int64.le_iff_toInt_le, Int64.lt_iff_toInt_lt,
    Option.some.injEq, and_assoc]
  rfl

namespace Expression

/-- Whether a shift drops bits of its value. -/
def LosesBits (iota : Int64) : Expression → Prop
  | joined left _ .shift _ right => ∃ a n, left.word? iota = some a ∧ right.word? iota = some n ∧
      0 ≤ n.toInt ∧ n.toInt < 64 ∧ ¬ FitsWord (a.toInt * 2 ^ n.toInt.toNat)
  | _ => False

/-- Whether the expression passes for one literal of another value. -/
def Misread (iota : Int64) (e : Expression) : Prop :=
  ∃ v, e.octal? = some v ∧ e.value? iota.toInt ≠ some v.toInt

end Expression

/-- Nothing but a sum or a difference passes for a literal. -/
theorem octal?_shift (left : Operand) (before after : Blanks) (right : Operand) :
    (Expression.joined left before .shift after right).octal? = none := by
  rw [← magnitude?_joined, magnitude?_eq_none (c := '<') (by simp [between, Operator.text])
    (by decide) (by decide) (by decide)]
  rfl

/-- Numbers other than shifted ones are joined exactly. -/
theorem Operator.value?_of_word? {op : Operator} {a b v : Int64} (hop : op ≠ .shift)
    (h : op.word? a b = some v) : op.value? a.toInt b.toInt = some v.toInt := by
  cases op with
  | shift => exact absurd rfl hop
  | plus | minus | times => exact congrArg some (toInt64?_eq_some_iff.1 h).symm

theorem Operator.value?_shift {a n : Int64} (hpos : 0 ≤ n.toInt) :
    shift.value? a.toInt n.toInt = some (a.toInt * 2 ^ n.toInt.toNat) :=
  if_pos hpos

/-- What the operands are found to be is joined exactly, unless bits are lost. -/
theorem apply?_cases {iota v : Int64} {left right : Operand} {op : Operator} (before after : Blanks)
    (h : op.apply? iota left right = some v) :
    (Expression.joined left before op after right).LosesBits iota ∨
      op.value? (left.value iota.toInt) (right.value iota.toInt) = some v.toInt := by
  obtain ⟨a, ha, h⟩ := Option.bind_eq_some_iff.1 h
  obtain ⟨b, hb, h⟩ := Option.bind_eq_some_iff.1 h
  rw [← Operand.toInt_of_word? ha, ← Operand.toInt_of_word? hb]
  by_cases hop : op = .shift
  · subst hop
    obtain ⟨hpos, hlt, rfl⟩ := shiftLeft?_eq_some_iff.1 h
    by_cases hfits : FitsWord (a.toInt * 2 ^ b.toInt.toNat)
    · rw [Operator.value?_shift hpos, toInt_shiftLeft hpos hlt, hfits.bmod_eq]
      exact .inr rfl
    · exact .inl ⟨a, b, ha, hb, hpos, hlt, hfits⟩
  · exact .inr (Operator.value?_of_word? hop h)

namespace Expression

variable {iota : Int64} {e : Expression}

/-- A word is given for an expression that passes for a literal, for the bits that a shift leaves and
for the exact value. -/
theorem word?_cases {v : Int64} (h : e.word? iota = some v) :
    e.octal? = some v ∨ e.LosesBits iota ∨ e.value? iota.toInt = some v.toInt := by
  cases e with
  | single o => exact .inr (.inr (congrArg some (Operand.toInt_of_word? h).symm))
  | joined left before op after right =>
    rw [word?] at h
    cases hoctal : (joined left before op after right).octal? with
    | some w =>
      rw [hoctal] at h
      exact .inl h
    | none =>
      rw [hoctal, Option.none_or] at h
      split at h
      · exact .inr (apply?_cases before after h)
      · contradiction

/-- An expression that passes for a literal is given the value of that. -/
theorem word?_of_octal? {v : Int64} (h : e.octal? = some v) : e.word? iota = some v := by
  cases e with
  | single o => contradiction
  | joined left before op after right => rw [word?, h, Option.some_or]

/-- Where bits are lost, the rest of them is given. -/
theorem LosesBits.word? (h : e.LosesBits iota) :
    ∃ v i, e.word? iota = some v ∧ e.value? iota.toInt = some i ∧ ¬ FitsWord i ∧
      v.toInt = i.bmod (2 ^ 64) := by
  cases e with
  | single o => exact h.elim
  | joined left before op after right =>
    cases op with
    | plus | minus | times => exact h.elim
    | shift =>
      obtain ⟨a, n, ha, hn, hpos, hlt, hfits⟩ := h
      refine ⟨a <<< n, a.toInt * 2 ^ n.toInt.toNat, ?_, ?_, hfits, toInt_shiftLeft hpos hlt⟩
      · rw [Expression.word?, octal?_shift, Option.none_or, Operator.isFound, if_pos rfl,
          Operator.apply?, ha, hn]
        exact shiftLeft?_eq_some_iff.2 ⟨hpos, hlt, rfl⟩
      · rw [value?, ← Operand.toInt_of_word? ha, ← Operand.toInt_of_word? hn,
          Operator.value?_shift hpos]

/-- Where bits are lost, no word is the value. -/
theorem LosesBits.value?_ne (h : e.LosesBits iota) {i : Int} (hfits : FitsWord i) :
    e.value? iota.toInt ≠ some i := by
  intro hi
  obtain ⟨v, j, -, hj, hfits', -⟩ := h.word?
  rw [hi] at hj
  exact hfits' (Option.some.inj hj ▸ hfits)

end Expression

/-! ## Completeness -/

/-- An operand without a minus sign, in the range of words. -/
def Operand.Plain (index : Int) (o : Operand) : Prop :=
  o.minus = none ∧ FitsWord (o.value index)

/-- An expression of plain operands.  The amount of a shift is less than the width of a word. -/
def Expression.Plain (index : Int) : Expression → Prop
  | single o => o.Plain index
  | joined left _ op _ right =>
    left.Plain index ∧ right.Plain index ∧ (op = .shift → right.value index < 64)

theorem Operand.Plain.word? {iota : Int64} {o : Operand} (h : o.Plain iota.toInt) :
    ∃ v, o.word? iota = some v := by
  obtain ⟨parens, minus, atom⟩ := o
  obtain ⟨rfl, hfits⟩ := h
  cases atom with
  | iota => exact ⟨iota, rfl⟩
  | literal l =>
    obtain ⟨v, hv⟩ := Option.ne_none_iff_exists'.1 fun h => toInt64?_eq_none_iff.1 h hfits
    exact ⟨v, congrArg (Option.map (signed none)) hv⟩

/-- Where the value fits, a word is made. -/
theorem Operator.exists_word? {op : Operator} {a b : Int64} {i : Int}
    (hi : op.value? a.toInt b.toInt = some i) (hfits : FitsWord i)
    (hamount : op = .shift → b.toInt < 64) : ∃ v, op.word? a b = some v := by
  cases op with
  | plus | minus | times =>
    rw [← Option.some.inj hi] at hfits
    exact Option.ne_none_iff_exists'.1 fun h => toInt64?_eq_none_iff.1 h hfits
  | shift =>
    obtain ⟨hpos, -⟩ := Option.ite_none_right_eq_some.1 hi
    exact ⟨a <<< b, shiftLeft?_eq_some_iff.2 ⟨hpos, hamount rfl, rfl⟩⟩

theorem Expression.Plain.word? {iota : Int64} {e : Expression} (h : e.Plain iota.toInt) {i : Int}
    (hi : e.value? iota.toInt = some i) (hfits : FitsWord i) : ∃ v, e.word? iota = some v := by
  cases e with
  | single o => exact Operand.Plain.word? h
  | joined left before op after right =>
    rw [Expression.word?]
    cases (joined left before op after right).octal? with
    | some v => exact ⟨v, rfl⟩
    | none =>
      obtain ⟨hleft, hright, hamount⟩ := h
      obtain ⟨a, ha⟩ := hleft.word?
      obtain ⟨b, hb⟩ := hright.word?
      rw [value?, ← Operand.toInt_of_word? ha, ← Operand.toInt_of_word? hb] at hi
      rw [← Operand.toInt_of_word? hb] at hamount
      have hfound : op.isFound left right = true := by
        cases op <;> simp [Operator.isFound, hleft.1, hright.1]
      rw [Option.none_or, if_pos hfound, Operator.apply?, ha, hb]
      exact Operator.exists_word? hi hfits hamount

/-! ## The evaluation -/

/-- How a constant expression is evaluated at a given `iota`. -/
structure Evaluated (iota : Int64) (e : Expression) (result : Option Int64) : Prop where
  /-- What is given is the value of the expression, but for the bits that a shift drops and for
  expressions that pass for one literal. -/
  exact : ∀ v, result = some v →
    (e.value? iota.toInt = some v.toInt ↔ ¬ e.LosesBits iota ∧ ¬ e.Misread iota)
  /-- A value that fits no word is refused, with the same exceptions. -/
  refused : ∀ i, e.value? iota.toInt = some i → ¬ FitsWord i →
    (result = none ↔ ¬ e.LosesBits iota ∧ ¬ e.Misread iota)
  /-- The value of plain operands is given if it fits. -/
  given : e.Plain iota.toInt → ∀ i, e.value? iota.toInt = some i → FitsWord i →
    ¬ e.Misread iota → ∃ v, result = some v ∧ v.toInt = i
  /-- Where a shift drops bits, the word of the others is given. -/
  dropped : e.LosesBits iota → ∃ v i, result = some v ∧ e.value? iota.toInt = some i ∧
    v.toInt = i.bmod (2 ^ 64)
  /-- Where the expression passes for a literal, the value of that is given. -/
  misread : e.Misread iota → result = e.octal?

/-- What is given is exact, up to dropped bits and misread zeros. -/
theorem Expression.value?_eq_some_iff {iota v : Int64} {e : Expression}
    (hv : e.word? iota = some v) :
    e.value? iota.toInt = some v.toInt ↔ ¬ e.LosesBits iota ∧ ¬ e.Misread iota := by
  constructor
  · intro hvalue
    refine ⟨fun hlost => hlost.value?_ne (fitsWord_toInt v) hvalue, ?_⟩
    rintro ⟨w, hw, hne⟩
    rw [word?_of_octal? hw] at hv
    rw [Option.some.inj hv] at hne
    exact hne hvalue
  · rintro ⟨hlost, hread⟩
    rcases word?_cases hv with hoctal | hlost' | hvalue
    · by_contra hne
      exact hread ⟨v, hoctal, hne⟩
    · exact absurd hlost' hlost
    · exact hvalue

/-- **The value of a constant expression is exact**, up to dropped bits and misread zeros. -/
theorem constant?_evaluated (iota : Int64) (first last : Blanks) (e : Expression) :
    Evaluated iota e (constant? iota (first.chars ++ e.text ++ last.chars)) := by
  rw [constant?_text]
  constructor
  case exact => exact fun v hv => Expression.value?_eq_some_iff hv
  case refused =>
    intro i hi hfits
    constructor
    · intro hnone
      refine ⟨fun hlost => ?_, ?_⟩
      · obtain ⟨v, -, hv, -⟩ := hlost.word?
        rw [hnone] at hv
        contradiction
      · rintro ⟨v, hv, -⟩
        rw [Expression.word?_of_octal? hv] at hnone
        contradiction
    · intro hright
      rw [Option.eq_none_iff_forall_ne_some]
      intro v hv
      rw [(Expression.value?_eq_some_iff hv).2 hright] at hi
      exact hfits (Option.some.inj hi ▸ fitsWord_toInt v)
  case given =>
    intro hplain i hi hfits hread
    obtain ⟨v, hv⟩ := hplain.word? hi hfits
    have hlost : ¬ e.LosesBits iota := fun hlost => hlost.value?_ne hfits hi
    rw [(Expression.value?_eq_some_iff hv).2 ⟨hlost, hread⟩] at hi
    exact ⟨v, hv, Option.some.inj hi⟩
  case dropped =>
    intro hlost
    obtain ⟨v, i, hv, hi, -, hword⟩ := hlost.word?
    exact ⟨v, i, hv, hi, hword⟩
  case misread =>
    rintro ⟨v, hv, -⟩
    rw [hv, Expression.word?_of_octal? hv]

/-! ## Exceptions -/

/-- A digit with nothing before it. -/
def Digit.decimal (value : Fin 10) : Digit 10 where
  separated := false
  char := Nat.digitChar value
  value := value
  digit := by decide +revert

/-- The literal with the given decimal digits. -/
def Literal.decimal (first : Fin 10) (rest : List (Fin 10)) (h : first = 0 → rest = []) :
    Literal where
  announcement := .none
  digits := (first :: rest).map .decimal
  ne_nil := nofun
  start := by
    rintro - d ⟨⟩
    refine ⟨rfl, fun hzero => ?_⟩
    have hfirst : ∀ v : Fin 10, (Digit.decimal v).char = '0' → v = 0 := by decide
    rw [h (hfirst first hzero)]
    rfl

/-- A literal as an operand. -/
def Literal.bare (l : Literal) : Operand := ⟨none, none, .literal l⟩

/-- The expression `1 << 63`. -/
def topBit : Expression :=
  .joined (Literal.decimal 1 [] nofun).bare .space .shift .space (Literal.decimal 6 [3] nofun).bare

/-- The expression `0+10`. -/
def zeroAndTen : Expression :=
  .joined (Literal.decimal 0 [] fun _ => rfl).bare .none .plus .none
    (Literal.decimal 1 [0] nofun).bare

/-- A source file with two constants that are read as words other than their values: the first one
loses its only bit and the second one is taken for an octal literal. -/
theorem constant?_inexact :
    (topBit.text = "1 << 63".toList ∧ topBit.value? 0 = some (2 ^ 63) ∧
      constant? 0 topBit.text = some Int64.minValue) ∧
    (zeroAndTen.text = "0+10".toList ∧ zeroAndTen.value? 0 = some 10 ∧
      constant? 0 zeroAndTen.text = some 8) ∧
    (SourceFile.read? "flags.go"
        "package a\n\nconst Top Flag = 1 << 63\n\nconst Ten Flag = 0+10\n".toList).map
      (·.constants) = some [⟨"Top", "Flag", Int64.minValue⟩, ⟨"Ten", "Flag", 8⟩] := by
  decide +kernel

end ProviderGlue.Go
