import ProviderGlue.Proofs.Go.Operand

/-!
# Spelled expressions

A constant expression is evaluated on its text: the whole text is tried as an operand, then it is cut
at the first `<<`, `+`, `-` or `*`.  On the text of an expression that is spelled from its operands
this comes to an evaluation of the operands.

## Key results

- `operand?_joined`: when two joined operands pass for one literal
- `joined?_joined`: when the operator is found between two operands
- `constant?_text`: the evaluation in terms of the spelled operands
-/

namespace ProviderGlue.Go

open Text Unicode

/-! ## Spelled expressions -/

/-- The operators of constant expressions. -/
inductive Operator where
  | plus
  | minus
  | times
  | shift
deriving DecidableEq

namespace Operator

/-- The operator as it is written. -/
def text : Operator → List Char
  | plus => ['+']
  | minus => ['-']
  | times => ['*']
  | shift => ['<', '<']

/-- The value of two numbers that are joined by the operator, if there is one. -/
def value? : Operator → Int → Int → Option Int
  | plus, a, b => some (a + b)
  | minus, a, b => some (a - b)
  | times, a, b => some (a * b)
  | shift, a, b => if 0 ≤ b then some (a * 2 ^ b.toNat) else none

/-- No operator is part of a word, of the blanks or of the parentheses around it. -/
theorem mark (op : Operator) :
    ∀ c ∈ op.text, isWordChar c = false ∧ isBlank c = false ∧ c ≠ '(' ∧ c ≠ ')' := by
  cases op with
  | plus | minus | times => exact List.forall_mem_singleton.2 (by decide)
  | shift => exact List.forall_mem_cons.2 ⟨by decide, List.forall_mem_singleton.2 (by decide)⟩

theorem text_ne_nil (op : Operator) : op.text ≠ [] := by
  cases op <;> exact nofun

/-- Only a shift is written with angle brackets. -/
theorem not_mem_of_ne {op : Operator} (h : op ≠ shift) : '<' ∉ op.text := by
  cases op with
  | shift => exact absurd rfl h
  | plus | minus | times => decide

end Operator

/-- One operand, or two that are joined by an operator with blanks around it. -/
inductive Expression where
  | single (o : Operand)
  | joined (left : Operand) (before : Blanks) (op : Operator) (after : Blanks) (right : Operand)

namespace Expression

/-- The expression as it is written. -/
def text : Expression → List Char
  | single o => o.text
  | joined left before op after right =>
    left.text ++ before.chars ++ op.text ++ after.chars ++ right.text

/-- The exact value of the expression, if it has one. -/
def value? (index : Int) : Expression → Option Int
  | single o => some (o.value index)
  | joined left _ op _ right => op.value? (left.value index) (right.value index)

theorem solid_text : (e : Expression) → Solid e.text
  | single o => o.solid_text
  | joined left before op after right => by
    have hsolid := left.solid_text.append (before.chars ++ op.text ++ after.chars) right.solid_text
    simpa only [text, List.append_assoc] using hsolid

end Expression

/-! ## Expressions that pass for one literal -/

/-- The word that a sign makes of a number. -/
def Operator.signed? : Operator → Nat → Option Int64
  | plus, n => toInt64? n
  | minus, n => toInt64? (-n)
  | times, _ | shift, _ => none

/-- The word that is read if the whole expression passes for one literal: a bare zero, directly
followed by a sign and octal digits.  The zero is taken for the announcement of the radix. -/
def Expression.octal? : Expression → Option Int64
  | joined ⟨none, minus, .literal l⟩ before op after right =>
    if l.IsZero ∧ before.chars = [] then
      ((readNat? 8 ((after.chars ++ right.text).filter (· ≠ '_'))).bind op.signed?).map
        (signed minus)
    else none
  | _ => none

/-- What stands between the cores of two joined operands. -/
def between (left : Operand) (before : Blanks) (op : Operator) (after : Blanks) (right : Operand) :
    List Char :=
  closeText left.parens ++ before.chars ++ op.text ++ after.chars ++ openText right.parens

/-- A parenthesis is no digit, so it makes no difference whether it is closed. -/
theorem readNat?_closeText (radix : Nat) (after : Blanks) (right : Operand) :
    readNat? radix ((after.chars ++ openText right.parens ++ right.core).filter (· ≠ '_')) =
      readNat? radix ((after.chars ++ right.text).filter (· ≠ '_')) := by
  cases hparens : right.parens with
  | none =>
    rw [Operand.text, hparens, closeText, List.append_nil, List.append_assoc]
  | some gaps =>
    have hword : isWordChar '(' = false := by decide
    have hnone : ∀ text : List Char, '(' ∈ text → readNat? radix (text.filter (· ≠ '_')) = none :=
      fun text h => readNat?_eq_none (mem_filter_underscore h hword) (digitIn_eq_none hword)
    rw [Operand.text, hparens, hnone _ (by simp [openText]), hnone _ (by simp [openText])]

/-- A zero and a sign directly behind it announce an octal literal. -/
theorem magnitude?_zero (op : Operator) (rest : List Char) :
    magnitude? ('0' :: (op.text ++ rest)) =
      (readNat? 8 (rest.filter (· ≠ '_'))).bind op.signed? := by
  cases op with
  | plus | minus => rfl
  | times =>
    rw [magnitude?_eq_none (c := '*') (by simp [Operator.text]) (by decide) (by decide) (by decide)]
    exact (Option.bind_fun_none ..).symm
  | shift =>
    rw [magnitude?_eq_none (c := '<') (by simp [Operator.text]) (by decide) (by decide) (by decide)]
    exact (Option.bind_fun_none ..).symm

/-- Blanks occur in no literal. -/
theorem magnitude?_blank {text : List Char} (gap : Blanks) (hgap : gap.chars ≠ [])
    (h : gap.chars ⊆ text) : magnitude? text = none := by
  obtain ⟨b, hb⟩ := List.exists_mem_of_ne_nil _ hgap
  have hblank := gap.blank b hb
  have hsign : ∀ d, isBlank d = false → b ≠ d := by
    rintro d hd rfl
    rw [hblank] at hd
    contradiction
  exact magnitude?_eq_none (h hb) (isWordChar_of_isBlank hblank) (hsign _ (by decide))
    (hsign _ (by decide))

theorem magnitude?_joined (left : Operand) (before : Blanks) (op : Operator) (after : Blanks)
    (right : Operand) :
    (magnitude? (left.atom.text ++ (between left before op after right ++ right.core))).map
        (signed left.minus) = (Expression.joined left before op after right).octal? := by
  obtain ⟨parens, minus, atom⟩ := left
  cases parens with
  | some gaps =>
    -- the closing parenthesis of the first operand stands in the middle
    rw [magnitude?_eq_none (c := ')') (by simp [between, closeText])
      (by decide) (by decide) (by decide)]
    rfl
  | none =>
    cases atom with
    | iota =>
      rw [Atom.text, magnitude?_iota]
      rfl
    | literal l =>
      rw [Expression.octal?, Atom.text]
      by_cases hzero : l.IsZero
      · by_cases hbefore : before.chars = []
        · have htext :
              l.text ++ (between ⟨none, minus, .literal l⟩ before op after right ++ right.core) =
                '0' :: (op.text ++ (after.chars ++ openText right.parens ++ right.core)) := by
            simp only [between, closeText, l.text_of_isZero hzero, hbefore, List.append_assoc,
              List.nil_append, List.cons_append]
          rw [if_pos ⟨hzero, hbefore⟩, htext, magnitude?_zero, readNat?_closeText]
        · rw [if_neg fun h => hbefore h.2, magnitude?_blank before hbefore]
          · rfl
          · intro b hb
            simp [between, hb]
      · -- digits cannot be followed by an operator
        obtain ⟨c, hc⟩ := List.exists_mem_of_ne_nil _ op.text_ne_nil
        rw [if_neg fun h => hzero h.1,
          l.magnitude?_eq_none hzero (c := c) (by simp [between, hc]) (op.mark c hc).1]
        rfl

/-- Two joined operands are read as one only if they pass for one literal. -/
theorem operand?_joined (iota : Int64) (first last : Blanks) (left : Operand) (before : Blanks)
    (op : Operator) (after : Blanks) (right : Operand) :
    operand? iota (first.chars ++ (Expression.joined left before op after right).text ++ last.chars) =
      (Expression.joined left before op after right).octal? := by
  have htext : (Expression.joined left before op after right).text = openText left.parens ++
      (left.core ++ between left before op after right ++ right.core) ++ closeText right.parens := by
    simp only [Expression.text, Operand.text, between, List.append_assoc]
  have hcore : left.core ++ between left before op after right ++ right.core = signText left.minus ++
      (left.atom.text ++ (between left before op after right ++ right.core)) := by
    simp only [Operand.core, List.append_assoc]
  have hsolid : Solid (left.atom.text ++ (between left before op after right ++ right.core)) := by
    rw [← List.append_assoc]
    exact left.atom.solid_text.append _ right.core_core.toSolid
  have hsign : (left.atom.text ++ (between left before op after right ++ right.core)).head? ≠
      some '-' := by
    rw [List.head?_append_of_ne_nil _ left.atom.text_ne_nil]
    exact fun h => left.atom.not_mem_text (by decide) (List.mem_of_mem_head? h)
  have hiota : left.core ++ between left before op after right ++ right.core ≠ "iota".toList := by
    intro h
    obtain ⟨c, hc⟩ := List.exists_mem_of_ne_nil _ op.text_ne_nil
    have hmem : c ∈ "iota".toList := by
      rw [← h]
      simp [between, hc]
    exact Atom.iota.not_mem_text (op.mark c hc).1 hmem
  rw [htext, operand?_framed iota first last _ _ (left.core_core.append _ right.core_core),
    if_neg hiota, hcore, intLiteral?_signed _ hsolid hsign, magnitude?_joined]

/-! ## Cuts at operators -/

/-- A text is cut at the first occurrence of an operator, unless nothing stands before it. -/
theorem splitOperator?_append {c : Char} {left right : List Char} (first last : Blanks)
    (hsolid : Solid (left ++ c :: right)) (h : c ∉ left) :
    splitOperator? c (first.chars ++ (left ++ c :: right) ++ last.chars) =
      if trim left = [] then none else some (left, right) := by
  rw [splitOperator?, trim_blanks hsolid, splitOnce?_append right h, Option.filter_some]
  show (if (!(trim left).isEmpty) = true then _ else _) = _
  cases trim left <;> rfl

theorem splitOperator?_eq_none {c : Char} {text : List Char} (first last : Blanks)
    (hsolid : Solid text) (h : c ∉ text) :
    splitOperator? c (first.chars ++ text ++ last.chars) = none := by
  rw [splitOperator?, trim_blanks hsolid, splitOnce?_eq_none h]
  rfl

/-- Operands have no marks of operators but their minus sign. -/
theorem Operand.not_mem_text {c : Char} (o : Operand) (op : Operator) (hc : c ∈ op.text)
    (hminus : c = '-' → o.minus = none) : c ∉ o.text := by
  obtain ⟨hword, hblank, hopen, hclose⟩ := op.mark c hc
  have hgap : ∀ gap : Blanks, c ∉ gap.chars := fun gap => gap.not_mem hblank
  rw [text, core, List.mem_append, List.mem_append, List.mem_append, not_or, not_or, not_or]
  refine ⟨⟨?opening, ?sign, o.atom.not_mem_text hword⟩, ?closing⟩
  case opening =>
    cases o.parens with
    | none => exact List.not_mem_nil
    | some gaps => exact List.not_mem_cons_of_ne_of_not_mem hopen (hgap gaps.1)
  case sign =>
    cases h : o.minus with
    | none => exact List.not_mem_nil
    | some gap =>
      refine List.not_mem_cons_of_ne_of_not_mem (fun heq => ?_) (hgap gap)
      rw [hminus heq] at h
      contradiction
  case closing =>
    cases o.parens with
    | none => exact List.not_mem_nil
    | some gaps =>
      rw [closeText, List.mem_append, not_or]
      exact ⟨hgap gaps.2, List.not_mem_cons_of_ne_of_not_mem hclose List.not_mem_nil⟩

/-- Operands have no marks of other operators. -/
theorem Operand.not_mem_text_of_ne {c : Char} (o : Operand) (op : Operator) (hc : c ∈ op.text)
    (hne : c ≠ '-') : c ∉ o.text :=
  o.not_mem_text op hc fun heq => absurd heq hne

/-- A joined expression has no marks of operators but its own and minus signs. -/
theorem Expression.not_mem_joined {c : Char} {left right : Operand} {op : Operator}
    (before after : Blanks) (other : Operator) (hc : c ∈ other.text) (hop : c ∉ op.text)
    (hminus : c = '-' → left.minus = none ∧ right.minus = none) :
    c ∉ (joined left before op after right).text := by
  have hblank := (other.mark c hc).2.1
  simp only [text, List.mem_append, not_or]
  exact ⟨⟨⟨⟨left.not_mem_text other hc fun h => (hminus h).1, before.not_mem hblank⟩, hop⟩,
    after.not_mem hblank⟩, right.not_mem_text other hc fun h => (hminus h).2⟩

section

variable (iota : Int64) {text : List Char} {op : Char} (f : Int → Int → Int)
  (ops : List (Char × (Int → Int → Int)))

theorem joined?_of_none (h : splitOperator? op text = none) :
    joined? iota text ((op, f) :: ops) = joined? iota text ops := by
  rw [joined?, h]

theorem joined?_of_some {left right : List Char} (h : splitOperator? op text = some (left, right)) :
    joined? iota text ((op, f) :: ops) =
      (operand? iota left).bind fun a => (operand? iota right).bind fun b =>
        toInt64? (f a.toInt b.toInt) := by
  rw [joined?, h]
  rfl

end

/-- An opening parenthesis is no operand. -/
theorem operand?_open (iota : Int64) (gap : Blanks) : operand? iota ('(' :: gap.chars) = none := by
  have hparen : Solid ['('] := .singleton (by decide)
  have htrim : trim ('(' :: gap.chars) = ['('] := trim_blanks hparen .none gap
  rw [operand?, htrim]
  rfl

theorem minus_not_mem_openText (l : Option (Blanks × Blanks)) : '-' ∉ openText l := by
  cases l with
  | none => exact List.not_mem_nil
  | some gaps => exact List.not_mem_cons_of_ne_of_not_mem (by decide) (gaps.1.not_mem (by decide))

/-- The minus sign of the first operand is passed over at the start of the text, but behind a
parenthesis it is taken for an operator. -/
theorem joined?_signed (iota : Int64) (first last : Blanks) {o : Operand} {gap : Blanks}
    {rest : List Char} (hminus : o.minus = some gap) (hsolid : Solid (o.text ++ rest))
    (f : Int → Int → Int) (ops : List (Char × (Int → Int → Int))) :
    joined? iota (first.chars ++ (o.text ++ rest) ++ last.chars) (('-', f) :: ops) =
      if o.parens.isNone then joined? iota (first.chars ++ (o.text ++ rest) ++ last.chars) ops
      else none := by
  have htext : o.text ++ rest =
      openText o.parens ++ '-' :: (gap.chars ++ o.atom.text ++ closeText o.parens ++ rest) := by
    rw [Operand.text, Operand.core, hminus, signText]
    simp only [List.append_assoc, List.cons_append]
  have hcut := splitOperator?_append first last (htext ▸ hsolid) (minus_not_mem_openText o.parens)
  rw [← htext] at hcut
  cases hparens : o.parens with
  | none =>
    rw [hparens] at hcut
    exact joined?_of_none iota f ops hcut
  | some gaps =>
    have hne : trim (openText (some gaps)) ≠ [] :=
      List.ne_nil_of_mem (mem_trim_of_mem List.mem_cons_self (by decide : isBlank '(' = false))
    rw [hparens, if_neg hne] at hcut
    rw [joined?_of_some iota f ops hcut, openText, operand?_open]
    rfl

/-- No operand has a product sign. -/
theorem operand?_eq_none (iota : Int64) {text : List Char} (h : '*' ∈ text) :
    operand? iota text = none := by
  have hword : isWordChar '*' = false := by decide
  have hblank : isBlank '*' = false := by decide
  have hmem : '*' ∈ trim (dropEndWhile (· = ')') ((trim text).dropWhile (· = '('))) :=
    mem_trim_of_mem (List.mem_reverse.2 (mem_dropWhile_of_not (List.mem_reverse.2
      (mem_dropWhile_of_not (mem_trim_of_mem h hblank) rfl)) rfl)) hblank
  rw [operand?]
  generalize trim (dropEndWhile (· = ')') ((trim text).dropWhile (· = '('))) = inner at hmem
  have htrim := mem_trim_of_mem hmem hblank
  rw [if_neg]
  · unfold intLiteral?
    split
    · next rest hrest =>
      rw [hrest] at htrim
      have hrest := mem_dropWhile_of_not (List.mem_of_ne_of_mem (by decide) htrim) hblank
      rw [trimStart, magnitude?_eq_none hrest hword (by decide) (by decide)]
      rfl
    · exact magnitude?_eq_none htrim hword (by decide) (by decide)
  · rintro rfl
    exact Atom.iota.not_mem_text hword hmem

/-! ## The evaluation of spelled expressions -/

/-- The word that is made of two words. -/
def Operator.word? : Operator → Int64 → Int64 → Option Int64
  | plus, a, b => toInt64? (a.toInt + b.toInt)
  | minus, a, b => toInt64? (a.toInt - b.toInt)
  | times, a, b => toInt64? (a.toInt * b.toInt)
  | shift, a, b => shiftLeft? a b

/-- Whether the text of two operands is cut at their operator.  A minus sign of an operand may be
taken for an operator that is looked for earlier. -/
def Operator.isFound (left right : Operand) : Operator → Bool
  | plus | shift => true
  | minus => left.minus.isNone
  | times => if left.minus.isNone then right.minus.isNone else left.parens.isNone

/-- The word that is made of the words of two operands. -/
def Operator.apply? (iota : Int64) (left right : Operand) (op : Operator) : Option Int64 :=
  (left.word? iota).bind fun a => (right.word? iota).bind fun b => op.word? a b

/-- The word that an expression is evaluated to. -/
def Expression.word? (iota : Int64) : Expression → Option Int64
  | single o => o.word? iota
  | joined left before op after right =>
    (joined left before op after right).octal?.or
      (if op.isFound left right then op.apply? iota left right else none)

section

variable (iota : Int64) (first last : Blanks) (left : Operand) (before : Blanks) (after : Blanks)
  (right : Operand)

theorem operand?_left : operand? iota (left.text ++ before.chars) = left.word? iota :=
  operand?_text iota .none before left

theorem operand?_right : operand? iota (after.chars ++ right.text) = right.word? iota := by
  have htext := operand?_text iota after .none right
  rwa [Blanks.none, List.append_nil] at htext

/-- Where the operator is the first mark of its kind, the operands stand on both sides of it. -/
theorem joined?_found {op : Operator} {c : Char} (hop : op.text = [c]) (hleft : c ∉ left.text)
    (f : Int → Int → Int) (ops : List (Char × (Int → Int → Int))) :
    joined? iota (first.chars ++ (Expression.joined left before op after right).text ++ last.chars)
        ((c, f) :: ops) =
      (left.word? iota).bind fun a => (right.word? iota).bind fun b =>
        toInt64? (f a.toInt b.toInt) := by
  have hc : c ∈ op.text := by
    rw [hop]
    exact List.mem_singleton_self c
  have htext : (Expression.joined left before op after right).text =
      (left.text ++ before.chars) ++ c :: (after.chars ++ right.text) := by
    simp only [Expression.text, hop, List.append_assoc, List.cons_append, List.nil_append]
  have hnot : c ∉ left.text ++ before.chars := by
    rw [List.mem_append, not_or]
    exact ⟨hleft, before.not_mem (op.mark c hc).2.1⟩
  have hsolid := (Expression.joined left before op after right).solid_text
  have htrim : trim (left.text ++ before.chars) = left.text :=
    trim_blanks left.solid_text .none before
  have hcut := splitOperator?_append first last (htext ▸ hsolid) hnot
  rw [htrim, if_neg left.solid_text.ne_nil, ← htext] at hcut
  rw [joined?_of_some iota f ops hcut, operand?_left, operand?_right]

/-- An operator that does not occur is not found. -/
theorem joined?_skip {op : Operator} (other : Operator) {c : Char} (hc : c ∈ other.text)
    (hop : c ∉ op.text) (hminus : c = '-' → left.minus = none ∧ right.minus = none)
    (f : Int → Int → Int) (ops : List (Char × (Int → Int → Int))) :
    joined? iota (first.chars ++ (Expression.joined left before op after right).text ++ last.chars)
        ((c, f) :: ops) =
      joined? iota (first.chars ++ (Expression.joined left before op after right).text ++ last.chars)
        ops :=
  joined?_of_none iota f ops (splitOperator?_eq_none first last (Expression.solid_text _)
    (Expression.not_mem_joined before after other hc hop hminus))

/-- A minus sign of the first operand is passed over unless it stands in parentheses. -/
theorem joined?_minus_left {op : Operator} (hminus : left.minus.isNone = false)
    (f : Int → Int → Int) (ops : List (Char × (Int → Int → Int))) :
    joined? iota (first.chars ++ (Expression.joined left before op after right).text ++ last.chars)
        (('-', f) :: ops) =
      if left.parens.isNone then
        joined? iota (first.chars ++ (Expression.joined left before op after right).text ++ last.chars)
          ops
      else none := by
  obtain ⟨gap, hgap⟩ := Option.isSome_iff_exists.1 (Option.isNone_eq_false_iff.1 hminus)
  have htext : (Expression.joined left before op after right).text =
      left.text ++ (before.chars ++ op.text ++ after.chars ++ right.text) := by
    simp only [Expression.text, List.append_assoc]
  rw [htext]
  exact joined?_signed iota first last hgap (htext ▸ Expression.solid_text _) f ops

/-- A minus sign of the second factor is taken for the operator, and what stands before it is no
operand. -/
theorem joined?_minus_right (hleft : left.minus.isNone = true) (hright : right.minus.isNone = false)
    (f : Int → Int → Int) (ops : List (Char × (Int → Int → Int))) :
    joined? iota (first.chars ++ (Expression.joined left before .times after right).text ++ last.chars)
        (('-', f) :: ops) = none := by
  obtain ⟨gap, hgap⟩ := Option.isSome_iff_exists.1 (Option.isNone_eq_false_iff.1 hright)
  have htext : (Expression.joined left before .times after right).text =
      (left.text ++ before.chars ++ ['*'] ++ after.chars ++ openText right.parens) ++
        '-' :: (gap.chars ++ right.atom.text ++ closeText right.parens) := by
    simp only [Expression.text, Operator.text, Operand.text, Operand.core, hgap, signText,
      List.append_assoc, List.cons_append]
  have hblank : isBlank '-' = false := by decide
  have hnot : '-' ∉ left.text ++ before.chars ++ ['*'] ++ after.chars ++ openText right.parens := by
    simp only [List.mem_append, not_or]
    refine ⟨⟨⟨⟨left.not_mem_text .minus (by decide) fun _ => Option.isNone_iff_eq_none.1 hleft,
      before.not_mem hblank⟩, by decide⟩, after.not_mem hblank⟩, minus_not_mem_openText right.parens⟩
  have hmem : '*' ∈ left.text ++ before.chars ++ ['*'] ++ after.chars ++ openText right.parens := by
    simp
  have hcut := splitOperator?_append first last (htext ▸ Expression.solid_text _) hnot
  rw [if_neg (List.ne_nil_of_mem (mem_trim_of_mem hmem (by decide))), ← htext] at hcut
  rw [joined?_of_some iota f ops hcut, operand?_eq_none iota hmem]
  rfl

/-- Which operands are found, if the operator is not a shift. -/
theorem joined?_joined {op : Operator} (hshift : op ≠ .shift) :
    joined? iota (first.chars ++ (Expression.joined left before op after right).text ++ last.chars)
        arithmetic =
      if op.isFound left right then op.apply? iota left right else none := by
  have hfound := @joined?_found iota first last left before after right
  have hskip := @joined?_skip iota first last left before after right
  have not_minus : ∀ {c}, c ≠ '-' → c = '-' → left.minus = none ∧ right.minus = none :=
    fun hne heq => absurd heq hne
  rw [arithmetic]
  cases op with
  | shift => exact absurd rfl hshift
  | plus =>
    exact hfound rfl (left.not_mem_text_of_ne .plus (by decide) (by decide)) _ _
  | minus =>
    rw [hskip .plus (by decide) (by decide) (not_minus (by decide)), Operator.isFound]
    cases hminus : left.minus.isNone with
    | true =>
      exact hfound rfl
        (left.not_mem_text .minus (by decide) fun _ => Option.isNone_iff_eq_none.1 hminus) _ _
    | false =>
      -- the sign is found in place of the operator, and there is no product behind it
      rw [joined?_minus_left iota first last left before after right hminus,
        hskip .times (by decide) (by decide) (not_minus (by decide))]
      exact ite_self none
  | times =>
    have hproduct := hfound (rfl : Operator.times.text = ['*'])
      (left.not_mem_text_of_ne .times (by decide) (by decide)) (· * ·) []
    rw [hskip .plus (by decide) (by decide) (not_minus (by decide)), Operator.isFound]
    cases hleft : left.minus.isNone with
    | false =>
      -- the search goes on behind a sign at the start of the text
      rw [joined?_minus_left iota first last left before after right hleft, hproduct]
      rfl
    | true =>
      cases hright : right.minus.isNone with
      | false => exact joined?_minus_right iota first last left before after right hleft hright _ _
      | true =>
        rw [hskip .minus (by decide) (by decide) fun _ =>
          ⟨Option.isNone_iff_eq_none.1 hleft, Option.isNone_iff_eq_none.1 hright⟩]
        exact hproduct

/-- The operands of a shift are cut apart before anything else is looked for. -/
theorem splitOnce?_shift :
    splitOnce? ['<', '<']
        (first.chars ++ (Expression.joined left before .shift after right).text ++ last.chars) =
      some (first.chars ++ left.text ++ before.chars, after.chars ++ right.text ++ last.chars) := by
  have hblank : isBlank '<' = false := by decide
  have htext : first.chars ++ (Expression.joined left before .shift after right).text ++ last.chars =
      (first.chars ++ left.text ++ before.chars) ++
        '<' :: (['<'] ++ (after.chars ++ right.text ++ last.chars)) := by
    simp only [Expression.text, Operator.text, List.append_assoc, List.cons_append, List.nil_append]
  rw [htext]
  refine splitOnce?_separator ['<'] _ ?_
  simp only [List.mem_append, not_or]
  exact ⟨⟨first.not_mem hblank, left.not_mem_text_of_ne .shift (by decide) (by decide)⟩,
    before.not_mem hblank⟩

/-- Without a shift there is no such cut. -/
theorem splitOnce?_eq_none_of_not_mem {text : List Char} (h : '<' ∉ text) :
    splitOnce? ['<', '<'] (first.chars ++ text ++ last.chars) = none := by
  have hblank : isBlank '<' = false := by decide
  refine splitOnce?_eq_none ?_
  simp only [List.mem_append, not_or]
  exact ⟨⟨first.not_mem hblank, h⟩, last.not_mem hblank⟩

end

/-- No operator is found in a single operand. -/
theorem joined?_single (iota : Int64) (first last : Blanks) (o : Operand) :
    joined? iota (first.chars ++ o.text ++ last.chars) arithmetic = none := by
  have hnone : ∀ {c}, c ∉ o.text → ∀ f ops,
      joined? iota (first.chars ++ o.text ++ last.chars) ((c, f) :: ops) =
        joined? iota (first.chars ++ o.text ++ last.chars) ops :=
    fun hc f ops => joined?_of_none iota f ops (splitOperator?_eq_none first last o.solid_text hc)
  have hplus : '+' ∉ o.text := o.not_mem_text_of_ne .plus (by decide) (by decide)
  have htimes : '*' ∉ o.text := o.not_mem_text_of_ne .times (by decide) (by decide)
  rw [arithmetic, hnone hplus]
  cases hminus : o.minus with
  | none =>
    rw [hnone (o.not_mem_text .minus (List.mem_singleton_self '-') fun _ => hminus), hnone htimes]
    rfl
  | some gap =>
    have hsolid : Solid (o.text ++ []) := by
      rw [List.append_nil]
      exact o.solid_text
    have hsigned := joined?_signed iota first last hminus hsolid (· - ·) [('*', (· * ·))]
    rw [List.append_nil] at hsigned
    rw [hsigned, hnone htimes]
    exact ite_self none

/-- **The text of an expression is evaluated as the expression.** -/
theorem constant?_text (iota : Int64) (first last : Blanks) (e : Expression) :
    constant? iota (first.chars ++ e.text ++ last.chars) = e.word? iota := by
  rw [constant?]
  cases e with
  | single o =>
    have hshift : '<' ∉ o.text := o.not_mem_text_of_ne .shift (by decide) (by decide)
    rw [Expression.text, operand?_text, splitOnce?_eq_none_of_not_mem first last hshift,
      joined?_single, Expression.word?]
    cases o.word? iota <;> rfl
  | joined left before op after right =>
    rw [operand?_joined, Expression.word?]
    cases (Expression.joined left before op after right).octal? with
    | some v => rfl
    | none =>
      by_cases hop : op = .shift
      · rw [hop, splitOnce?_shift]
        show (operand? iota _).bind (fun a => (operand? iota _).bind fun b => shiftLeft? a b) = _
        rw [operand?_text, operand?_text]
        rfl
      · have hshift : '<' ∉ (Expression.joined left before op after right).text :=
          Expression.not_mem_joined before after .shift (by decide) (Operator.not_mem_of_ne hop)
            fun h => absurd h (by decide)
        rw [splitOnce?_eq_none_of_not_mem first last hshift,
          joined?_joined iota first last left before after right hop]
        rfl

end ProviderGlue.Go
