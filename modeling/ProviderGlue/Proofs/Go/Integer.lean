import Mathlib.Data.Nat.Digits.Defs
import ProviderGlue.Go.Grammar.Lexeme
import ProviderGlue.Proofs.Go.Operand

/-!
# Integer literals

The literals that the grammar of source files has are the spelled ones: digits of some radix, which
single underscores may separate from what stands before them, behind the announcement of the radix.
Each of them is read as the number that its digits write in positional notation, with a sign and with
blanks around it, and is refused if that number fits no word.

## Key results

- `moreDigits_snd_eq_nil_iff`: the lexer reads separated digits up to the end of the text
- `isInteger_iff`: the literals of the grammar are the spelled ones
- `value_eq_ofDigits`: the value of a literal in positional notation
- `intLiteral?_spelled`: how literals are read
-/

namespace ProviderGlue.Go

open Text Grammar

/-! ## Digits -/

theorem isDigit_iff {c : Char} : c.isDigit = true ↔ 0x30 ≤ c.toNat ∧ c.toNat ≤ 0x39 := by
  simp [Char.isDigit, UInt32.le_iff_toNat_le]

/-- The digits of a radix are those figures and letters that are small enough. -/
theorem isSome_digitIn_iff {radix : Nat} {c : Char} :
    (digitIn radix c).isSome = true ↔
      (0x30 ≤ c.toNat ∧ c.toNat ≤ 0x39 ∧ c.toNat < 0x30 + radix) ∨
      (0x61 ≤ c.toNat ∧ c.toNat ≤ 0x7A ∧ c.toNat + 10 < 0x61 + radix) ∨
      (0x41 ≤ c.toNat ∧ c.toNat ≤ 0x5A ∧ c.toNat + 10 < 0x41 + radix) := by
  have hlower : c.isLower = true ↔ 0x61 ≤ c.toNat ∧ c.toNat ≤ 0x7A := by
    show (decide ('a'.val ≤ c.val) && decide (c.val ≤ 'z'.val)) = true ↔ _
    simp [UInt32.le_iff_toNat_le]
  have hupper : c.isUpper = true ↔ 0x41 ≤ c.toNat ∧ c.toNat ≤ 0x5A := by
    show decide ('A'.val ≤ c.val ∧ c.val ≤ 'Z'.val) = true ↔ _
    simp [UInt32.le_iff_toNat_le]
  have hvalue : digitValue c =
      if 0x30 ≤ c.toNat ∧ c.toNat ≤ 0x39 then some (c.toNat - 0x30)
      else if 0x61 ≤ c.toNat ∧ c.toNat ≤ 0x7A then some (c.toNat - 0x61 + 10)
      else if 0x41 ≤ c.toNat ∧ c.toNat ≤ 0x5A then some (c.toNat - 0x41 + 10)
      else none := by
    simp only [digitValue, isDigit_iff, hlower, hupper]
    rfl
  rw [digitIn, hvalue, Option.isSome_filter]
  split
  · rw [Option.any_some, decide_eq_true_eq]
    omega
  · split
    · rw [Option.any_some, decide_eq_true_eq]
      omega
    · split
      · rw [Option.any_some, decide_eq_true_eq]
        omega
      · rw [Option.any_none]
        exact ⟨fun h => absurd h Bool.false_ne_true, fun hcode => by omega⟩

/-! The classes of digits that the lexer knows are the digits of the radixes. -/

theorem isDigit_eq (c : Char) : c.isDigit = (digitIn 10 c).isSome := by
  rw [Bool.eq_iff_iff, isSome_digitIn_iff, isDigit_iff]
  omega

theorem isOctal_eq (c : Char) : Lexeme.isOctal c = (digitIn 8 c).isSome := by
  have hoctal : Lexeme.isOctal c = true ↔ 0x30 ≤ c.toNat ∧ c.toNat ≤ 0x37 := by
    simp [Lexeme.isOctal, Char.le_def, UInt32.le_iff_toNat_le]
  rw [Bool.eq_iff_iff, isSome_digitIn_iff, hoctal]
  omega

theorem isBinary_eq (c : Char) : Lexeme.isOneOf "01" c = (digitIn 2 c).isSome := by
  have hbinary : Lexeme.isOneOf "01" c = true ↔ c.toNat = 0x30 ∨ c.toNat = 0x31 := by
    simp [Lexeme.isOneOf, ← Char.toNat_inj]
  rw [Bool.eq_iff_iff, isSome_digitIn_iff, hbinary]
  omega

theorem isHex_eq (c : Char) : Lexeme.isHex c = (digitIn 16 c).isSome := by
  have hhex : Lexeme.isHex c = true ↔ (0x30 ≤ c.toNat ∧ c.toNat ≤ 0x39) ∨
      (0x61 ≤ c.toNat ∧ c.toNat ≤ 0x66) ∨ (0x41 ≤ c.toNat ∧ c.toNat ≤ 0x46) := by
    simp [Lexeme.isHex, isDigit_iff, Char.le_def, UInt32.le_iff_toNat_le, or_assoc]
  rw [Bool.eq_iff_iff, isSome_digitIn_iff, hhex]
  omega

/-! ## Separated digits -/

/-- Characters, of which some have an underscore before them. -/
def separated (ds : List (Bool × Char)) : List Char :=
  ds.flatMap fun d => (if d.1 then ['_'] else []) ++ [d.2]

/-- The lexer reads separated digits, and all of a text only if it consists of them. -/
theorem moreDigits_snd_eq_nil_iff {isIn : Char → Bool} (hmark : isIn '_' = false) {n : Nat}
    {text : List Char} :
    (Lexeme.moreDigits isIn n text).2 = [] ↔
      ∃ ds, (∀ d ∈ ds, isIn d.2 = true) ∧ text = separated ds := by
  constructor
  · intro h
    fun_induction Lexeme.moreDigits isIn n text with
    | case1 n c cs hc ih =>
      obtain ⟨ds, hds, rfl⟩ := ih h
      exact ⟨(true, c) :: ds, List.forall_mem_cons.2 ⟨hc, hds⟩, rfl⟩
    | case3 n c cs _ hc ih =>
      obtain ⟨ds, hds, rfl⟩ := ih h
      exact ⟨(false, c) :: ds, List.forall_mem_cons.2 ⟨hc, hds⟩, rfl⟩
    | case5 n => exact ⟨[], fun d hd => absurd hd List.not_mem_nil, rfl⟩
    | case2 | case4 => contradiction
  · rintro ⟨ds, hds, rfl⟩
    induction ds generalizing n with
    | nil => rfl
    | cons d ds ih =>
      obtain ⟨hd, htail⟩ := List.forall_mem_cons.1 hds
      obtain ⟨mark, c⟩ := d
      cases mark with
      | true =>
        show (Lexeme.moreDigits isIn n ('_' :: c :: separated ds)).2 = []
        rw [Lexeme.moreDigits, if_pos hd]
        exact ih htail
      | false =>
        show (Lexeme.moreDigits isIn n (c :: separated ds)).2 = []
        rw [Lexeme.moreDigits, if_pos hd]
        · exact ih htail
        · -- a digit is no underscore
          rintro c' cs rfl
          rw [hmark] at hd
          contradiction

/-! ## Readings -/

/-- Whether a reading leaves nothing of the text. -/
def ReadsAll (reading : Read) : Prop := ∃ n, reading = some (n, [])

/-- A character is read before the rest. -/
theorem readsAll_one_bind {isIn : Char → Bool} {next : Nat × List Char → Read} {n : Nat}
    {text : List Char} :
    ReadsAll ((Lexeme.one isIn (n, text)).bind next) ↔
      ∃ c rest, text = c :: rest ∧ isIn c = true ∧ ReadsAll (next (n + 1, rest)) := by
  cases text with
  | nil =>
    constructor
    · exact fun ⟨_, h⟩ => nomatch h
    · exact fun ⟨_, _, h, _⟩ => nomatch h
  | cons c rest =>
    rw [Lexeme.one]
    split
    · next hc =>
      constructor
      · exact fun h => ⟨c, rest, rfl, hc, h⟩
      · rintro ⟨c', rest', heq, -, h⟩
        obtain ⟨rfl, rfl⟩ := List.cons.inj heq
        exact h
    · next hc =>
      constructor
      · exact fun ⟨_, h⟩ => nomatch h
      · rintro ⟨c', rest', heq, hc', -⟩
        obtain ⟨rfl, -⟩ := List.cons.inj heq
        exact absurd hc' hc

theorem readsAll_one {isIn : Char → Bool} {n : Nat} {text : List Char} :
    ReadsAll (Lexeme.one isIn (n, text)) ↔ ∃ c, text = [c] ∧ isIn c = true := by
  rw [← Option.bind_fun_some (Lexeme.one isIn (n, text)), readsAll_one_bind]
  constructor
  · rintro ⟨c, rest, rfl, hc, m, ⟨⟩⟩
    exact ⟨c, rfl, hc⟩
  · rintro ⟨c, rfl, hc⟩
    exact ⟨c, [], rfl, hc, n + 1, rfl⟩

section Separated

variable {isIn : Char → Bool} (hmark : isIn '_' = false) {n : Nat} {text : List Char}

include hmark

theorem readsAll_moreDigits :
    ReadsAll (some (Lexeme.moreDigits isIn n text)) ↔
      ∃ ds, (∀ d ∈ ds, isIn d.2 = true) ∧ text = separated ds := by
  rw [← moreDigits_snd_eq_nil_iff hmark (n := n), ReadsAll]
  generalize Lexeme.moreDigits isIn n text = r
  constructor
  · rintro ⟨m, ⟨⟩⟩
    rfl
  · exact fun h => ⟨r.1, congrArg some (Prod.ext rfl h)⟩

/-- Digits start with one that has no underscore before it. -/
theorem readsAll_digits :
    ReadsAll (Lexeme.digits isIn (n, text)) ↔
      ∃ c ds, isIn c = true ∧ (∀ d ∈ ds, isIn d.2 = true) ∧ text = c :: separated ds := by
  have hbind : Lexeme.digits isIn (n, text) = (Lexeme.one isIn (n, text)).bind fun at_ =>
      some (Lexeme.moreDigits isIn at_.1 at_.2) := by
    rw [Lexeme.digits, Option.map_eq_bind]
    rfl
  rw [hbind, readsAll_one_bind]
  simp only [readsAll_moreDigits hmark]
  constructor
  · rintro ⟨c, rest, rfl, hc, ds, hds, rfl⟩
    exact ⟨c, ds, hc, hds, rfl⟩
  · rintro ⟨c, ds, hc, hds, rfl⟩
    exact ⟨c, separated ds, rfl, hc, ds, hds, rfl⟩

/-- Behind an announcement the first digit may have an underscore before it. -/
theorem readsAll_announced :
    ReadsAll (Lexeme.digits isIn (Lexeme.maybe (· == '_') (n, text))) ↔
      ∃ ds ≠ [], (∀ d ∈ ds, isIn d.2 = true) ∧ text = separated ds := by
  have hplain : ∀ {c : Char} {rest : List Char}, c ≠ '_' →
      Lexeme.maybe (· == '_') (n, c :: rest) = (n, c :: rest) := fun hc => by
    rw [Lexeme.maybe, Lexeme.one, if_neg (by simpa using hc), Option.getD_none]
  constructor
  · intro h
    cases text with
    | nil =>
      obtain ⟨c, ds, -, -, heq⟩ := (readsAll_digits hmark).1 h
      exact nomatch heq
    | cons c rest =>
      -- an underscore in front is that of the first digit
      by_cases hc : c = '_'
      · subst hc
        obtain ⟨c, ds, hc, hds, rfl⟩ := (readsAll_digits hmark (n := n + 1)).1 h
        exact ⟨(true, c) :: ds, List.cons_ne_nil _ _, List.forall_mem_cons.2 ⟨hc, hds⟩, rfl⟩
      · rw [hplain hc] at h
        obtain ⟨c, ds, hc, hds, heq⟩ := (readsAll_digits hmark).1 h
        exact ⟨(false, c) :: ds, List.cons_ne_nil _ _, List.forall_mem_cons.2 ⟨hc, hds⟩, heq⟩
  · rintro ⟨ds, hne, hall, rfl⟩
    obtain ⟨⟨mark, c⟩, ds, rfl⟩ := List.exists_cons_of_ne_nil hne
    obtain ⟨hc, hds⟩ := List.forall_mem_cons.1 hall
    cases mark with
    | true => exact (readsAll_digits hmark (n := n + 1)).2 ⟨c, ds, hc, hds, rfl⟩
    | false =>
      have hne : c ≠ '_' := by
        rintro rfl
        rw [hmark] at hc
        contradiction
      show ReadsAll (Lexeme.digits isIn (Lexeme.maybe (· == '_') (n, c :: separated ds)))
      rw [hplain hne]
      exact (readsAll_digits hmark).2 ⟨c, ds, hc, hds, rfl⟩

/-- A mark behind a zero announces the radix. -/
theorem readsAll_marked (marks : String) :
    ReadsAll (Lexeme.marked marks isIn (n, text)) ↔
      ∃ m ∈ marks.toList, ∃ ds ≠ [], (∀ d ∈ ds, isIn d.2 = true) ∧
        text = '0' :: m :: separated ds := by
  show ReadsAll ((Lexeme.one (· == '0') (n, text)).bind fun at_ =>
    (Lexeme.one (Lexeme.isOneOf marks) at_).bind fun at_ =>
      Lexeme.digits isIn (Lexeme.maybe (· == '_') at_)) ↔ _
  simp only [readsAll_one_bind, readsAll_announced hmark]
  constructor
  · rintro ⟨c, rest, rfl, hzero, m, rest, rfl, hm, ds, hne, hds, rfl⟩
    exact ⟨m, List.contains_iff_mem.1 hm, ds, hne, hds, by rw [eq_of_beq hzero]⟩
  · rintro ⟨m, hm, ds, hne, hds, rfl⟩
    exact ⟨'0', _, rfl, rfl, m, _, rfl, List.contains_iff_mem.2 hm, ds, hne, hds, rfl⟩

end Separated

/-- A zero alone announces octal digits. -/
theorem readsAll_plainOctal {n : Nat} {text : List Char} :
    ReadsAll (Lexeme.plainOctal (n, text)) ↔
      ∃ ds ≠ [], (∀ d ∈ ds, Lexeme.isOctal d.2 = true) ∧ text = '0' :: separated ds := by
  show ReadsAll ((Lexeme.one (· == '0') (n, text)).bind fun at_ =>
    Lexeme.digits Lexeme.isOctal (Lexeme.maybe (· == '_') at_)) ↔ _
  simp only [readsAll_one_bind, readsAll_announced (by decide : Lexeme.isOctal '_' = false)]
  constructor
  · rintro ⟨c, rest, rfl, hzero, ds, hne, hds, rfl⟩
    exact ⟨ds, hne, hds, by rw [eq_of_beq hzero]⟩
  · rintro ⟨ds, hne, hds, rfl⟩
    exact ⟨'0', _, rfl, rfl, ds, hne, hds, rfl⟩

/-- Decimal digits start with no zero. -/
theorem readsAll_decimal {n : Nat} {text : List Char} :
    ReadsAll (Lexeme.decimal (n, text)) ↔
      ∃ c ds, c ≠ '0' ∧ c.isDigit = true ∧ (∀ d ∈ ds, d.2.isDigit = true) ∧
        text = c :: separated ds := by
  have hfirst : ∀ c : Char, (decide ('1' ≤ c) && decide (c ≤ '9')) = true ↔
      c ≠ '0' ∧ c.isDigit = true := by
    intro c
    rw [Bool.and_eq_true, decide_eq_true_eq, decide_eq_true_eq, isDigit_iff, ne_eq,
      ← Char.toNat_inj, Char.le_def, Char.le_def, UInt32.le_iff_toNat_le, UInt32.le_iff_toNat_le]
    show 0x31 ≤ c.toNat ∧ c.toNat ≤ 0x39 ↔ ¬ c.toNat = 0x30 ∧ 0x30 ≤ c.toNat ∧ c.toNat ≤ 0x39
    omega
  show ReadsAll ((Lexeme.one (fun c => decide ('1' ≤ c) && decide (c ≤ '9')) (n, text)).bind
    fun at_ => some (Lexeme.moreDigits Char.isDigit at_.1 at_.2)) ↔ _
  simp only [readsAll_one_bind, readsAll_moreDigits (by decide : Char.isDigit '_' = false), hfirst]
  constructor
  · rintro ⟨c, rest, rfl, ⟨hzero, hc⟩, ds, hds, rfl⟩
    exact ⟨c, ds, hzero, hc, hds, rfl⟩
  · rintro ⟨c, ds, hzero, hc, hds, rfl⟩
    exact ⟨c, _, rfl, ⟨hzero, hc⟩, ds, hds, rfl⟩

/-! ## Literals of the grammar -/

/-- Whether the grammar of source files reads the whole text as an integer. -/
def IsInteger (text : List Char) : Prop :=
  ∃ reading ∈ Lexeme.integers (0, text), ReadsAll reading

/-- Whether the text is an announcement and digits as a literal has them. -/
def Spells (announcement : Announcement) (text : List Char) : Prop :=
  ∃ ds ≠ [], (∀ d ∈ ds, (digitIn announcement.radix d.2).isSome = true) ∧
    (announcement = .none → ∀ d ∈ ds.head?, d.1 = false ∧ (d.2 = '0' → ds.length = 1)) ∧
    text = announcement.text ++ separated ds

theorem exists_digits {radix : Nat} {ds : List (Bool × Char)}
    (h : ∀ d ∈ ds, (digitIn radix d.2).isSome = true) :
    ∃ digits : List (Digit radix), digits.map (fun d => (d.separated, d.char)) = ds := by
  induction ds with
  | nil => exact ⟨[], rfl⟩
  | cons d ds ih =>
    obtain ⟨hd, hds⟩ := List.forall_mem_cons.1 h
    obtain ⟨digits, rfl⟩ := ih hds
    obtain ⟨value, hvalue⟩ := Option.isSome_iff_exists.1 hd
    exact ⟨⟨d.1, d.2, value, hvalue⟩ :: digits, rfl⟩

namespace Literal

theorem text_eq (l : Literal) :
    l.text = l.announcement.text ++ separated (l.digits.map fun d => (d.separated, d.char)) := by
  rw [text, separated, List.flatMap_map]

/-- The texts of literals are those that are spelled like one. -/
theorem exists_text_eq_iff {text : List Char} :
    (∃ l : Literal, l.text = text) ↔ ∃ announcement, Spells announcement text := by
  constructor
  · rintro ⟨l, rfl⟩
    refine ⟨l.announcement, _, mt List.map_eq_nil_iff.1 l.ne_nil, fun d hd => ?_, ?_, l.text_eq⟩
    · obtain ⟨digit, -, rfl⟩ := List.mem_map.1 hd
      exact Option.isSome_iff_exists.2 ⟨_, digit.digit⟩
    · intro hnone d hd
      rw [List.head?_map] at hd
      obtain ⟨digit, hdigit, rfl⟩ := Option.map_eq_some_iff.1 hd
      rw [List.length_map]
      exact l.start hnone digit hdigit
  · rintro ⟨announcement, ds, hne, hds, hstart, rfl⟩
    obtain ⟨digits, rfl⟩ := exists_digits hds
    refine ⟨⟨announcement, digits, fun h => hne (by rw [h]; rfl), fun hnone d hd => ?_⟩, text_eq _⟩
    have hfirst := hstart hnone (d.separated, d.char) (by rw [List.head?_map, hd]; rfl)
    rwa [List.length_map] at hfirst

end Literal

/-- Without an announcement, a literal is a lone zero or starts with another digit. -/
theorem spells_none_iff {text : List Char} :
    Spells .none text ↔
      ReadsAll (Lexeme.decimal (0, text)) ∨ ReadsAll (Lexeme.one (· == '0') (0, text)) := by
  rw [readsAll_decimal, readsAll_one]
  simp only [isDigit_eq]
  constructor
  · rintro ⟨ds, hne, hall, hstart, rfl⟩
    obtain ⟨⟨mark, c⟩, ds, rfl⟩ := List.exists_cons_of_ne_nil hne
    obtain ⟨hc, hds⟩ := List.forall_mem_cons.1 hall
    obtain ⟨hmark, hzero⟩ := hstart rfl (mark, c) rfl
    dsimp only at hmark hzero
    subst hmark
    -- a zero in front stands alone, else it would announce octal digits
    by_cases h : c = '0'
    · obtain rfl : ds = [] := List.length_eq_zero_iff.1 (by simpa using hzero h)
      exact .inr ⟨c, rfl, beq_iff_eq.2 h⟩
    · exact .inl ⟨c, ds, h, hc, hds, rfl⟩
  · rintro (⟨c, ds, hzero, hc, hds, rfl⟩ | ⟨c, rfl, hzero⟩)
    · refine ⟨(false, c) :: ds, List.cons_ne_nil _ _, List.forall_mem_cons.2 ⟨hc, hds⟩, ?_, rfl⟩
      rintro - d ⟨⟩
      exact ⟨rfl, fun h => absurd h hzero⟩
    · obtain rfl := eq_of_beq hzero
      refine ⟨[(false, '0')], List.cons_ne_nil _ _, List.forall_mem_singleton.2 rfl, ?_, rfl⟩
      rintro - d ⟨⟩
      exact ⟨rfl, fun _ => rfl⟩

/-- Behind an announcement any digits of the radix may follow. -/
theorem spells_iff_of_ne_none (announcement : Announcement) (h : announcement ≠ .none)
    {isIn : Char → Bool} (hin : ∀ c, isIn c = (digitIn announcement.radix c).isSome)
    {text : List Char} :
    Spells announcement text ↔
      ∃ ds ≠ [], (∀ d ∈ ds, isIn d.2 = true) ∧ text = announcement.text ++ separated ds := by
  refine exists_congr fun ds => and_congr_right fun _ => ?_
  simp only [hin]
  refine and_congr_right fun _ => ?_
  exact ⟨fun hspells => hspells.2, fun htext => ⟨fun heq => absurd heq h, htext⟩⟩

theorem spells_zero_iff {text : List Char} :
    Spells .zero text ↔ ReadsAll (Lexeme.plainOctal (0, text)) := by
  rw [readsAll_plainOctal]
  exact spells_iff_of_ne_none .zero nofun isOctal_eq

/-- A mark may be a letter of either case. -/
theorem exists_spells_iff {announcement : Bool → Announcement} {marks : String} {small large : Char}
    {isIn : Char → Bool} {text : List Char} (hmark : isIn '_' = false)
    (hmarks : marks.toList = [small, large]) (hnone : ∀ upper, announcement upper ≠ .none)
    (htext : ∀ upper, (announcement upper).text = ['0', if upper then large else small])
    (hin : ∀ upper c, isIn c = (digitIn (announcement upper).radix c).isSome) :
    (∃ upper, Spells (announcement upper) text) ↔
      ReadsAll (Lexeme.marked marks isIn (0, text)) := by
  have hspells : ∀ upper, Spells (announcement upper) text ↔
      ∃ ds ≠ [], (∀ d ∈ ds, isIn d.2 = true) ∧
        text = '0' :: (if upper then large else small) :: separated ds := fun upper => by
    rw [spells_iff_of_ne_none _ (hnone upper) (hin upper), htext upper]
    rfl
  simp only [hspells, readsAll_marked hmark, hmarks, Bool.exists_bool, List.mem_cons,
    List.not_mem_nil, or_false, exists_eq_or_imp, exists_eq_left, if_true, Bool.false_eq_true,
    if_false]

theorem isInteger_iff_readsAll {text : List Char} :
    IsInteger text ↔
      ReadsAll (Lexeme.marked "bB" (Lexeme.isOneOf "01") (0, text)) ∨
      ReadsAll (Lexeme.marked "oO" Lexeme.isOctal (0, text)) ∨
      ReadsAll (Lexeme.marked "xX" Lexeme.isHex (0, text)) ∨
      ReadsAll (Lexeme.plainOctal (0, text)) ∨ ReadsAll (Lexeme.decimal (0, text)) ∨
      ReadsAll (Lexeme.one (· == '0') (0, text)) := by
  simp only [IsInteger, Lexeme.integers, List.mem_cons, List.not_mem_nil, or_false,
    exists_eq_or_imp, exists_eq_left]

/-- **The integers of the grammar are the spelled literals.** -/
theorem isInteger_iff {text : List Char} : IsInteger text ↔ ∃ l : Literal, l.text = text := by
  have hbinary : (∃ upper, Spells (.binary upper) text) ↔
      ReadsAll (Lexeme.marked "bB" (Lexeme.isOneOf "01") (0, text)) :=
    exists_spells_iff (by decide) rfl (fun _ => nofun) (fun _ => rfl) fun _ => isBinary_eq
  have hoctal : (∃ upper, Spells (.octal upper) text) ↔
      ReadsAll (Lexeme.marked "oO" Lexeme.isOctal (0, text)) :=
    exists_spells_iff (by decide) rfl (fun _ => nofun) (fun _ => rfl) fun _ => isOctal_eq
  have hhex : (∃ upper, Spells (.hexadecimal upper) text) ↔
      ReadsAll (Lexeme.marked "xX" Lexeme.isHex (0, text)) :=
    exists_spells_iff (by decide) rfl (fun _ => nofun) (fun _ => rfl) fun _ => isHex_eq
  have hcases : (∃ announcement, Spells announcement text) ↔
      Spells .none text ∨ Spells .zero text ∨ (∃ upper, Spells (.octal upper) text) ∨
        (∃ upper, Spells (.binary upper) text) ∨ ∃ upper, Spells (.hexadecimal upper) text := by
    constructor
    · rintro ⟨announcement, h⟩
      cases announcement with
      | none => exact .inl h
      | zero => exact .inr (.inl h)
      | octal upper => exact .inr (.inr (.inl ⟨upper, h⟩))
      | binary upper => exact .inr (.inr (.inr (.inl ⟨upper, h⟩)))
      | hexadecimal upper => exact .inr (.inr (.inr (.inr ⟨upper, h⟩)))
    · rintro (h | h | ⟨upper, h⟩ | ⟨upper, h⟩ | ⟨upper, h⟩) <;> exact ⟨_, h⟩
  rw [isInteger_iff_readsAll, Literal.exists_text_eq_iff, hcases, hbinary, hoctal, hhex,
    spells_none_iff, spells_zero_iff]
  simp only [or_assoc, or_comm, or_left_comm]

/-! ## Values -/

/-- The value of a literal is what its digits write in positional notation. -/
theorem Literal.value_eq_ofDigits (l : Literal) :
    l.value = Nat.ofDigits l.announcement.radix (l.digits.map (·.value)).reverse := by
  rw [Nat.ofDigits_eq_foldr, List.foldr_reverse, List.foldl_map, value]
  simp only [Nat.cast_id, Nat.mul_comm, Nat.add_comm]

/-- Blanks around a text make no difference. -/
theorem intLiteral?_blanks {text : List Char} (h : Solid text) (before after : Blanks) :
    intLiteral? (before.chars ++ text ++ after.chars) = intLiteral? text := by
  rw [intLiteral?, trim_blanks h, intLiteral?, h.trim_eq]

/-- A literal with a sign is read as its value if that fits. -/
theorem Literal.intLiteral?_text (l : Literal) (minus : Option Blanks) :
    intLiteral? (signText minus ++ l.text) = (toInt64? l.value).map (signed minus) := by
  have hminus : l.text.head? ≠ some '-' := fun h =>
    (Atom.literal l).not_mem_text (by decide) (List.mem_of_mem_head? h)
  have hsolid : Solid l.text := (Atom.literal l).solid_text
  rw [intLiteral?_signed minus hsolid hminus, l.magnitude?_text]

/-- How a number with a sign is read. -/
structure ReadsSigned (minus : Option Blanks) (n : Nat) (result : Option Int64) : Prop where
  /-- If the number fits, a word is given for it, negated if there is a minus sign. -/
  fits : (n : Int) ≤ Int64.maxValue.toInt → ∃ v, result = some v ∧ v.toInt = signed minus (n : Int)
  /-- A greater number is refused, with or without the sign. -/
  refused : Int64.maxValue.toInt < (n : Int) → result = none

theorem Literal.readsSigned (l : Literal) (minus : Option Blanks) :
    ReadsSigned minus l.value (intLiteral? (signText minus ++ l.text)) := by
  rw [l.intLiteral?_text]
  constructor
  · intro hle
    -- the least word is negative, so only the greatest one bounds the number
    have hfits : FitsWord l.value := ⟨by rw [Int64.toInt_minValue]; omega, hle⟩
    obtain ⟨v, hv⟩ := Option.ne_none_iff_exists'.1 fun h => toInt64?_eq_none_iff.1 h hfits
    have hword : Operand.word? 0 ⟨none, minus, .literal l⟩ = some (signed minus v) :=
      congrArg (Option.map (signed minus)) hv
    exact ⟨signed minus v, hword, Operand.toInt_of_word? hword⟩
  · intro hlt
    rw [toInt64?_eq_none_iff.2 fun hfits => Int.not_le.2 hlt hfits.2]
    rfl

/-- **Integer literals are read exactly.**  Every literal of the grammar is spelled, and with blanks
around it and perhaps a minus sign it is read as what its digits write in positional notation, or
refused if that is too great. -/
theorem intLiteral?_spelled :
    (∀ text, IsInteger text ↔ ∃ l : Literal, l.text = text) ∧
    ∀ (before after : Blanks) (minus : Option Blanks) (l : Literal),
      ReadsSigned minus (Nat.ofDigits l.announcement.radix (l.digits.map (·.value)).reverse)
        (intLiteral? (before.chars ++ (signText minus ++ l.text) ++ after.chars)) := by
  refine ⟨fun text => isInteger_iff, fun before after minus l => ?_⟩
  have hsolid : Solid (signText minus ++ l.text) :=
    (Operand.core_core ⟨none, minus, .literal l⟩).toSolid
  rw [intLiteral?_blanks hsolid, ← l.value_eq_ofDigits]
  exact l.readsSigned minus

end ProviderGlue.Go
