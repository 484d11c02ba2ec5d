import Mathlib.Data.List.Basic
import ProviderGlue.Proofs.Go.Iota

/-!
# Pairing of names and expressions

A specification of constants is read as a list of slots, which its expressions fill from the left.
The slots are the names with the commas between them, so from the second one on the expressions miss
the names that they stand for.

## Key results

- `paired_intersperse`: the slot that each expression fills
- `eq_paired_iff`: the pairing is right exactly if only the first expression has a value
- `interleaved_paired`: what names with commas between them declare
-/

namespace ProviderGlue.Go.ConstSpec

variable {type : String} {iota : Int64} {names exprs : List String}

/-- The constants of names and expressions that are paired by position. -/
def paired (type : String) (iota : Int64) (names exprs : List String) : List Constant :=
  (names.zip exprs).filterMap fun (name, value) => pair? type iota name value

/-- Under a type, the slots of a specification are paired with the expressions. -/
theorem declared_eq_paired (spec : ConstSpec) (type : String) (exprs : List String)
    (iota : Int64) : spec.declared ⟨some type, exprs⟩ iota = paired type iota spec.slots exprs := rfl

theorem paired_cons (name e : String) :
    paired type iota (name :: names) (e :: exprs) =
      (pair? type iota name e).toList ++ paired type iota names exprs := by
  simp only [paired, List.zip_cons_cons, List.filterMap_cons]
  cases pair? type iota name e <;> rfl

theorem mem_paired_iff {c : Constant} :
    c ∈ paired type iota names exprs ↔
      ∃ (i : Nat) (name e : String), names[i]? = some name ∧ exprs[i]? = some e ∧
        pair? type iota name e = some c := by
  rw [paired, List.mem_filterMap]
  constructor
  · rintro ⟨⟨name, e⟩, hmem, hpair⟩
    obtain ⟨i, hi⟩ := List.mem_iff_getElem?.1 hmem
    obtain ⟨hname, he⟩ := List.getElem?_zip_eq_some.1 hi
    exact ⟨i, name, e, hname, he, hpair⟩
  · rintro ⟨i, name, e, hname, he, hpair⟩
    exact ⟨(name, e), List.mem_iff_getElem?.2 ⟨i, List.getElem?_zip_eq_some.2 ⟨hname, he⟩⟩, hpair⟩

/-! ## Slots -/

/-- What stands in the slot with number `i`: every second one holds a comma. -/
def slotAt (names : List String) (i : Nat) : Option String :=
  if i % 2 = 0 then names[i / 2]? else some ","

theorem getElem?_intersperse_comma {i : Nat} (h : i < names.length) :
    (names.intersperse ",")[i]? = slotAt names i := by
  rw [List.getElem?_intersperse, slotAt]
  split
  · rfl
  · rw [if_pos (by omega)]

/-- The constant that a numbered expression declares in the slot of its number. -/
def fill? (type : String) (iota : Int64) (slotAt : Nat → Option String) (e : String × Nat) :
    Option Constant :=
  (slotAt e.2).bind fun slot => pair? type iota slot e.1

/-- Each expression fills the slot with its own number. -/
theorem paired_drop (slots : List String) (n : Nat) :
    paired type iota (slots.drop n) exprs =
      (exprs.zipIdx n).filterMap (fill? type iota (slots[·]?)) := by
  induction exprs generalizing n with
  | nil =>
    rw [paired, List.zip_nil_right]
    rfl
  | cons e exprs ih =>
    rw [List.zipIdx_cons, List.filterMap_cons, ← ih (n + 1), fill?]
    -- when the slots are used up, neither side gives anything
    by_cases hn : n < slots.length
    · rw [List.drop_eq_getElem_cons hn, List.getElem?_eq_getElem hn]
      rfl
    · have hn : slots.length ≤ n := Nat.le_of_not_lt hn
      rw [List.drop_eq_nil_of_le hn, List.drop_eq_nil_of_le (Nat.le_succ_of_le hn),
        List.getElem?_eq_none hn]
      rfl

/-- The constants of names with commas between them. -/
theorem paired_intersperse (hlength : exprs.length ≤ names.length) :
    paired type iota (names.intersperse ",") exprs =
      exprs.zipIdx.filterMap (fill? type iota (slotAt names)) := by
  rw [← List.drop_zero (l := names.intersperse ","), paired_drop]
  refine List.filterMap_congr fun e he => ?_
  have hi := (List.mem_zipIdx' he).1
  rw [fill?, fill?, getElem?_intersperse_comma (by omega)]

theorem mem_paired_intersperse_iff (hlength : exprs.length ≤ names.length) {c : Constant} :
    c ∈ paired type iota (names.intersperse ",") exprs ↔
      ∃ (i : Nat) (slot e : String), slotAt names i = some slot ∧ exprs[i]? = some e ∧
        pair? type iota slot e = some c := by
  rw [mem_paired_iff]
  refine exists_congr fun i => exists_congr fun slot => exists_congr fun e => ?_
  constructor
  · rintro ⟨hslot, he, hpair⟩
    have hi := (List.getElem?_eq_some_iff.1 he).1
    rw [getElem?_intersperse_comma (by omega)] at hslot
    exact ⟨hslot, he, hpair⟩
  · rintro ⟨hslot, he, hpair⟩
    have hi := (List.getElem?_eq_some_iff.1 he).1
    rw [getElem?_intersperse_comma (by omega)]
    exact ⟨hslot, he, hpair⟩

/-! ## Right and wrong pairings -/

/-- Names that stand in front of expressions without values declare nothing. -/
theorem paired_eq_nil (h : ∀ e ∈ exprs, constant? iota e.toList = none) :
    paired type iota names exprs = [] := by
  refine List.eq_nil_iff_forall_not_mem.2 fun c hc => ?_
  obtain ⟨i, name, e, -, he, hpair⟩ := mem_paired_iff.1 hc
  have hnone := h e (List.mem_of_getElem? he)
  have hsome := (pair?_eq_some_iff.1 hpair).2.2.2
  rw [hnone] at hsome
  contradiction

/-- All constants have declared names exactly if no expression that fills a comma has a value. -/
theorem forall_name_mem_iff (hcomma : "," ∉ names) (hlength : exprs.length ≤ names.length) :
    (∀ c ∈ paired type iota (names.intersperse ",") exprs, c.name ∈ names) ↔
      ∀ (i : Nat) e, exprs[i]? = some e → i % 2 = 1 → constant? iota e.toList = none := by
  constructor
  · intro h i e he hodd
    refine Option.eq_none_iff_forall_ne_some.2 fun v hv => hcomma ?_
    have hslot : slotAt names i = some "," := if_neg (by omega)
    exact h ⟨",", type, v⟩ ((mem_paired_intersperse_iff hlength).2
      ⟨i, ",", e, hslot, he, pair?_eq_some_iff.2 ⟨by decide, rfl, rfl, hv⟩⟩)
  · intro h c hc
    obtain ⟨i, slot, e, hslot, he, hpair⟩ := (mem_paired_intersperse_iff hlength).1 hc
    obtain ⟨-, hname, -, hvalue⟩ := pair?_eq_some_iff.1 hpair
    by_cases heven : i % 2 = 0
    · rw [slotAt, if_pos heven] at hslot
      rw [hname]
      exact List.mem_of_getElem? hslot
    · rw [h i e he (by omega)] at hvalue
      contradiction

/-- If distinct names are paired rightly, the value of an expression is also that of the expression
with twice its number, which fills the same name. -/
theorem constant?_double (hcomma : "," ∉ names) (hlength : exprs.length ≤ names.length)
    (hnodup : names.Nodup) (hblank : "_" ∉ names)
    (h : paired type iota (names.intersperse ",") exprs = paired type iota names exprs)
    {i : Nat} {e : String} {v : Int64} (he : exprs[i]? = some e)
    (hv : constant? iota e.toList = some v) :
    ∃ e', exprs[2 * i]? = some e' ∧ constant? iota e'.toList = some v := by
  have hi : i < names.length := Nat.lt_of_lt_of_le (List.getElem?_eq_some_iff.1 he).1 hlength
  have hname : names[i]? = some names[i] := List.getElem?_eq_getElem hi
  have hmem : (⟨names[i], type, v⟩ : Constant) ∈ paired type iota names exprs :=
    mem_paired_iff.2 ⟨i, names[i], e, hname, he, pair?_eq_some_iff.2
      ⟨fun heq => hblank (heq ▸ List.getElem_mem hi), rfl, rfl, hv⟩⟩
  rw [← h, mem_paired_intersperse_iff hlength] at hmem
  obtain ⟨j, slot, e', hslot, he', hpair⟩ := hmem
  obtain ⟨-, rfl, -, hvalue⟩ := pair?_eq_some_iff.1 hpair
  -- the slot holds a name and not a comma, hence the name with half the number
  by_cases heven : j % 2 = 0
  · rw [slotAt, if_pos heven, ← hname] at hslot
    have hj : i = j / 2 := (List.getElem?_inj hi hnodup).1 hslot.symm
    rw [show j = 2 * i by omega] at he'
    exact ⟨e', he', hvalue⟩
  · rw [slotAt, if_neg heven] at hslot
    exact absurd (Option.some.inj hslot ▸ List.getElem_mem hi) hcomma

/-- Distinct names are paired rightly exactly if no expression but the first one has a value. -/
theorem eq_paired_iff (hcomma : "," ∉ names) (hlength : exprs.length ≤ names.length)
    (hnodup : names.Nodup) (hblank : "_" ∉ names) :
    paired type iota (names.intersperse ",") exprs = paired type iota names exprs ↔
      ∀ e ∈ exprs.tail, constant? iota e.toList = none := by
  constructor
  · intro h
    -- a value behind the first expression would recur farther and farther behind, by induction on
    -- how many expressions are left
    have hnone : ∀ k (i : Nat) e, exprs.length ≤ i + k → 0 < i → exprs[i]? = some e →
        constant? iota e.toList = none := by
      intro k
      induction k with
      | zero =>
        intro i e hk _ he
        rw [List.getElem?_eq_none (by omega)] at he
        contradiction
      | succ k ih =>
        intro i e hk hpos he
        refine Option.eq_none_iff_forall_ne_some.2 fun v hv => ?_
        obtain ⟨e', he', hv'⟩ := constant?_double hcomma hlength hnodup hblank h he hv
        rw [ih (2 * i) e' (by omega) (by omega) he'] at hv'
        contradiction
    intro e he
    obtain ⟨i, hi⟩ := List.mem_iff_getElem?.1 he
    rw [List.getElem?_tail] at hi
    exact hnone exprs.length (i + 1) e (Nat.le_add_left _ _) (Nat.succ_pos i) hi
  · intro h
    cases exprs with
    | nil => rw [paired, paired, List.zip_nil_right, List.zip_nil_right]
    | cons e exprs =>
      cases names with
      | nil => rfl
      | cons name names =>
        -- the first slot holds the first name, and what fills the others has no value
        have hnil : ∀ slots, paired type iota slots exprs = [] := fun slots => paired_eq_nil h
        obtain ⟨slots, hslots⟩ : ∃ slots, (name :: names).intersperse "," = name :: slots := by
          cases names <;> exact ⟨_, rfl⟩
        rw [hslots, paired_cons, paired_cons, hnil, hnil]

/-- What a specification with these names and expressions declares. -/
structure Interleaved (type : String) (iota : Int64) (names exprs : List String)
    (declared : List Constant) : Prop where
  /-- In order, each expression with a value gives it to what stands in the slot of its number, unless
  that is blank. -/
  slots : declared = exprs.zipIdx.filterMap (fill? type iota (slotAt names))
  /-- A name that stands alone is paired with its expression. -/
  single : names.length = 1 → declared = paired type iota names exprs
  /-- All constants have declared names exactly if no expression that fills a comma has a value. -/
  named : (∀ c ∈ declared, c.name ∈ names) ↔
    ∀ (i : Nat) e, exprs[i]? = some e → i % 2 = 1 → constant? iota e.toList = none
  /-- Distinct names are paired rightly exactly if no expression but the first one has a value. -/
  right : names.Nodup → "_" ∉ names →
    (declared = paired type iota names exprs ↔ ∀ e ∈ exprs.tail, constant? iota e.toList = none)

theorem interleaved_paired (hcomma : "," ∉ names) (hlength : exprs.length ≤ names.length) :
    Interleaved type iota names exprs (paired type iota (names.intersperse ",") exprs) where
  slots := paired_intersperse hlength
  single hone := by
    obtain ⟨name, rfl⟩ := List.length_eq_one_iff.1 hone
    rfl
  named := forall_name_mem_iff hcomma hlength
  right := eq_paired_iff hcomma hlength

end ProviderGlue.Go.ConstSpec
