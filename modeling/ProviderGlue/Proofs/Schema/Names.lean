import Mathlib.Data.List.Nodup
import Mathlib.Data.List.Perm.Subperm
import ProviderGlue.Proofs.Schema.Origin
import ProviderGlue.Proofs.Text.Ascii

/-!
# Names of functions and tables

Functions and tables take their names from one set, so no two of them share a name.  What a name
starts with tells more: functions are named `flatten…`, and the name of a table starts with that of
its enumeration, where the first letter is in lower case.  No such name starts with `D`.

## Key results

- `lowerChar_spec`: a lower case is not empty and has no capitals of ASCII
- `takeName_spec`: the search for a free name ends, at the least number that gives one
- `steady_namedApart`: the names of a draft differ, and none of them starts with `D`
-/

namespace ProviderGlue

open Text Unicode

/-! ## Lower case -/

/-- The code points of capitals. -/
theorem Text.Unicode.code_of_isUpper {n : Nat} (h : (Char.ofNat n).isUpper = true) :
    0x41 ≤ n ∧ n ≤ 0x5A := by
  by_cases hvalid : n.isValidChar
  · have hcode : (Char.ofNat n).toNat = n := by
      rw [Char.ofNat, dif_pos hvalid]
      rfl
    rw [← hcode]
    exact of_decide_eq_true h
  · -- anything else is the character with code point 0
    rw [Char.ofNat, dif_neg hvalid] at h
    exact absurd h (by decide)

/-- The lower case of a character is not empty and has no capitals of ASCII. -/
theorem Text.Unicode.lowerChar_spec (c : Char) :
    lowerChar c ≠ [] ∧ ∀ d ∈ lowerChar c, d.isUpper = false := by
  by_cases hascii : c.toNat < 0x80
  · have hlower : ∀ n < 0x80, (Char.ofNat n).toLower.isUpper = false := by decide
    rw [lowerChar_of_ascii hascii]
    have himage := of_ascii (P := fun d => d.toLower.isUpper = false) hlower hascii
    exact ⟨List.cons_ne_nil _ _, List.forall_mem_singleton.2 himage⟩
  · -- beyond ASCII a character is in the one table, in the other, or in none
    unfold lowerChar mapCase
    rw [if_neg hascii]
    split
    · next code image hexpand =>
      have himages : ∀ e ∈ lowercaseExpansions,
          e.2 ≠ [] ∧ ∀ n ∈ e.2, (Char.ofNat n).isUpper = false := by decide
      obtain ⟨hne, himage⟩ := himages _ (List.mem_of_find?_eq_some hexpand)
      refine ⟨mt List.map_eq_nil_iff.1 hne, fun d hd => ?_⟩
      obtain ⟨n, hn, rfl⟩ := List.mem_map.1 hd
      exact himage n hn
    · split
      · next first last step shift hfind =>
        have hruns : ∀ run ∈ lowercaseShifts, 0x5A < (run.1 : Int) + run.2.2.2 := by
          decide +kernel
        have hrun := hruns _ (List.mem_of_find?_eq_some hfind)
        have hfirst := List.find?_some hfind
        simp only [Bool.and_eq_true, decide_eq_true_eq] at hfirst
        refine ⟨List.cons_ne_nil _ _, List.forall_mem_singleton.2 ?_⟩
        rw [← Bool.not_eq_true]
        intro hupper
        -- a run does not reach down to the capitals
        have hcode := code_of_isUpper hupper
        dsimp only at hrun
        omega
      · refine ⟨List.cons_ne_nil _ _, List.forall_mem_singleton.2 ?_⟩
        rw [← Bool.not_eq_true, ← Char.ofNat_toNat c]
        intro hupper
        have hcode := code_of_isUpper hupper
        omega

namespace Schema

open Go

/-! ## Taking a name -/

/-- The first name of the series for a function that flattens the values of a type. -/
def flattenStem (name : String) : String := "flatten" ++ onChars capitalize name

/-- The first name of the series for the table of an enumeration. -/
def tableStem (name : String) : String := onChars lowerFirst name ++ "Names"

namespace Draft

/-- The name with index `n` of the series of a base is the first that is not taken.  The search for
it goes through at most all taken names. -/
structure FirstFree (base : String) (taken : List String) (n : Nat) : Prop where
  pos : 1 ≤ n
  le : n ≤ taken.length + 1
  free : numbered 2 "" base n ∉ taken
  before : ∀ i, 1 ≤ i → i < n → numbered 2 "" base i ∈ taken

/-- Names that differ and are taken are no more than those that are taken. -/
theorem le_length_of_taken {base : String} {taken : List String} {n : Nat}
    (hbefore : ∀ i, 1 ≤ i → i < n → numbered 2 "" base i ∈ taken) : n ≤ taken.length + 1 := by
  have hnodup : ((List.range' 1 (n - 1)).map (numbered 2 "" base)).Nodup := by
    refine List.Nodup.map_on (fun i hi j hj h => ?_) List.nodup_range'
    rw [List.mem_range'_1] at hi hj
    exact numbered_injective (by omega) (by omega) h
  have hsubset : (List.range' 1 (n - 1)).map (numbered 2 "" base) ⊆ taken := by
    intro name hname
    obtain ⟨i, hi, rfl⟩ := List.mem_map.1 hname
    rw [List.mem_range'_1] at hi
    exact hbefore i hi.1 (by omega)
  have hlength := (List.subperm_of_subset hnodup hsubset).length_le
  rw [List.length_map, List.length_range'] at hlength
  omega

/-- The search for a name ends, whatever is taken: at the base, or at the base with the least number
from 2 on that makes it free. -/
theorem takeName_spec (base : String) (d : Draft) :
    ∃ n, FirstFree base d.names n ∧
      takeName base d =
        (numbered 2 "" base n, { d with names := numbered 2 "" base n :: d.names }) := by
  obtain ⟨n, hn, heq, hbefore⟩ := exists_firstFree_eq (numbered 2 "" base) 1 d.names
  have hfree : firstFree (numbered 2 "" base) 1 d.names ∉ d.names :=
    firstFree_not_mem d.names fun i j hi hj h => numbered_injective (by omega) (by omega) h
  rw [heq] at hfree
  refine ⟨n, ⟨hn, le_length_of_taken hbefore, hfree, hbefore⟩, ?_⟩
  rw [← heq]
  rfl

/-- A function is there already, or is put before the others under the first free name of the series
of its type. -/
theorem flattenFor_spec (type : String) (union : Option UnionBranch) (fields : List Node)
    (d : Draft) :
    (flattenFor type union fields d).2 = d ∨
      ∃ n, FirstFree (flattenStem (baseName type)) d.names n ∧
        (flattenFor type union fields d).2 =
          { d with
            names := numbered 2 "" (flattenStem (baseName type)) n :: d.names
            functions := ⟨numbered 2 "" (flattenStem (baseName type)) n, type, union, fields⟩ ::
              d.functions } := by
  simp only [flattenFor, run_bind, run_get]
  cases d.functions.find? fun f => f.type = type ∧ f.union = union ∧ f.fields = fields with
  | some g => exact .inl rfl
  | none =>
    obtain ⟨n, hn, hrun⟩ := takeName_spec (flattenStem (baseName type)) d
    rw [flattenStem] at hn hrun
    refine .inr ⟨n, hn, ?_⟩
    simp only [run_bind, hrun, run_modify, run_pure, flattenStem]

/-- A table is there already, or is added, with first free names for its function and for itself. -/
theorem enumFlattenFor_spec (e : Enumeration) (type : String) (d : Draft) :
    (enumFlattenFor e type d).2 = d ∨
      d.tables.get? type = none ∧ ∃ n k, FirstFree (flattenStem e.name) d.names n ∧
        FirstFree (tableStem e.name) (numbered 2 "" (flattenStem e.name) n :: d.names) k ∧
        (enumFlattenFor e type d).2 =
          { d with
            names := numbered 2 "" (tableStem e.name) k ::
              numbered 2 "" (flattenStem e.name) n :: d.names
            tables := d.tables.insert type ⟨numbered 2 "" (flattenStem e.name) n,
              numbered 2 "" (tableStem e.name) k, type, e⟩ } := by
  simp only [enumFlattenFor, run_bind, run_get]
  cases hget : d.tables.get? type with
  | some t => exact .inl rfl
  | none =>
    obtain ⟨n, hn, hrun⟩ := takeName_spec (flattenStem e.name) d
    obtain ⟨k, hk, hrun'⟩ := takeName_spec (tableStem e.name)
      { d with names := numbered 2 "" (flattenStem e.name) n :: d.names }
    rw [flattenStem] at hn hrun hk hrun'
    rw [tableStem] at hk hrun'
    refine .inr ⟨rfl, n, k, hn, hk, ?_⟩
    simp only [run_bind, hrun, hrun', run_modify, run_pure, flattenStem, tableStem]

end Draft

/-! ## Names that start otherwise -/

/-- Whether a name starts with `D`. -/
def StartsWithD (name : String) : Prop := name.toList.head? = some 'D'

/-- A number behind a name does not change how it starts. -/
theorem startsWithD_numbered {base : String} (h : base.toList ≠ []) (n : Nat) :
    StartsWithD (numbered 2 "" base n) ↔ StartsWithD base := by
  rw [numbered]
  split
  · rfl
  · rw [StartsWithD, StartsWithD, String.append_empty, String.toList_append,
      List.head?_append_of_ne_nil _ h]

theorem not_startsWithD_flattenStem (name : String) (n : Nat) :
    ¬ StartsWithD (numbered 2 "" (flattenStem name) n) := by
  have hstem : (flattenStem name).toList = 'f' :: ("latten".toList ++ capitalize name.toList) := by
    rw [flattenStem, onChars, String.toList_append, String.toList_ofList (l := capitalize _)]
    rfl
  rw [startsWithD_numbered (by rw [hstem]; exact List.cons_ne_nil _ _), StartsWithD, hstem]
  show ¬ some 'f' = some 'D'
  decide

/-- A text with its first letter in lower case does not start with `D`, nor does `Names`. -/
theorem not_startsWithD_tableStem (name : String) (n : Nat) :
    ¬ StartsWithD (numbered 2 "" (tableStem name) n) := by
  have hstem : (tableStem name).toList = lowerFirst name.toList ++ "Names".toList := by
    rw [tableStem, onChars, String.toList_append, String.toList_ofList (l := lowerFirst _)]
  have hne : (tableStem name).toList ≠ [] := by
    rw [hstem]
    exact List.append_ne_nil_of_right_ne_nil _ (by decide)
  rw [startsWithD_numbered hne, StartsWithD, hstem]
  cases name.toList with
  | nil => decide
  | cons c cs =>
    obtain ⟨hlower, hupper⟩ := lowerChar_spec c
    obtain ⟨d, ds, heq⟩ := List.exists_cons_of_ne_nil hlower
    have hd : d.isUpper = false := hupper d (heq ▸ List.mem_cons_self)
    rw [lowerFirst, heq, List.cons_append, List.cons_append, List.head?_cons]
    rintro h
    obtain rfl := Option.some.inj h
    exact absurd hd (by decide)

/-- The names of a draft are those that it declares, they differ, and none starts with `D`. -/
structure Draft.NamedApart (d : Draft) : Prop where
  named : d.Named
  apart : ∀ name ∈ d.names, ¬ StartsWithD name

/-! ## What whole plans keep -/

/-- Every step of a plan keeps the names of a draft apart. -/
theorem steady_namedApart (enums : List Enumeration) :
    Steady enums (fun _ _ => True) Draft.NamedApart (fun _ _ _ _ => True) fun _ _ _ _ _ => True := by
  refine .of_steps (fun _ _ => trivial) ?_ (fun _ _ _ _ => trivial) ?_ ?_
  · -- types only take aliases
    intro d outer f _ hd
    obtain ⟨aliases, hrun, -⟩ := Draft.qualified?_run outer f d
    rw [hrun]
    exact ⟨hd.named.of_aliases aliases, hd.apart⟩
  · intro d type union fields hd
    refine ⟨Draft.flattenFor_named type union fields hd.named, ?_⟩
    rcases Draft.flattenFor_spec type union fields d with heq | ⟨n, -, heq⟩
    · rw [heq]
      exact hd.apart
    · rw [heq]
      exact List.forall_mem_cons.2 ⟨not_startsWithD_flattenStem _ n, hd.apart⟩
  · intro d e type hd
    refine ⟨Draft.enumFlattenFor_named e type hd.named, ?_⟩
    rcases Draft.enumFlattenFor_spec e type d with heq | ⟨-, n, k, -, -, heq⟩
    · rw [heq]
      exact hd.apart
    · rw [heq]
      refine List.forall_mem_cons.2 ⟨not_startsWithD_tableStem e.name k, ?_⟩
      exact List.forall_mem_cons.2 ⟨not_startsWithD_flattenStem e.name n, hd.apart⟩

/-! ## Plans -/

namespace Plan

/-- The names of the tables of a plan and of the functions that look values up in them, and those of
the functions that flatten structs. -/
def declared (p : Plan) : List String :=
  p.tables.flatMap (fun t => [t.table, t.flatten]) ++ p.functions.map (·.name)

end Plan

/-- The draft that a plan is made from. -/
def Plan.draft (s : Shape) (enums : List Enumeration) (reserved : List String) : Draft :=
  (content enums reserved ⟨s.importPath, s.importAlias⟩ (Plan.payload s).1 {}).2

/-- What a plan declares is what its draft does: a file has its tables first, and each table before
its function. -/
theorem declared_build (s : Shape) (enums : List Enumeration) (reserved : List String) :
    (Plan.build s enums reserved).declared.Perm (Plan.draft s enums reserved).declared := by
  have htables : ((Plan.build s enums reserved).tables.flatMap fun t => [t.table, t.flatten]).Perm
      ((Plan.draft s enums reserved).tables.values.flatMap fun t => [t.flatten, t.table]) :=
    List.Perm.flatMap_left _ fun t _ => .swap _ _ _
  exact (htables.append_right _).trans List.perm_append_comm

/-- What steps keep of a draft holds of the draft of a plan. -/
theorem Steady.draft {enums : List Enumeration} {Good : Draft → Prop}
    {Selects : Draft → Package → ShapeField → UnionBranch → Prop}
    {Fits : Draft → Package → ShapeField → NodeKind → List Node → Prop}
    (h : Steady enums (fun _ _ => True) Good Selects Fits) (hempty : Good {}) (s : Shape)
    (reserved : List String) : Good (Plan.draft s enums reserved) :=
  (h.planned.1 reserved ⟨s.importPath, s.importAlias⟩ (Plan.payload s).1 trivial {} hempty).good

/-- The names that a plan declares differ, and none of them starts with `D`. -/
theorem build_declared (s : Shape) (enums : List Enumeration) (reserved : List String) :
    (Plan.build s enums reserved).declared.Nodup ∧
      ∀ name ∈ (Plan.build s enums reserved).declared, ¬ StartsWithD name := by
  have hdraft := (steady_namedApart enums).draft
    ⟨.empty, fun _ h => absurd h List.not_mem_nil⟩ s reserved
  have hperm := (declared_build s enums reserved).trans hdraft.named.perm
  exact ⟨hperm.nodup_iff.2 hdraft.named.nodup, fun name hname =>
    hdraft.apart name (hperm.mem_iff.1 hname)⟩

end Schema

end ProviderGlue
