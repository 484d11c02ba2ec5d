import Mathlib.Data.List.Nodup
import ProviderGlue.DataSource

/-!
# Tables of enumerations

The table in a file takes one variant for each ordinal, in one pass that remembers the ordinals it has
met.  The lookup of a symbolic name searches for the first variant with an ordinal.  Both find the same
variant, however ordinals and names repeat.

## Key results

- `mem_firstOfOrdinal`: the pass takes the variant that the search finds
- `tableEntries_eq_firstOfOrdinal`: names that are looked up again are those of the variants taken
- `tableEntries_agrees`: the table holds what the lookup gives, once for each ordinal and in order
-/

namespace ProviderGlue.DataSource

/-- The search passes over a variant with another ordinal. -/
theorem find?_ordinal_of_ne {w : Variant} {ordinal : Int64} (h : w.ordinal ≠ ordinal)
    (ws : List Variant) :
    (w :: ws).find? (·.ordinal == ordinal) = ws.find? (·.ordinal == ordinal) :=
  List.find?_cons_of_neg fun heq => h (eq_of_beq heq)

/-- The pass takes the variants that the search finds, among those with ordinals that it has not met. -/
theorem mem_firstOfOrdinal {v : Variant} {seen : List Int64} {vs : List Variant} :
    v ∈ firstOfOrdinal seen vs ↔
      v.ordinal ∉ seen ∧ vs.find? (·.ordinal == v.ordinal) = some v := by
  induction vs generalizing seen with
  | nil => simp [firstOfOrdinal]
  | cons w ws ih =>
    by_cases hmet : w.ordinal ∈ seen
    · rw [firstOfOrdinal, if_pos hmet, ih]
      refine and_congr_right fun hnew => ?_
      have hne : w.ordinal ≠ v.ordinal := fun heq => hnew (heq ▸ hmet)
      rw [find?_ordinal_of_ne hne]
    · rw [firstOfOrdinal, if_neg hmet, List.mem_cons, ih, List.mem_cons, not_or]
      by_cases heq : w.ordinal = v.ordinal
      · -- the first of its ordinal: nothing behind it is taken
        have hfirst : (w :: ws).find? (·.ordinal == v.ordinal) = some w :=
          List.find?_cons_of_pos (beq_iff_eq.2 heq)
        rw [hfirst, Option.some_inj]
        constructor
        · rintro (rfl | ⟨⟨hne, -⟩, -⟩)
          · exact ⟨hmet, rfl⟩
          · exact absurd heq.symm hne
        · rintro ⟨-, rfl⟩
          exact .inl rfl
      · have hne : v ≠ w := fun h => heq (h ▸ rfl)
        rw [find?_ordinal_of_ne heq]
        simp [hne, Ne.symm heq]

/-- The variants that the pass takes stand in the order in which their ordinals occur first. -/
theorem pairwise_firstOfOrdinal (seen : List Int64) (vs : List Variant) :
    (firstOfOrdinal seen vs).Pairwise fun v w =>
      vs.findIdx (·.ordinal == v.ordinal) < vs.findIdx (·.ordinal == w.ordinal) := by
  induction vs generalizing seen with
  | nil => exact .nil
  | cons u us ih =>
    -- behind the first variant, all indices go up by one, as its ordinal is not taken again
    have hlater : ∀ {met : List Int64}, u.ordinal ∈ met → ∀ v ∈ firstOfOrdinal met us,
        (u :: us).findIdx (·.ordinal == v.ordinal) = us.findIdx (·.ordinal == v.ordinal) + 1 := by
      intro met hmet v hv
      have hother : (u.ordinal == v.ordinal) = false :=
        beq_false_of_ne fun heq => (mem_firstOfOrdinal.1 hv).1 (heq ▸ hmet)
      rw [List.findIdx_cons, hother, cond_false]
    have hrest : ∀ {met : List Int64}, u.ordinal ∈ met → (firstOfOrdinal met us).Pairwise fun v w =>
        (u :: us).findIdx (·.ordinal == v.ordinal) < (u :: us).findIdx (·.ordinal == w.ordinal) := by
      intro met hmet
      refine (ih met).imp_of_mem fun hv hw hlt => ?_
      rw [hlater hmet _ hv, hlater hmet _ hw]
      exact Nat.succ_lt_succ hlt
    rw [firstOfOrdinal]
    split
    · exact hrest ‹_›
    · refine List.pairwise_cons.2 ⟨fun v hv => ?_, hrest List.mem_cons_self⟩
      rw [hlater List.mem_cons_self v hv, List.findIdx_cons, beq_self_eq_true, cond_true]
      exact Nat.succ_pos _

/-- The name of a variant that the pass takes is the one that is looked up for its ordinal. -/
theorem tableEntries_eq_firstOfOrdinal (e : Enumeration) :
    tableEntries e = firstOfOrdinal [] e.variants := by
  have hsame : ∀ v ∈ firstOfOrdinal [] e.variants,
      ((e.symbolFor v.ordinal).toOption.map fun name => (⟨name, v.ordinal⟩ : Variant)) = some v := by
    intro v hv
    rw [Enumeration.symbolFor, (mem_firstOfOrdinal.1 hv).2]
    rfl
  rw [tableEntries, List.filterMap_congr hsame, List.filterMap_some]

theorem mem_tableEntries {e : Enumeration} {name : String} {ordinal : Int64} :
    ⟨name, ordinal⟩ ∈ tableEntries e ↔ e.symbolFor ordinal = .ok name := by
  rw [tableEntries_eq_firstOfOrdinal, mem_firstOfOrdinal, Enumeration.symbolFor]
  cases hfind : e.variants.find? (·.ordinal == ordinal) with
  | none => simp
  | some v =>
    have hordinal : v.ordinal = ordinal :=
      eq_of_beq (List.find?_some (p := fun w : Variant => w.ordinal == ordinal) hfind)
    constructor
    · rintro ⟨-, hv⟩
      rw [Option.some_inj.1 hv]
    · intro hname
      refine ⟨List.not_mem_nil, congrArg some ?_⟩
      rw [← Except.ok.inj hname, ← hordinal]

/-- **The table of an enumeration agrees with the lookup of symbolic names**, however ordinals and
names repeat: it holds a name under an ordinal exactly if the lookup gives it, the ordinals differ and
stand in the order in which they first occur, and the lookup fails for the ordinals without an entry. -/
theorem tableEntries_agrees (e : Enumeration) :
    (∀ name ordinal, ⟨name, ordinal⟩ ∈ tableEntries e ↔ e.symbolFor ordinal = .ok name) ∧
    ((tableEntries e).map (·.ordinal)).Nodup ∧
    ((tableEntries e).Pairwise fun v w =>
      e.variants.findIdx (·.ordinal == v.ordinal) < e.variants.findIdx (·.ordinal == w.ordinal)) ∧
    ∀ ordinal, (∃ f, e.symbolFor ordinal = .error f ∧ f.category = .lookup) ↔
      ∀ v ∈ tableEntries e, v.ordinal ≠ ordinal := by
  have horder := pairwise_firstOfOrdinal [] e.variants
  rw [← tableEntries_eq_firstOfOrdinal] at horder
  refine ⟨fun name ordinal => mem_tableEntries, ?_, horder, fun ordinal => ⟨?_, fun hnone => ?_⟩⟩
  · refine List.pairwise_map.2 (horder.imp fun hlt heq => ?_)
    rw [heq] at hlt
    exact Nat.lt_irrefl _ hlt
  · rintro ⟨f, hf, -⟩ v hv rfl
    rw [mem_tableEntries.1 hv] at hf
    exact nomatch hf
  · cases hfound : e.symbolFor ordinal with
    | ok name => exact absurd rfl (hnone _ (mem_tableEntries.2 hfound))
    | error f =>
      refine ⟨f, rfl, ?_⟩
      rw [Enumeration.symbolFor] at hfound
      split at hfound
      · exact nomatch hfound
      · rw [← Except.error.inj hfound]
        rfl

/-- Of the names for an ordinal the first is written, and an ordinal keeps its first place. -/
example : tableEntries ⟨"State", "", [⟨"OFF", 0⟩, ⟨"ON", 1⟩, ⟨"NONE", 0⟩, ⟨"ON", 2⟩]⟩ =
    [⟨"OFF", 0⟩, ⟨"ON", 1⟩, ⟨"ON", 2⟩] := by
  decide

end ProviderGlue.DataSource
