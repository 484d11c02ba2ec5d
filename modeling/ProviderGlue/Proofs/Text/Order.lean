import Mathlib.Data.List.Lex
import Mathlib.Data.String.Basic
import ProviderGlue.Text.Basic

/-!
# The order of lists

`notBehind` is the lexicographic order of lists of numbers or of names.

## Key results

- `notBehind_iff`: what is not behind is less or equal
- `pairwise_mergeSort_rank`: a list that is sorted by a rank is in the order of the ranks
- `le_getLast_of_pairwise`: in a sorted list nothing is greater than the last element
- `eq_of_strictly_sorted`: lists in strict order are determined by their elements
-/

namespace ProviderGlue.Text

/-- What is not behind is less or equal. -/
theorem notBehind_iff {α : Type} [LinearOrder α] [BEq α] [LawfulBEq α] [DecidableLT α]
    {as bs : List α} : notBehind as bs = true ↔ as ≤ bs := by
  rw [notBehind, Bool.not_eq_true', ← Bool.not_eq_true, List.lex_eq_true_iff_lt]
  exact not_lt

/-- Between lists of one length, what follows them does not count. -/
theorem append_lt_append {α : Type} [LT α] {as bs : List α} (hlength : as.length = bs.length)
    (h : as < bs) (cs ds : List α) : as ++ cs < bs ++ ds := by
  induction as generalizing bs with
  | nil =>
    rw [List.eq_nil_of_length_eq_zero hlength.symm] at h
    exact absurd h (List.not_lt_nil [])
  | cons a as ih =>
    obtain ⟨b, bs, rfl⟩ := List.exists_cons_of_length_eq_add_one hlength.symm
    rw [List.cons_lt_cons_iff] at h
    rw [List.cons_append, List.cons_append, List.cons_lt_cons_iff]
    exact h.imp_right fun ⟨heq, hlt⟩ => ⟨heq, ih (Nat.succ.inj hlength) hlt⟩

/-- A list that is sorted by a rank is in the order of the ranks. -/
theorem pairwise_mergeSort_rank {α β : Type} [LinearOrder β] {le : α → α → Bool} {rank : α → β}
    (h : ∀ a b, le a b = true ↔ rank a ≤ rank b) (l : List α) :
    (l.mergeSort le).Pairwise fun a b => rank a ≤ rank b := by
  refine (List.pairwise_mergeSort (fun a b c hab hbc => ?_) (fun a b => ?_) l).imp (h _ _).1
  · exact (h a c).2 (le_trans ((h a b).1 hab) ((h b c).1 hbc))
  · rw [Bool.or_eq_true, h, h]
    exact le_total (rank a) (rank b)

/-- In a sorted list nothing is greater than the last element. -/
theorem le_getLast_of_pairwise {α : Type} {r : α → α → Prop} (hrefl : ∀ a, r a a) {l : List α}
    (h : l.Pairwise r) {last : α} (hlast : l.getLast? = some last) {a : α} (ha : a ∈ l) :
    r a last := by
  obtain ⟨front, rfl⟩ := List.getLast?_eq_some_iff.1 hlast
  rcases List.mem_append.1 ha with ha | ha
  · exact (List.pairwise_append.1 h).2.2 a ha last List.mem_cons_self
  · rw [List.mem_singleton.1 ha]
    exact hrefl last

/-- Lists in strict order are determined by their elements. -/
theorem eq_of_strictly_sorted {α : Type} {r : α → α → Prop} (hirrefl : ∀ a, ¬ r a a)
    (htrans : ∀ {a b c}, r a b → r b c → r a c) {l l' : List α} (h : l.Pairwise r)
    (h' : l'.Pairwise r) (hmem : ∀ a, a ∈ l ↔ a ∈ l') : l = l' := by
  have hne : ∀ {a b}, r a b → a ≠ b := by
    rintro a b hlt rfl
    exact hirrefl a hlt
  have hperm := (List.perm_ext_iff_of_nodup (h.imp hne) (h'.imp hne)).2 hmem
  exact hperm.eq_of_pairwise (fun a b _ _ hab hba => absurd (htrans hab hba) (hirrefl a)) h h'

end ProviderGlue.Text
