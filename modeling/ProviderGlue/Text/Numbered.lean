/-!
# Names that are not taken

Where a name is taken, a number is put behind it.  `firstFree` finds the first free one of a series
of names, for any set of taken names:

* `numbered_injective`    the names of a series differ
* `firstFree_not_mem`     the name found is not taken
* `exists_firstFree_eq`   all names before it are
-/

namespace ProviderGlue.Text

/-- The name with index `n` of a series: the base itself up to index `first`, and from there on the
base with the index behind a separator. -/
def numbered (first : Nat) (separator base : String) (n : Nat) : String :=
  if n < first then base else base ++ separator ++ toString n

/-- The first name from index `n` on that is not taken. -/
def firstFree (names : Nat → String) (n : Nat) (taken : List String) : String :=
  if names n ∈ taken then firstFree names (n + 1) (taken.erase (names n)) else names n
termination_by taken.length
decreasing_by
  have := List.length_pos_of_mem ‹names n ∈ taken›
  rw [List.length_erase_of_mem ‹_›]
  omega

theorem toString_injective {m n : Nat} (h : toString m = toString n) : m = n := by
  have h := congrArg (fun s : String => Nat.ofDigitChars 10 s.toList 0) h
  simpa [Nat.toString_eq_repr, Nat.toList_repr, Nat.ofDigitChars_ten_toDigits] using h

/-- From the last index without number on, the names of a series differ. -/
theorem numbered_injective {first : Nat} {separator base : String} {m n : Nat}
    (hm : first ≤ m + 1) (hn : first ≤ n + 1)
    (h : numbered first separator base m = numbered first separator base n) : m = n := by
  have append_ne : ∀ k : Nat, base ++ separator ++ toString k ≠ base := by
    intro k hk
    have := congrArg String.length hk
    have hpos : 0 < (toString k).length := Nat.length_repr_pos
    simp only [String.length_append] at this
    omega
  unfold numbered at h
  split at h <;> split at h
  · omega
  · exact absurd h.symm (append_ne n)
  · exact absurd h (append_ne m)
  · have := congrArg String.toList h
    simp only [String.toList_append, List.append_cancel_left_eq] at this
    exact toString_injective (String.toList_inj.1 this)

/-- All names before the one found are taken. -/
theorem exists_firstFree_eq (names : Nat → String) (n : Nat) (taken : List String) :
    ∃ k, n ≤ k ∧ firstFree names n taken = names k ∧ ∀ i, n ≤ i → i < k → names i ∈ taken := by
  fun_induction firstFree names n taken with
  | case1 n taken hn ih =>
    obtain ⟨k, hk, heq, hbefore⟩ := ih
    refine ⟨k, by omega, heq, fun i hi hik => ?_⟩
    by_cases h : i = n
    · exact h ▸ hn
    · exact List.mem_of_mem_erase (hbefore i (by omega) hik)
  | case2 n taken hn => exact ⟨n, Nat.le_refl n, rfl, fun i hi hik => by omega⟩

/-- In a series without repetition the name found is not taken. -/
theorem firstFree_not_mem {names : Nat → String} {n : Nat} (taken : List String)
    (hinj : ∀ i j, n ≤ i → n ≤ j → names i = names j → i = j) :
    firstFree names n taken ∉ taken := by
  fun_induction firstFree names n taken with
  | case1 n taken hn ih =>
    have ih := ih fun i j hi hj => hinj i j (by omega) (by omega)
    obtain ⟨k, hk, heq, -⟩ := exists_firstFree_eq names (n + 1) (taken.erase (names n))
    intro hmem
    refine ih ((List.mem_erase_of_ne fun h => ?_).2 hmem)
    have := hinj k n (by omega) (Nat.le_refl n) (heq ▸ h)
    omega
  | case2 n taken hn => exact hn

end ProviderGlue.Text
