import ProviderGlue.Table

/-!
# Tables as finite maps

The entries, keys and values of a table in terms of `get?`.

## Key results

- `mem_entries_iff`, `mem_keys_iff`, `mem_values_iff`: what `get?` finds is what the table holds
- `contains_iff`: a table contains the keys that have a value
- `entries_insert_perm`: a new key adds one entry
- `mem_keys_ofList_iff`: the keys of a list of entries
- `get?_ofList`: of the entries with one key, the last counts
- `get?_union`: of the entries with one key in two tables, that of the other one counts
-/

namespace ProviderGlue.Table

variable {α : Type}

private theorem lookup_eq_some_of_mem {es : List (String × α)} {key : String} {value : α}
    (hes : es.Pairwise (·.1 < ·.1)) (h : (key, value) ∈ es) : es.lookup key = some value := by
  induction es with
  | nil => exact absurd h List.not_mem_nil
  | cons e es ih =>
    obtain ⟨hlt, hes⟩ := List.pairwise_cons.1 hes
    rcases List.mem_cons.1 h with rfl | h
    · exact List.lookup_cons_self
    · -- all later keys are greater than the first one
      have hne : key ≠ e.1 := fun heq => String.lt_irrefl _ (heq ▸ hlt _ h)
      rw [List.lookup_cons, beq_eq_false_iff_ne.2 hne]
      exact ih hes h

private theorem mem_of_lookup_eq_some {es : List (String × α)} {key : String} {value : α}
    (h : es.lookup key = some value) : (key, value) ∈ es := by
  induction es with
  | nil => exact absurd h (by simp)
  | cons e es ih =>
    obtain ⟨k, v⟩ := e
    rw [List.lookup_cons] at h
    cases hk : key == k with
    | true =>
      rw [hk] at h
      rw [eq_of_beq hk, ← Option.some.inj h]
      exact List.mem_cons_self
    | false =>
      rw [hk] at h
      exact List.mem_cons_of_mem _ (ih h)

/-- A table has an entry iff `get?` finds it. -/
theorem mem_entries_iff {t : Table α} {key : String} {value : α} :
    (key, value) ∈ t.entries ↔ t.get? key = some value :=
  ⟨lookup_eq_some_of_mem t.sorted, mem_of_lookup_eq_some⟩

/-- The keys are those under which there is a value. -/
theorem mem_keys_iff {t : Table α} {key : String} :
    key ∈ t.keys ↔ ∃ value, t.get? key = some value := by
  simp only [keys, List.mem_map, Prod.exists, exists_and_right, exists_eq_right, mem_entries_iff]

/-- The values are those that stand under some key. -/
theorem mem_values_iff {t : Table α} {value : α} :
    value ∈ t.values ↔ ∃ key, t.get? key = some value := by
  simp only [values, List.mem_map, Prod.exists, exists_eq_right, mem_entries_iff]

/-- A table contains its keys. -/
theorem contains_iff {t : Table α} {key : String} : t.contains key = true ↔ key ∈ t.keys := by
  rw [contains, Option.isSome_iff_exists, mem_keys_iff]

private theorem insertEntry_perm {key : String} {value : α} {es : List (String × α)}
    (h : es.lookup key = none) : (insertEntry key value es).Perm ((key, value) :: es) := by
  induction es with
  | nil => exact List.Perm.refl _
  | cons e es ih =>
    obtain ⟨k, v⟩ := e
    rw [List.lookup_cons] at h
    have hne : (key == k) = false := by
      cases hk : key == k with
      | true => rw [hk] at h; exact absurd h (by simp)
      | false => rfl
    rw [hne] at h
    simp only [insertEntry]
    split
    · exact List.Perm.refl _
    · rw [if_neg (ne_of_beq_false hne)]
      exact ((ih h).cons _).trans (List.Perm.swap _ _ _)

/-- Under a new key a table gets one more entry. -/
theorem entries_insert_perm {t : Table α} {key : String} (value : α) (h : t.get? key = none) :
    (t.insert key value).entries.Perm ((key, value) :: t.entries) :=
  insertEntry_perm h

/-- Under a new key a table gets one more value. -/
theorem values_insert_perm {t : Table α} {key : String} (value : α) (h : t.get? key = none) :
    (t.insert key value).values.Perm (value :: t.values) :=
  (entries_insert_perm value h).map _

/-- An insertion adds its key. -/
theorem mem_keys_insert_iff {t : Table α} {key key' : String} {value : α} :
    key' ∈ (t.insert key value).keys ↔ key' = key ∨ key' ∈ t.keys := by
  simp only [mem_keys_iff, get?_insert]
  by_cases h : key' = key
  · simp [h]
  · simp [h]

/-- The table of a list of entries has the keys of the list. -/
theorem mem_keys_ofList_iff {es : List (String × α)} {key : String} :
    key ∈ (ofList es).keys ↔ key ∈ es.map (·.1) := by
  -- the table is filled entry by entry, so the claim is shown for any table to start from
  have hfold : ∀ t : Table α, key ∈ (es.foldl (fun t e => t.insert e.1 e.2) t).keys ↔
      key ∈ t.keys ∨ key ∈ es.map (·.1) := by
    induction es with
    | nil => intro t; simp
    | cons e es ih =>
      intro t
      rw [List.foldl_cons, ih, mem_keys_insert_iff, List.map_cons, List.mem_cons,
        ← or_assoc, or_comm (a := key ∈ t.keys)]
  rw [ofList, hfold]
  exact or_iff_right List.not_mem_nil

/-- Entries are put over each other in the order of the list. -/
theorem get?_foldl_insert (es : List (String × α)) (t : Table α) (key : String) :
    (es.foldl (fun t e => t.insert e.1 e.2) t).get? key =
      ((es.filter (·.1 = key)).getLast?.map (·.2)).or (t.get? key) := by
  induction es generalizing t with
  | nil => rfl
  | cons e es ih =>
    rw [List.foldl_cons, ih, get?_insert, List.filter_cons]
    by_cases h : e.1 = key
    · rw [if_pos h.symm, if_pos (decide_eq_true h), List.getLast?_cons]
      cases (es.filter (·.1 = key)).getLast? <;> rfl
    · rw [if_neg (Ne.symm h), if_neg (by simpa using h)]

/-- Of the entries with one key, the last counts. -/
theorem get?_ofList (es : List (String × α)) (key : String) :
    (ofList es).get? key = (es.filter (·.1 = key)).getLast?.map (·.2) := by
  rw [ofList, get?_foldl_insert, get?_empty, Option.or_none]

/-- The entries of the other table are put over those of a table. -/
theorem get?_union (t other : Table α) (key : String) :
    (t.union other).get? key = (other.get? key).or (t.get? key) := by
  rw [union, get?_foldl_insert]
  congr 1
  cases hget : other.get? key with
  | none =>
    have hnone : other.entries.filter (·.1 = key) = [] := by
      refine List.filter_eq_nil_iff.2 fun e he hkey => ?_
      rw [← of_decide_eq_true hkey, mem_entries_iff.1 he] at hget
      contradiction
    rw [hnone]
    rfl
  | some value =>
    have hmem : (key, value) ∈ other.entries.filter (·.1 = key) :=
      List.mem_filter.2 ⟨mem_entries_iff.2 hget, decide_eq_true rfl⟩
    obtain ⟨e, hlast⟩ := Option.isSome_iff_exists.1 (List.getLast?_isSome.2 (List.ne_nil_of_mem hmem))
    -- whatever the last entry of the key is, it is the only one
    obtain ⟨he, hkey⟩ := List.mem_filter.1 (List.mem_of_getLast? hlast)
    rw [hlast, Option.map_some, ← mem_entries_iff.1 he, of_decide_eq_true hkey, hget]

/-- The keys of a table differ. -/
theorem nodup_keys (t : Table α) : t.keys.Nodup := by
  refine List.pairwise_map.2 (t.sorted.imp fun h heq => ?_)
  exact String.lt_irrefl _ (heq ▸ h)

end ProviderGlue.Table
