/-!
# Tables keyed by strings

A `Table` maps strings to values and lists its entries in the order of the keys, by code point.
The order is part of the type, so two tables with the same entries are equal whatever the order in
which they were filled.  The view is `get?`:

* `get?_empty`    `(empty : Table α).get? k = none`
* `get?_insert`   `(t.insert k v).get? k' = if k' = k then some v else t.get? k'`
* `get?_filterKeys`  keys that are not kept are gone, the others keep their values
* `ext_get?`      tables with equal views are equal
-/

namespace ProviderGlue

/-- A finite map from strings, with its entries in the order of the keys. -/
structure Table (α : Type) where
  /-- The entries in the order of their keys. -/
  entries : List (String × α)
  /-- Keys increase strictly. -/
  sorted : entries.Pairwise (·.1 < ·.1)

namespace Table

variable {α : Type}

instance [DecidableEq α] : DecidableEq (Table α) := fun s t =>
  match s, t with
  | ⟨a, _⟩, ⟨b, _⟩ => if h : a = b then isTrue (by subst h; rfl) else isFalse (by simpa using h)

/-- The table without entries. -/
def empty : Table α := ⟨[], .nil⟩

instance : EmptyCollection (Table α) := ⟨empty⟩

instance : Inhabited (Table α) := ⟨empty⟩

/-- The keys in increasing order. -/
def keys (t : Table α) : List String := t.entries.map (·.1)

/-- The values in the order of their keys. -/
def values (t : Table α) : List α := t.entries.map (·.2)

/-- The value under `key`. -/
def get? (t : Table α) (key : String) : Option α := t.entries.lookup key

/-- Whether `key` has a value. -/
def contains (t : Table α) (key : String) : Bool := (t.get? key).isSome

/-! ## Insertion -/

/-- Puts an entry at its place in a list sorted by keys, over an entry of the same key. -/
def insertEntry (key : String) (value : α) : List (String × α) → List (String × α)
  | [] => [(key, value)]
  | e :: es =>
    if key < e.1 then (key, value) :: e :: es
    else if key = e.1 then (key, value) :: es
    else e :: insertEntry key value es

theorem mem_insertEntry {key : String} {value : α} {es : List (String × α)} {x : String × α}
    (h : x ∈ insertEntry key value es) : x = (key, value) ∨ x ∈ es := by
  induction es with
  | nil => simpa [insertEntry] using h
  | cons e es ih =>
    simp only [insertEntry] at h
    split at h
    · simpa using h
    · split at h
      · rcases List.mem_cons.1 h with rfl | h
        · exact .inl rfl
        · exact .inr (List.mem_cons_of_mem _ h)
      · rcases List.mem_cons.1 h with rfl | h
        · exact .inr List.mem_cons_self
        · exact (ih h).imp id (List.mem_cons_of_mem _)

private theorem lt_of_not_lt_of_ne {a b : String} (h : ¬ a < b) (hne : a ≠ b) : b < a := by
  rcases Classical.em (b < a) with h' | h'
  · exact h'
  · exact absurd (String.le_antisymm (String.not_lt.1 h') (String.not_lt.1 h)) hne

theorem sorted_insertEntry (key : String) (value : α) {es : List (String × α)}
    (h : es.Pairwise (·.1 < ·.1)) : (insertEntry key value es).Pairwise (·.1 < ·.1) := by
  induction es with
  | nil => simp [insertEntry]
  | cons e es ih =>
    obtain ⟨he, hes⟩ := List.pairwise_cons.1 h
    simp only [insertEntry]
    split
    · next hlt =>
      refine List.pairwise_cons.2 ⟨fun x hx => ?_, h⟩
      rcases List.mem_cons.1 hx with rfl | hx
      · exact hlt
      · exact String.lt_trans hlt (he x hx)
    · next hge =>
      split
      · next heq =>
        subst heq
        exact List.pairwise_cons.2 ⟨he, hes⟩
      · next hne =>
        refine List.pairwise_cons.2 ⟨fun x hx => ?_, ih hes⟩
        rcases mem_insertEntry hx with rfl | hx
        · exact lt_of_not_lt_of_ne hge hne
        · exact he x hx

/-- The table with `value` under `key`, in place of an earlier value. -/
def insert (t : Table α) (key : String) (value : α) : Table α :=
  ⟨insertEntry key value t.entries, sorted_insertEntry key value t.sorted⟩

/-- The table of a list of entries; of entries with one key the last counts. -/
def ofList (es : List (String × α)) : Table α :=
  es.foldl (fun t e => t.insert e.1 e.2) empty

/-- The table with the entries of `other` put over those of `t`. -/
def union (t other : Table α) : Table α :=
  other.entries.foldl (fun t e => t.insert e.1 e.2) t

/-- The entries whose keys satisfy `keep`. -/
def filterKeys (t : Table α) (keep : String → Bool) : Table α :=
  ⟨t.entries.filter fun e => keep e.1, t.sorted.filter _⟩

/-! ## The view -/

@[simp] theorem get?_empty (key : String) : (empty : Table α).get? key = none := rfl

private theorem lookup_cons_eq (key : String) (e : String × α) (es : List (String × α)) :
    (e :: es).lookup key = if key = e.1 then some e.2 else es.lookup key := by
  obtain ⟨k, v⟩ := e
  by_cases h : key = k
  · simp [h]
  · simp [List.lookup_cons, h, beq_eq_false_iff_ne.2 h]

private theorem lookup_insertEntry (key key' : String) (value : α) (es : List (String × α)) :
    (insertEntry key value es).lookup key' =
      if key' = key then some value else es.lookup key' := by
  induction es with
  | nil => simp [insertEntry, lookup_cons_eq]
  | cons e es ih =>
    simp only [insertEntry]
    split
    · simp only [lookup_cons_eq]
    · split
      · next heq => by_cases h : key' = key <;> simp [lookup_cons_eq, heq ▸ h, h, ← heq]
      · next hne =>
        simp only [lookup_cons_eq, ih]
        by_cases h : key' = key
        · simp [h, hne]
        · simp [h]

theorem get?_insert (t : Table α) (key key' : String) (value : α) :
    (t.insert key value).get? key' = if key' = key then some value else t.get? key' :=
  lookup_insertEntry key key' value t.entries

private theorem lookup_filter (keep : String → Bool) (es : List (String × α)) (key : String) :
    (es.filter fun e => keep e.1).lookup key = if keep key then es.lookup key else none := by
  induction es with
  | nil => simp
  | cons e es ih =>
    by_cases he : keep e.1 = true
    · simp only [List.filter_cons, he, if_true, lookup_cons_eq, ih]
      by_cases hk : key = e.1
      · simp [hk, he]
      · simp [hk]
    · simp only [List.filter_cons, he, Bool.false_eq_true, if_false, ih, lookup_cons_eq]
      by_cases hk : key = e.1
      · simp [hk, he]
      · simp [hk]

theorem get?_filterKeys (t : Table α) (keep : String → Bool) (key : String) :
    (t.filterKeys keep).get? key = if keep key then t.get? key else none :=
  lookup_filter keep t.entries key

private theorem eq_of_lookup_eq {es fs : List (String × α)} (he : es.Pairwise (·.1 < ·.1))
    (hf : fs.Pairwise (·.1 < ·.1)) (h : ∀ key, es.lookup key = fs.lookup key) : es = fs := by
  induction es generalizing fs with
  | nil =>
    cases fs with
    | nil => rfl
    | cons f fs => simpa [lookup_cons_eq] using h f.1
  | cons e es ih =>
    obtain ⟨hlt, hes⟩ := List.pairwise_cons.1 he
    cases fs with
    | nil => simpa [lookup_cons_eq] using h e.1
    | cons f fs =>
      obtain ⟨hlt', hfs⟩ := List.pairwise_cons.1 hf
      have none_of_lt : ∀ {l : List (String × α)} {k : String}, (∀ x ∈ l, k < x.1) →
          l.lookup k = none := by
        intro l k hl
        induction l with
        | nil => rfl
        | cons x l ihl =>
          have hx : k ≠ x.1 := fun h => String.lt_irrefl _ (h ▸ hl x List.mem_cons_self)
          rw [lookup_cons_eq, if_neg hx]
          exact ihl fun y hy => hl y (List.mem_cons_of_mem _ hy)
      have hkey : e.1 = f.1 := by
        rcases Classical.em (e.1 = f.1) with h' | h'
        · exact h'
        · rcases Classical.em (e.1 < f.1) with hl | hl
          · have := h e.1
            rw [lookup_cons_eq, if_pos rfl, none_of_lt] at this
            · simp at this
            · intro x hx
              rcases List.mem_cons.1 hx with rfl | hx
              · exact hl
              · exact String.lt_trans hl (hlt' x hx)
          · have := h f.1
            rw [lookup_cons_eq f.1 f, if_pos rfl, none_of_lt] at this
            · simp at this
            · intro x hx
              have hl' := lt_of_not_lt_of_ne hl h'
              rcases List.mem_cons.1 hx with rfl | hx
              · exact hl'
              · exact String.lt_trans hl' (hlt x hx)
      have hval : e.2 = f.2 := by simpa [lookup_cons_eq, hkey] using h f.1
      have hef : e = f := Prod.ext hkey hval
      subst hef
      congr 1
      refine ih hes hfs fun k => ?_
      by_cases hk : k = e.1
      · rw [hk, none_of_lt hlt, none_of_lt hlt']
      · simpa [lookup_cons_eq, hk] using h k

/-- Tables with equal views are equal. -/
theorem ext_get? {s t : Table α} (h : ∀ key, s.get? key = t.get? key) : s = t := by
  obtain ⟨es, hes⟩ := s
  obtain ⟨fs, hfs⟩ := t
  congr
  exact eq_of_lookup_eq hes hfs h

end Table

end ProviderGlue
