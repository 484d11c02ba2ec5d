import ProviderGlue.Extraction

/-!
# Fields of a shape at any depth

A field of a shape is reached along the fields that it stands below (`At`).  `Within` forgets them,
and `listLevels` counts the most that there are.

## Key results

- `ShapeField.mem_listTypes_iff`: the types of a shape are those of its fields at any depth
- `ShapeField.listLevels_le`: short paths make few levels
-/

namespace ProviderGlue.ShapeField

/-- Whether a field is one of some fields or stands below one of them. -/
inductive Within (f : ShapeField) : List ShapeField → Prop
  | here {fs : List ShapeField} : f ∈ fs → Within f fs
  | inside {g : ShapeField} {fs : List ShapeField} : g ∈ fs → Within f g.children → Within f fs

theorem not_within_nil {f : ShapeField} : ¬ f.Within [] := by
  intro h
  cases h with
  | here hmem => exact absurd hmem List.not_mem_nil
  | inside hmem _ => exact absurd hmem List.not_mem_nil

theorem within_cons_iff {f g : ShapeField} {fs : List ShapeField} :
    f.Within (g :: fs) ↔ f = g ∨ f.Within g.children ∨ f.Within fs := by
  constructor
  · intro h
    cases h with
    | here hmem => exact (List.mem_cons.1 hmem).imp id fun hmem => .inr (.here hmem)
    | inside hmem hin =>
      rcases List.mem_cons.1 hmem with rfl | hmem
      · exact .inr (.inl hin)
      · exact .inr (.inr (.inside hmem hin))
  · rintro (rfl | hin | hin)
    · exact .here List.mem_cons_self
    · exact .inside List.mem_cons_self hin
    · cases hin with
      | here hmem => exact .here (List.mem_cons_of_mem _ hmem)
      | inside hmem hin => exact .inside (List.mem_cons_of_mem _ hmem) hin

theorem Within.mono {f : ShapeField} {fs fs' : List ShapeField} (h : f.Within fs) (hfs : fs ⊆ fs') :
    f.Within fs' := by
  cases h with
  | here hmem => exact .here (hfs hmem)
  | inside hmem hin => exact .inside (hfs hmem) hin

/-- What stands anywhere below a field is among the same fields. -/
theorem Within.trans {f g : ShapeField} {fs : List ShapeField} (h : f.Within fs)
    (hg : g.Within f.children) : g.Within fs := by
  induction h with
  | here hmem => exact .inside hmem hg
  | inside hmem _ ih => exact .inside hmem ih

/-- What stands directly below a field is among the same fields. -/
theorem Within.child {f c : ShapeField} {fs : List ShapeField} (h : f.Within fs)
    (hc : c ∈ f.children) : c.Within fs :=
  h.trans (.here hc)

mutual

theorem mem_types_iff (type : String) : (f : ShapeField) →
    (type ∈ f.types ↔
      Go.baseName f.type = type ∨ ∃ g : ShapeField, g.Within f.children ∧ Go.baseName g.type = type)
  | ⟨_, _, _, _, children, _, _⟩ => by
    rw [types, List.mem_cons, mem_listTypes_iff type children, eq_comm]

/-- The types that fields mention are those of the fields at any depth. -/
theorem mem_listTypes_iff (type : String) : (fs : List ShapeField) →
    (type ∈ listTypes fs ↔ ∃ g : ShapeField, g.Within fs ∧ Go.baseName g.type = type)
  | [] => by
    rw [listTypes]
    exact ⟨fun h => absurd h List.not_mem_nil, fun ⟨_, h, _⟩ => absurd h not_within_nil⟩
  | f :: fs => by
    rw [listTypes, List.mem_append, mem_types_iff type f, mem_listTypes_iff type fs]
    simp only [within_cons_iff, or_and_right, exists_or, exists_eq_left, or_assoc]

end

/-! ## Levels -/

/-- A field stands below the fields of a path, the nearest first. -/
inductive At (fs : List ShapeField) : List ShapeField → ShapeField → Prop
  | top {f : ShapeField} : f ∈ fs → At fs [] f
  | child {as : List ShapeField} {f c : ShapeField} :
    At fs as f → c ∈ f.children → At fs (f :: as) c

theorem At.within {f : ShapeField} {fs as : List ShapeField} (h : At fs as f) : f.Within fs := by
  induction h with
  | top hmem => exact .here hmem
  | child _ hc ih => exact ih.child hc

/-- What stands below a field stands below the fields around that one, too. -/
theorem At.lift {f g : ShapeField} {fs as : List ShapeField} (hf : f ∈ fs)
    (h : At f.children as g) : At fs (as ++ [f]) g := by
  induction h with
  | top hmem => exact .child (.top hf) hmem
  | child _ hc ih => exact .child ih hc

theorem At.of_cons {f g : ShapeField} {fs as : List ShapeField} (h : At fs as g) :
    At (f :: fs) as g := by
  induction h with
  | top hmem => exact .top (List.mem_cons_of_mem _ hmem)
  | child _ hc ih => exact .child ih hc

mutual

/-- How many levels a field and the fields below it make. -/
def levels : ShapeField → Nat
  | ⟨_, _, _, _, children, _, _⟩ => listLevels children + 1

/-- How many levels fields and the fields below them make. -/
def listLevels : List ShapeField → Nat
  | [] => 0
  | f :: fs => max f.levels (listLevels fs)

end

theorem levels_pos (f : ShapeField) : 0 < f.levels := by
  cases f
  rw [levels]
  exact Nat.succ_pos _

theorem listLevels_pos (f : ShapeField) (fs : List ShapeField) : 0 < listLevels (f :: fs) := by
  have hpos := f.levels_pos
  rw [listLevels]
  omega

mutual

theorem levels_le {n : Nat} : (f : ShapeField) →
    (∀ as g, At f.children as g → as.length < n) → f.levels ≤ n + 1
  | ⟨_, _, _, _, children, _, _⟩ => fun h => by
    rw [levels]
    have := listLevels_le children h
    omega

/-- If no path is long, there are few levels. -/
theorem listLevels_le {n : Nat} : (fs : List ShapeField) →
    (∀ as g, At fs as g → as.length < n) → listLevels fs ≤ n
  | [] => fun _ => by
    rw [listLevels]
    exact Nat.zero_le n
  | f :: fs => fun h => by
    have hpos : 0 < n := h [] f (.top List.mem_cons_self)
    -- below `f` there is one level less to use
    have hf : f.levels ≤ n - 1 + 1 := levels_le f fun as g hg => by
      have := h _ g (hg.lift List.mem_cons_self)
      rw [List.length_append, List.length_singleton] at this
      omega
    have hfs : listLevels fs ≤ n := listLevels_le fs fun as g hg => h as g hg.of_cons
    rw [listLevels]
    omega

end

end ProviderGlue.ShapeField
