import Mathlib.Data.List.DropRight
import ProviderGlue.Proofs.Go.TypeText

/-!
# Wrappers of types

The declared name of a type is found at the end of its text, behind stars, brackets and blanks.  None
of these is left at its start, unless a package hides them: `import1.[]Widget` has the name
`[]Widget`.

## Key results

- `stripWrappers_start`: what is found behind the wrappers of a type
- `not_prefix_baseName`: without a package, no declared name looks like a slice
-/

namespace ProviderGlue.Go.TypeText

open Text Unicode

/-! ## Ends of a text -/

theorem afterClosing?_suffix {depth : Nat} {text rest : List Char}
    (h : afterClosing? depth text = some rest) : rest <:+ text := by
  fun_induction afterClosing? depth text with
  | case1 => contradiction
  | case2 depth cs ih => exact (ih h).trans (List.suffix_cons _ _)
  | case3 depth cs hdepth =>
    obtain rfl := Option.some.inj h
    exact List.suffix_cons _ _
  | case4 depth cs hdepth ih => exact (ih h).trans (List.suffix_cons _ _)
  | case5 depth c cs _ _ ih => exact (ih h).trans (List.suffix_cons _ _)

theorem afterArrayLength?_suffix {text rest : List Char}
    (h : afterArrayLength? text = some rest) : rest <:+ text := by
  unfold afterArrayLength? at h
  split at h
  · next cs =>
    split at h
    · next htake hdrop =>
      obtain rfl := Option.some.inj h
      have hclosing : ']' :: _ <:+ cs := hdrop ▸ List.dropWhile_suffix _
      exact ((List.suffix_cons _ _).trans hclosing).trans (List.suffix_cons _ _)
    · contradiction
  · contradiction

/-- What follows brackets is the end of the text. -/
theorem afterBrackets?_suffix {text rest : List Char} (h : afterBrackets? text = some rest) :
    rest <:+ text := by
  simp only [afterBrackets?, Option.or_eq_some_iff] at h
  rcases h with h | ⟨-, h | ⟨-, h⟩⟩
  · exact ⟨_, (afterPrefix?_eq_some_iff.1 h).symm⟩
  · obtain ⟨key, hkey, h⟩ := Option.bind_eq_some_iff.1 h
    exact (afterClosing?_suffix h).trans ⟨_, (afterPrefix?_eq_some_iff.1 hkey).symm⟩
  · exact afterArrayLength?_suffix h

theorem stripStars_suffix (text : List Char) : stripStars text <:+ text :=
  (List.dropWhile_suffix _).trans (List.dropWhile_suffix _)

/-- Without its wrappers, a type is the end of its text. -/
theorem stripWrappers_suffix (text : List Char) : stripWrappers text <:+ text := by
  fun_induction stripWrappers text with
  | case1 text bare rest hrest ih =>
    have hbare : rest <:+ bare := afterBrackets?_suffix hrest
    exact ((ih.trans (List.dropWhile_suffix _)).trans hbare).trans (stripStars_suffix text)
  | case2 text bare _ _ ih => exact ih.trans (stripStars_suffix text)
  | case3 text bare _ _ => exact stripStars_suffix text

/-! ## Starts of a text -/

/-- Without its wrappers, a type starts neither with a blank nor with the brackets of a slice. -/
theorem stripWrappers_start (text : List Char) :
    trimStart (stripWrappers text) = stripWrappers text ∧
      afterPrefix? ['[', ']'] (stripWrappers text) = none := by
  fun_induction stripWrappers text with
  | case1 text bare rest hrest ih => exact ih
  | case2 text bare _ _ ih => exact ih
  | case3 text bare hnone _ =>
    simp only [afterBrackets?, Option.or_eq_none_iff] at hnone
    exact ⟨List.dropWhile_idempotent _ _, hnone.1⟩

/-- What is no slice does not start with brackets. -/
theorem afterPrefix?_unpointed {text : List Char} (h : isSlice text = false) :
    afterPrefix? ['[', ']'] (unpointed text) = none := by
  rw [Option.eq_none_iff_forall_ne_some]
  intro rest hrest
  have hslice : isSlice text = true :=
    List.isPrefixOf_iff_prefix.2 ⟨rest, (afterPrefix?_eq_some_iff.1 hrest).symm⟩
  rw [h] at hslice
  contradiction

/-- Unless a type is a slice, a dot anywhere in it is a dot of its element. -/
theorem dot_not_mem_of_elementType {text : List Char} (hslice : isSlice text = false)
    (h : '.' ∉ elementType text) : '.' ∉ text := by
  intro hmem
  apply h
  have hbare : '.' ∈ unpointed text := mem_dropWhile_of_not (mem_trim_of_mem hmem rfl) rfl
  rw [elementType, afterPrefix?_unpointed hslice]
  exact mem_trim_of_mem (mem_dropWhile_of_not hbare rfl) rfl

/-- A declared name does not start with the brackets of a slice, if the type has no package. -/
theorem not_prefix_baseName {text : List Char} (h : '.' ∉ text) :
    ¬ ['[', ']'] <+: baseName text := by
  obtain ⟨htrim, hnone⟩ := stripWrappers_start (trim text)
  have hdot : '.' ∉ stripWrappers (trim text) := fun hmem =>
    h (mem_of_mem_trim ((stripWrappers_suffix _).subset hmem))
  -- with no blank at the start, trimming only takes away from the end
  have hends : trim (stripWrappers (trim text)) <+: stripWrappers (trim text) := by
    rw [trim, htrim, ← List.reverse_suffix, dropEndWhile, List.reverse_reverse]
    exact List.dropWhile_suffix _
  intro hprefix
  rw [baseName, afterLastDot_eq_self hdot] at hprefix
  obtain ⟨rest, hrest⟩ := hprefix.trans hends
  rw [← hrest, afterPrefix?_append] at hnone
  exact Option.some_ne_none _ hnone

end ProviderGlue.Go.TypeText
