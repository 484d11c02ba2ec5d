import ProviderGlue.Go.TypeText
import ProviderGlue.Proofs.Text.Cut

/-!
# Declared names

The name that a type declares follows the last dot of its text, so it has no dot itself, and a
package can be put before it and taken off again.

## Key results

- `dot_not_mem_baseName`: declared names have no dots
- `unqualified_append`: taking off a package that was put before a declared name
-/

namespace ProviderGlue.Go

open Text

namespace TypeText

theorem afterLastDot_append {base : List Char} (package : List Char) (h : '.' ∉ base) :
    afterLastDot (package ++ '.' :: base) = base := by
  rw [afterLastDot, splitLast?_append _ h]
  rfl

theorem afterLastDot_eq_self {text : List Char} (h : '.' ∉ text) : afterLastDot text = text := by
  rw [afterLastDot, splitLast?_eq_none h]
  rfl

/-- No dot follows the last dot. -/
theorem dot_not_mem_afterLastDot (text : List Char) : '.' ∉ afterLastDot text := by
  by_cases h : '.' ∈ text.reverse
  · -- cut the reversed text at its first dot
    obtain ⟨base, package, heq, hbase⟩ := List.eq_append_cons_of_mem h
    have htext : text = package.reverse ++ '.' :: base.reverse := by
      rw [← List.reverse_reverse text, heq]
      simp
    have hbase' : '.' ∉ base.reverse := by simpa using hbase
    rw [htext, afterLastDot_append _ hbase']
    exact hbase'
  · have htext : '.' ∉ text := by simpa using h
    rw [afterLastDot_eq_self htext]
    exact htext

theorem dot_not_mem_baseName (text : List Char) : '.' ∉ baseName text :=
  fun h => dot_not_mem_afterLastDot _ (mem_of_mem_trim h)

end TypeText

/-- A type without the package that it is written with. -/
def unqualified (type : String) : String :=
  String.ofList (TypeText.afterLastDot type.toList)

theorem dot_not_mem_baseName (type : String) : '.' ∉ (baseName type).toList := by
  rw [baseName, String.toList_ofList]
  exact TypeText.dot_not_mem_baseName _

theorem unqualified_baseName (type : String) : unqualified (baseName type) = baseName type := by
  rw [unqualified, TypeText.afterLastDot_eq_self (dot_not_mem_baseName type), String.ofList_toList]

/-- A package that was put before a declared name comes off again. -/
theorem unqualified_append (package type : String) :
    unqualified (package ++ "." ++ baseName type) = baseName type := by
  have htext : (package ++ "." ++ baseName type).toList =
      package.toList ++ '.' :: (baseName type).toList := by
    simp
  rw [unqualified, htext, TypeText.afterLastDot_append _ (dot_not_mem_baseName type),
    String.ofList_toList]

end ProviderGlue.Go
