import ProviderGlue.Proofs.Path
import ProviderGlue.Proofs.Text.Ascii

/-!
# Paths written character by character

A path keeps its components if each of its characters is written in some way, but slashes and dots stay
as they are and nothing else becomes one of them.  Letter case can be given up in this way.

## Key results

- `KeepsComponents.components_written`: the components are written as the path is
- `eq_of_components_eq`: paths that differ in letter case only differ in their components
-/

namespace ProviderGlue.Path

open Text

/-! ## Ways to write -/

/-- A string that is written character by character. -/
def written (write : Char → List Char) (s : String) : String := String.ofList (s.toList.flatMap write)

/-- A way to write characters in which paths keep their components. -/
structure KeepsComponents (write : Char → List Char) : Prop where
  nonempty : ∀ c, write c ≠ []
  slash : write '/' = ['/']
  noSlash : ∀ c, c ≠ '/' → '/' ∉ write c
  dot : ∀ c, write c = ['.'] ↔ c = '.'

namespace KeepsComponents

variable {write : Char → List Char} (h : KeepsComponents write)
include h

theorem flatMap_eq_nil_iff {text : List Char} : text.flatMap write = [] ↔ text = [] := by
  cases text with
  | nil => exact iff_of_true rfl rfl
  | cons c cs =>
    refine iff_of_false (fun heq => ?_) (List.cons_ne_nil c cs)
    exact h.nonempty c (List.append_eq_nil_iff.1 heq).1

theorem flatMap_eq_dot_iff {text : List Char} : text.flatMap write = ['.'] ↔ text = ['.'] := by
  cases text with
  | nil => exact iff_of_false (List.cons_ne_nil _ _).symm (List.cons_ne_nil _ _).symm
  | cons c cs =>
    rw [List.flatMap_cons, List.append_eq_singleton_iff, or_iff_right fun heq => h.nonempty c heq.1,
      h.dot, h.flatMap_eq_nil_iff, List.cons_eq_cons]

theorem isCurrent_written (component : String) :
    isCurrent (written write component) = isCurrent component := by
  have hempty : (written write component).isEmpty = component.isEmpty := by
    rw [Bool.eq_iff_iff, String.isEmpty_iff, String.isEmpty_iff, ← String.toList_inj,
      ← String.toList_inj, written, String.toList_ofList]
    exact h.flatMap_eq_nil_iff
  have hdot : (written write component == ".") = (component == ".") := by
    rw [Bool.eq_iff_iff, beq_iff_eq, beq_iff_eq, ← String.toList_inj, ← String.toList_inj, written,
      String.toList_ofList]
    exact h.flatMap_eq_dot_iff
  rw [isCurrent, hempty, hdot, isCurrent]

theorem splitAt_flatMap (text : List Char) :
    splitAt '/' (text.flatMap write) = (splitAt '/' text).map (List.flatMap write) := by
  simp only [splitAt]
  induction text with
  | nil => rfl
  | cons c cs ih =>
    rw [List.flatMap_cons]
    by_cases hc : c = '/'
    · subst hc
      rw [h.slash, List.singleton_append, splitWhere_cons_of_pos rfl, splitWhere_cons_of_pos rfl, ih]
      rfl
    · -- what is written for the character stands in the first piece
      obtain ⟨piece, pieces, heq⟩ := List.exists_cons_of_ne_nil (splitWhere_ne_nil (· == '/') cs)
      have hwrite : splitWhere (· == '/') (write c) = [] ++ [write c] :=
        splitWhere_eq_self fun d hd => beq_false_of_ne fun heq => h.noSlash c hc (heq ▸ hd)
      have hself : splitWhere (· == '/') [c] = [] ++ [[c]] :=
        splitWhere_eq_self (List.forall_mem_singleton.2 (beq_false_of_ne hc))
      have hcons : splitWhere (· == '/') (c :: cs) = [] ++ ([c] ++ piece) :: pieces :=
        splitWhere_concat hself heq
      rw [heq] at ih
      rw [splitWhere_concat hwrite ih, hcons]
      rfl

theorem pieces_written (path : String) :
    pieces (written write path) = (pieces path).map (written write) := by
  rw [pieces, written, String.toList_ofList, h.splitAt_flatMap, pieces, List.map_map, List.map_map]
  refine List.map_congr_left fun piece _ => ?_
  rw [Function.comp_apply, Function.comp_apply, written, String.toList_ofList]

/-- Paths keep their components, each written as the path is. -/
theorem components_written (path : String) :
    components (written write path) = (components path).map (written write) := by
  rw [components, h.pieces_written, List.filter_map, components]
  congr 1
  exact List.filter_congr fun piece _ => by rw [Function.comp_apply, h.isCurrent_written]

theorem isAbsolute_written (path : String) : isAbsolute (written write path) = isAbsolute path := by
  rw [isAbsolute, isAbsolute, written, String.toList_ofList]
  cases path.toList with
  | nil => rfl
  | cons c cs =>
    by_cases hc : c = '/'
    · subst hc
      rw [List.flatMap_cons, h.slash]
      rfl
    · obtain ⟨d, ds, heq⟩ := List.exists_cons_of_ne_nil (h.nonempty c)
      have hd : d ≠ '/' := fun hslash => h.noSlash c hc (hslash ▸ heq ▸ List.mem_cons_self)
      rw [List.flatMap_cons, heq, Bool.eq_iff_iff, List.isPrefixOf_iff_prefix,
        List.isPrefixOf_iff_prefix, List.cons_append, List.cons_prefix_cons, List.cons_prefix_cons]
      exact iff_of_false (fun hslash => hd hslash.1.symm) (fun hslash => hc hslash.1.symm)

end KeepsComponents

/-! ## Letter case -/

/-- Paths in which letter case does not count keep their components. -/
theorem keepsComponents_toLower : KeepsComponents fun c => [c.toLower] where
  nonempty _ := List.cons_ne_nil _ _
  slash := rfl
  noSlash _ hc hmem := hc ((toLower_eq_iff rfl rfl).1 (List.mem_singleton.1 hmem).symm)
  dot _ := List.singleton_inj.trans (toLower_eq_iff rfl rfl)

theorem foldedCase_eq (s : String) : foldedCase s = written (fun c => [c.toLower]) s := by
  rw [foldedCase, foldCase, List.map_eq_flatMap, written]

theorem components_foldedCase (path : String) :
    components (foldedCase path) = (components path).map foldedCase := by
  have hcomponents := keepsComponents_toLower.components_written path
  rwa [← foldedCase_eq, ← funext foldedCase_eq] at hcomponents

/-- Paths that differ in letter case only and have the same components are the same. -/
theorem eq_of_components_eq {path path' : String} (hcase : foldedCase path = foldedCase path')
    (h : components path = components path') : path = path' := by
  have hcurrent : ∀ {piece piece' : String}, foldedCase piece = foldedCase piece' →
      isCurrent piece = isCurrent piece' := by
    intro piece piece' heq
    rw [← keepsComponents_toLower.isCurrent_written, ← foldedCase_eq, heq, foldedCase_eq,
      keepsComponents_toLower.isCurrent_written]
  have hpieces : (pieces path).map foldedCase = (pieces path').map foldedCase := by
    rw [funext foldedCase_eq, ← keepsComponents_toLower.pieces_written, ← foldedCase_eq, hcase,
      foldedCase_eq, keepsComponents_toLower.pieces_written]
  refine pieces_injective ?_
  rw [components, components] at h
  generalize pieces path = ps at hpieces h
  generalize pieces path' = qs at hpieces h
  induction ps generalizing qs with
  | nil => exact (List.map_eq_nil_iff.1 hpieces.symm).symm
  | cons p ps ih =>
    cases qs with
    | nil => exact absurd hpieces (List.cons_ne_nil _ _)
    | cons q qs =>
      obtain ⟨hp, hps⟩ := List.cons.inj hpieces
      rw [List.filter_cons, List.filter_cons, ← hcurrent hp] at h
      cases hpq : isCurrent p with
      | false =>
        rw [hpq] at h
        obtain ⟨rfl, hrest⟩ := List.cons.inj h
        rw [ih _ hps hrest]
      | true =>
        -- such a piece has no letters
        rw [hpq] at h
        have hq := (hcurrent hp).symm.trans hpq
        rw [isCurrent, Bool.or_eq_true, String.isEmpty_iff, beq_iff_eq] at hpq hq
        rw [ih _ hps h]
        rcases hpq with rfl | rfl <;> rcases hq with rfl | rfl
        · rfl
        · exact absurd hp (by decide)
        · exact absurd hp (by decide)
        · rfl

end ProviderGlue.Path
