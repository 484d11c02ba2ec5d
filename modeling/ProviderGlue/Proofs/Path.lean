import Mathlib.Data.List.Basic
import ProviderGlue.Path
import ProviderGlue.Proofs.Text.Cut

/-!
# Components of paths

## Key results

- `exists_pieces_mark`: a mark behind a path belongs to its last piece
- `components_join`, `components_name`: the components of a path that goes on from another one
- `components_initial`, `components_parent`: a path leads through its parent
-/

namespace ProviderGlue.Path

open Text

/-! ## Pieces -/

theorem pieces_injective {path path' : String} (h : pieces path = pieces path') : path = path' := by
  have hsplit := List.map_injective_iff.2 (fun _ _ => String.ofList_injective) h
  rw [← String.toList_inj, ← intercalate_splitAt '/' path.toList, hsplit, intercalate_splitAt]

theorem pieces_append (left right : String) :
    pieces (left ++ "/" ++ right) = pieces left ++ pieces right := by
  have htext : (left ++ "/" ++ right).toList = left.toList ++ '/' :: right.toList := by simp
  simp only [pieces, splitAt, htext]
  rw [splitWhere_append rfl, List.map_append]

/-- A mark and what follows it stand behind the last piece of a path. -/
theorem exists_pieces_mark (base ending : String) :
    ∃ front last piece more, pieces base = front ++ [last] ∧
      pieces (base ++ "@" ++ ending) = front ++ (last ++ "@" ++ piece) :: more := by
  obtain ⟨front, last, hbase⟩ : ∃ front last, splitAt '/' base.toList = front ++ [last] :=
    ⟨_, _, (List.dropLast_append_getLast (splitWhere_ne_nil _ _)).symm⟩
  obtain ⟨piece, more, hending⟩ := List.exists_cons_of_ne_nil (splitWhere_ne_nil (· == '/') ending.toList)
  have hmark : splitWhere (· == '/') ('@' :: ending.toList) = ('@' :: piece) :: more := by
    rw [splitWhere, hending]
    rfl
  have htext : (base ++ "@" ++ ending).toList = base.toList ++ '@' :: ending.toList := by simp
  refine ⟨front.map String.ofList, String.ofList last, String.ofList piece, more.map String.ofList,
    ?_, ?_⟩
  · rw [pieces, hbase, List.map_append, List.map_singleton]
  · rw [pieces, htext, splitAt, splitWhere_concat hbase hmark, List.map_append, List.map_cons]
    simp [← String.toList_inj]

/-- A piece with something else than a dot in it leads somewhere. -/
theorem isCurrent_eq_false {piece : String} {c : Char} (hc : c ∈ piece.toList) (hdot : c ≠ '.') :
    isCurrent piece = false := by
  rw [isCurrent, Bool.or_eq_false_iff, ← Bool.not_eq_true, String.isEmpty_iff, beq_eq_false_iff_ne]
  constructor
  · rintro rfl
    exact absurd hc List.not_mem_nil
  · rintro rfl
    exact hdot (List.mem_singleton.1 hc)

theorem isAbsolute_eq_false {path : String} {c : Char} {cs : List Char} (h : path.toList = c :: cs)
    (hc : c ≠ '/') : isAbsolute path = false := by
  rw [isAbsolute, h, ← Bool.not_eq_true, List.isPrefixOf_iff_prefix, List.cons_prefix_cons]
  exact fun hslash => hc hslash.1.symm

/-- A component names something, and has no slash. -/
structure IsName (name : String) : Prop where
  slash : '/' ∉ name.toList
  current : isCurrent name = false

/-- A component is no absolute path. -/
theorem IsName.isAbsolute_eq_false {name : String} (h : IsName name) : isAbsolute name = false := by
  rw [isAbsolute, Bool.eq_false_iff]
  intro habsolute
  obtain ⟨rest, hrest⟩ := List.isPrefixOf_iff_prefix.1 habsolute
  exact h.slash (hrest ▸ List.mem_cons_self)

theorem pieces_eq_self {name : String} (h : '/' ∉ name.toList) : pieces name = [name] := by
  rw [pieces, splitAt, splitWhere_eq_self, List.map_singleton, String.ofList_toList]
  intro c hc
  rw [beq_eq_false_iff_ne]
  rintro rfl
  exact h hc

theorem components_name {name : String} (h : IsName name) : components name = [name] := by
  rw [components, pieces_eq_self h.slash, List.filter_singleton, h.current]
  rfl

theorem isName_of_mem_components {path name : String} (h : name ∈ components path) : IsName name := by
  obtain ⟨hname, hcurrent⟩ := List.mem_filter.1 h
  obtain ⟨piece, hpiece, rfl⟩ := List.mem_map.1 hname
  refine ⟨?_, by simpa using hcurrent⟩
  rw [String.toList_ofList]
  intro hslash
  exact absurd (not_mem_of_mem_splitWhere hpiece '/' hslash) (by decide)

theorem components_append (left right : String) :
    components (left ++ "/" ++ right) = components left ++ components right := by
  rw [components, pieces_append, List.filter_append, components, components]

/-- A slash at the end leads nowhere. -/
theorem components_endSlash (left : String) : components (left ++ "/") = components left := by
  have happend := components_append left ""
  rw [String.append_empty] at happend
  exact happend.trans (List.append_nil _)

/-- A path that goes on from another one leads through the components of both. -/
theorem components_join {base name : String} (h : isAbsolute name = false) :
    components (join base name) = components base ++ components name := by
  rw [isAbsolute] at h
  rw [join, h, if_neg Bool.false_ne_true]
  split
  · next hbase =>
    -- no slash is put between them
    rw [Bool.or_eq_true, endsWith, Option.isSome_iff_exists] at hbase
    rcases hbase with hempty | ⟨front, hfront⟩
    · rw [String.isEmpty_iff.1 hempty, String.empty_append]
      rfl
    · have heq : base = String.ofList front ++ "/" := by
        rw [← String.toList_inj, beforeSuffix?_eq_some_iff.1 hfront]
        simp
      rw [heq, components_append, components_endSlash]
  · exact components_append base name

/-! ## Paths of components -/

theorem components_intercalate {names : List String} (h : ∀ name ∈ names, '/' ∉ name.toList) :
    components ("/".intercalate names) = names.filter (! isCurrent ·) := by
  induction names with
  | nil => rfl
  | cons name names ih =>
    obtain ⟨hname, hnames⟩ := List.forall_mem_cons.1 h
    cases names with
    | nil =>
      have heq : "/".intercalate [name] = name := by
        rw [← String.toList_inj, String.toList_intercalate]
        simp [List.intercalate]
      rw [heq, components, pieces_eq_self hname]
    | cons next names =>
      have heq : "/".intercalate (name :: next :: names) =
          name ++ "/" ++ "/".intercalate (next :: names) := by
        rw [← String.toList_inj]
        simp [String.toList_intercalate]
      rw [heq, components_append, ih hnames, components, pieces_eq_self hname, ← List.filter_append]
      rfl

theorem components_ofComponents (absolute : Bool) {names : List String}
    (h : ∀ name ∈ names, '/' ∉ name.toList) :
    components (ofComponents absolute names) = names.filter (! isCurrent ·) := by
  rw [ofComponents, ← components_intercalate h]
  cases absolute with
  | false => rw [if_neg Bool.false_ne_true, String.empty_append]
  | true => rw [if_pos rfl, ← String.empty_append (s := "/"), components_append]; rfl

theorem components_initial (path : String) (n : Nat) :
    components (initial path n) = (components path).take n := by
  have hnames : ∀ name ∈ (components path).take n, IsName name :=
    fun name h => isName_of_mem_components (List.mem_of_mem_take h)
  have hfilter : ((components path).take n).filter (! isCurrent ·) = (components path).take n :=
    List.filter_eq_self.2 fun name h => by rw [(hnames name h).current]; rfl
  rw [initial, components_ofComponents]
  · -- a start at the directory at hand is no component
    rw [List.filter_append, hfilter]
    split <;> rfl
  · intro name hname
    rcases List.mem_append.1 hname with hname | hname
    · split at hname
      · rw [List.mem_singleton.1 hname]
        decide
      · exact absurd hname List.not_mem_nil
    · exact (hnames name hname).slash

/-- A path leads through its parent. -/
theorem components_parent {path parent : String} (h : parent? path = some parent) :
    components parent = (components path).dropLast := by
  rw [parent?] at h
  split at h
  · contradiction
  · next c cs heq =>
    obtain rfl := Option.some.inj h
    rw [components_initial, heq, List.dropLast_eq_take]
    rfl

theorem isName_fileName {path last : String} (h : fileName? path = some last) : IsName last := by
  obtain ⟨h, -⟩ := Option.filter_eq_some_iff.1 h
  exact isName_of_mem_components (List.mem_of_getLast? h)

end ProviderGlue.Path
