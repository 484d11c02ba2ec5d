import ProviderGlue.Proofs.Schema.Names
import ProviderGlue.Proofs.Text.Cut

/-!
# What declared names are made from

A name that a plan declares belongs to a series: the first name of the series comes from the name of a
type or of an enumeration, and numbers are put behind it.  As a number is only taken where the first
name is, the first name of every series is declared as well.

Two plans know nothing of each other.  Types and enumerations with the same names make them declare
the same, and names that differ in more than the numbers at their ends make them declare different ones.

## Key results

- `steady_stemmed`: the names of a draft belong to series whose first names are taken
- `stemmed_build`: so do the names that a plan declares
- `Plan.Stemmed.disjoint_stems`, `Plan.Stemmed.disjoint_declared`: what two plans declare
-/

namespace ProviderGlue.Schema

open Text Go

/-! ## Series -/

/-- A name belongs to a series, the first name of which is taken. -/
structure InSeries (taken : List String) (stem name : String) : Prop where
  numbered : ∃ n, 1 ≤ n ∧ name = numbered 2 "" stem n
  stem : stem ∈ taken

theorem InSeries.mono {taken taken' : List String} {stem name : String}
    (h : InSeries taken stem name) (hsub : taken ⊆ taken') : InSeries taken' stem name :=
  ⟨h.numbered, hsub h.stem⟩

/-- Where a number is taken, the first name of the series is taken before. -/
theorem Draft.FirstFree.inSeries {stem : String} {taken : List String} {n : Nat}
    (h : FirstFree stem taken n) :
    InSeries (Text.numbered 2 "" stem n :: taken) stem (Text.numbered 2 "" stem n) := by
  refine ⟨⟨n, h.pos, rfl⟩, ?_⟩
  rcases Nat.eq_or_lt_of_le h.pos with heq | hlt
  · rw [← heq]
    exact List.mem_cons_self
  · exact List.mem_cons_of_mem _ (h.before 1 (Nat.le_refl 1) hlt)

/-- The name without the number at its end. -/
def withoutNumber (name : String) : String :=
  String.ofList (dropEndWhile Char.isDigit name.toList)

@[simp] theorem withoutNumber_numbered (stem : String) (n : Nat) :
    withoutNumber (numbered 2 "" stem n) = withoutNumber stem := by
  have hdigits : ∀ c ∈ (toString n).toList, c.isDigit = true := by
    rw [Nat.toString_eq_repr, Nat.toList_repr]
    exact fun c => Nat.isDigit_of_mem_toDigits (by decide) (by decide)
  rw [numbered]
  split
  · rfl
  · rw [withoutNumber, withoutNumber, String.append_empty, String.toList_append,
      dropEndWhile_append hdigits]

/-! ## Drafts -/

/-- The names of functions and tables belong to the series of their types and enumerations, the first
names of which are taken. -/
structure Draft.Stemmed (d : Draft) : Prop where
  functions : ∀ f ∈ d.functions, InSeries d.names (flattenStem (baseName f.type)) f.name
  tables : ∀ t ∈ d.tables.values, InSeries d.names (flattenStem t.enumeration.name) t.flatten ∧
    InSeries d.names (tableStem t.enumeration.name) t.table

namespace Draft

variable {d : Draft}

theorem Stemmed.empty : Stemmed {} :=
  ⟨fun _ h => absurd h List.not_mem_nil, fun _ h => absurd h List.not_mem_nil⟩

theorem Stemmed.flattenFor (h : d.Stemmed) (type : String) (union : Option UnionBranch)
    (fields : List Node) : (flattenFor type union fields d).2.Stemmed := by
  rcases flattenFor_spec type union fields d with heq | ⟨n, hn, heq⟩ <;> rw [heq]
  · exact h
  · have hsub := List.subset_cons_self (numbered 2 "" (flattenStem (baseName type)) n) d.names
    refine ⟨List.forall_mem_cons.2 ⟨hn.inSeries, fun f hf => (h.functions f hf).mono hsub⟩,
      fun t ht => ?_⟩
    exact ⟨(h.tables t ht).1.mono hsub, (h.tables t ht).2.mono hsub⟩

theorem Stemmed.enumFlattenFor (h : d.Stemmed) (e : Enumeration) (type : String) :
    (enumFlattenFor e type d).2.Stemmed := by
  rcases enumFlattenFor_spec e type d with heq | ⟨hget, n, k, hn, hk, heq⟩ <;> rw [heq]
  · exact h
  · have hsub : d.names ⊆ numbered 2 "" (tableStem e.name) k ::
        numbered 2 "" (flattenStem e.name) n :: d.names :=
      List.subset_cons_of_subset _ (List.subset_cons_self _ _)
    refine ⟨fun f hf => (h.functions f hf).mono hsub, fun t ht => ?_⟩
    have ht := (Table.values_insert_perm _ hget).mem_iff.1 ht
    rcases List.mem_cons.1 ht with rfl | ht
    · exact ⟨hn.inSeries.mono (List.subset_cons_self _ _), hk.inSeries⟩
    · exact ⟨(h.tables t ht).1.mono hsub, (h.tables t ht).2.mono hsub⟩

end Draft

/-- Every step of a plan keeps the names of a draft in their series. -/
theorem steady_stemmed (enums : List Enumeration) :
    Steady enums (fun _ _ => True) Draft.Stemmed (fun _ _ _ _ => True) fun _ _ _ _ _ => True := by
  refine .of_steps (fun _ _ => trivial) ?_ (fun _ _ _ _ => trivial)
    (fun type union fields hd => hd.flattenFor type union fields)
    fun e type hd => hd.enumFlattenFor e type
  intro d outer f _ hd
  obtain ⟨aliases, hrun, -⟩ := Draft.qualified?_run outer f d
  rw [hrun]
  exact ⟨hd.functions, hd.tables⟩

/-! ## Plans -/

namespace Plan

/-- The names that a plan declares, each behind the first name of its series. -/
def series (p : Plan) : List (String × String) :=
  p.tables.flatMap (fun t => [(tableStem t.enumeration.name, t.table),
    (flattenStem t.enumeration.name, t.flatten)]) ++
    p.functions.map fun f => (flattenStem (baseName f.type), f.name)

/-- The first names of these series: two for each enumeration and one for each struct. -/
def stems (p : Plan) : List String := p.series.map (·.1)

theorem declared_eq (p : Plan) : p.declared = p.series.map (·.2) := by
  rw [declared, series, List.map_append, List.map_flatMap, List.map_map]
  rfl

/-- What a plan declares are names of its series, the first of each among them. -/
structure Stemmed (p : Plan) : Prop where
  first : p.stems ⊆ p.declared
  series : ∀ name ∈ p.declared, ∃ stem ∈ p.stems, ∃ n, 1 ≤ n ∧ name = numbered 2 "" stem n

namespace Stemmed

variable {p p' : Plan}

/-- Plans that declare different names have no series in common. -/
theorem disjoint_stems (h : p.Stemmed) (h' : p'.Stemmed)
    (hdisjoint : p.declared.Disjoint p'.declared) : p.stems.Disjoint p'.stems :=
  fun _ hstem hstem' => hdisjoint (h.first hstem) (h'.first hstem')

/-- Plans declare different names if their series differ in more than numbers. -/
theorem disjoint_declared (h : p.Stemmed) (h' : p'.Stemmed)
    (hdisjoint : (p.stems.map withoutNumber).Disjoint (p'.stems.map withoutNumber)) :
    p.declared.Disjoint p'.declared := by
  intro name hname hname'
  obtain ⟨stem, hstem, n, -, heq⟩ := h.series name hname
  obtain ⟨stem', hstem', n', -, heq'⟩ := h'.series name hname'
  refine hdisjoint (List.mem_map_of_mem hstem) (List.mem_map.2 ⟨stem', hstem', ?_⟩)
  rw [← withoutNumber_numbered stem' n', ← heq', heq, withoutNumber_numbered]

end Stemmed

end Plan

/-- The names that a plan declares belong to its series. -/
theorem stemmed_build (s : Shape) (enums : List Enumeration) (reserved : List String) :
    (Plan.build s enums reserved).Stemmed := by
  have hnamed := ((steady_namedApart enums).draft
    ⟨.empty, fun _ h => absurd h List.not_mem_nil⟩ s reserved).named
  have hstemmed := (steady_stemmed enums).draft .empty s reserved
  have hnames := (declared_build s enums reserved).trans hnamed.perm
  have hseries : ∀ q ∈ (Plan.build s enums reserved).series,
      InSeries (Plan.build s enums reserved).declared q.1 q.2 := by
    have hsub : (Plan.draft s enums reserved).names ⊆ (Plan.build s enums reserved).declared :=
      fun name hname => hnames.mem_iff.2 hname
    intro q hq
    rcases List.mem_append.1 hq with hq | hq
    · obtain ⟨t, ht, hq⟩ := List.mem_flatMap.1 hq
      obtain ⟨hflatten, htable⟩ := hstemmed.tables t ht
      rcases List.mem_pair.1 hq with rfl | rfl
      · exact htable.mono hsub
      · exact hflatten.mono hsub
    · obtain ⟨f, hf, rfl⟩ := List.mem_map.1 hq
      exact (hstemmed.functions f hf).mono hsub
  constructor
  · intro stem hstem
    obtain ⟨q, hq, rfl⟩ := List.mem_map.1 hstem
    exact (hseries q hq).stem
  · intro name hname
    rw [Plan.declared_eq] at hname
    obtain ⟨q, hq, rfl⟩ := List.mem_map.1 hname
    exact ⟨q.1, List.mem_map_of_mem hq, (hseries q hq).numbered⟩

end ProviderGlue.Schema
