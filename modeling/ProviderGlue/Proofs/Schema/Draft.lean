import ProviderGlue.Proofs.Go.TypeText
import ProviderGlue.Proofs.Table
import ProviderGlue.Schema.Draft

/-!
# Growth of drafts

A draft only grows: each step keeps the functions, tables and aliases that are there.  For every step
there is a `_run` lemma that says what it gives and which draft it leaves, and a lemma that says what
it keeps.  Nothing else opens the steps.

## Key results

- `Grows`: what a step leaves is at the end of what it makes
- `Named`: the names of functions and tables are exactly those taken, and differ
- `qualified?_run`: a type that is written with an alias still has its declared name
-/

namespace ProviderGlue.Schema

open Text Go

/-! ## Running steps -/

theorem run_bind {α β : Type} (x : StateM Draft α) (f : α → StateM Draft β) (d : Draft) :
    (x >>= f) d = f (x d).1 (x d).2 := rfl

theorem run_pure {α : Type} (a : α) (d : Draft) : (pure a : StateM Draft α) d = (a, d) := rfl

theorem run_get (d : Draft) : (get : StateM Draft Draft) d = (d, d) := rfl

theorem run_modify (f : Draft → Draft) (d : Draft) :
    (modify f : StateM Draft Unit) d = ((), f d) := rfl

/-- What tells apart functions: no two of a plan share it. -/
def FlattenFunction.signature (f : FlattenFunction) : String × Option UnionBranch × List Node :=
  (f.type, f.union, f.fields)

namespace Draft

/-- A later draft has all that an earlier one has, with new functions before the earlier ones. -/
structure Grows (d d' : Draft) : Prop where
  functions : d.functions <:+ d'.functions
  tables : ∀ {type t}, d.tables.get? type = some t → d'.tables.get? type = some t
  aliases : ∀ {path name}, d.aliases.get? path = some name → d'.aliases.get? path = some name

theorem Grows.refl (d : Draft) : Grows d d := ⟨List.suffix_refl _, id, id⟩

theorem Grows.trans {d₁ d₂ d₃ : Draft} (h : Grows d₁ d₂) (h' : Grows d₂ d₃) : Grows d₁ d₃ :=
  ⟨h.functions.trans h'.functions, fun ht => h'.tables (h.tables ht),
    fun ha => h'.aliases (h.aliases ha)⟩

/-- The names that the functions and tables of a draft declare. -/
def declared (d : Draft) : List String :=
  d.functions.map (·.name) ++ d.tables.values.flatMap fun t => [t.flatten, t.table]

/-- The declared names are those taken, each once. -/
structure Named (d : Draft) : Prop where
  perm : d.declared.Perm d.names
  nodup : d.names.Nodup

theorem Named.empty : Named {} := ⟨List.Perm.refl _, List.nodup_nil⟩

theorem Named.nodup_declared {d : Draft} (h : Named d) : d.declared.Nodup :=
  h.perm.nodup_iff.2 h.nodup

/-! ## Aliases and types -/

/-- A path keeps the alias that it has.  Otherwise it gets a new one, which is the preferred one or
numbered. -/
theorem aliasFor_cases (path : String) (preferred : Option String) (d : Draft) :
    (∃ name, d.aliases.get? path = some name ∧ aliasFor path preferred d = (name, d)) ∨
      (d.aliases.get? path = none ∧ ∃ name, name ∉ d.aliases.values ∧
        (name ∈ preferred ∨ ∃ k, name = numbered 0 "" "import" k) ∧
        aliasFor path preferred d =
          (name, { d with aliases := d.aliases.insert path name })) := by
  have hfree : firstFree (numbered 0 "" "import") 1 d.aliases.values ∉ d.aliases.values ∧
      ∃ k, firstFree (numbered 0 "" "import") 1 d.aliases.values = numbered 0 "" "import" k := by
    refine ⟨firstFree_not_mem _ fun i j hi hj h => numbered_injective (by omega) (by omega) h, ?_⟩
    obtain ⟨k, -, heq, -⟩ := exists_firstFree_eq (numbered 0 "" "import") 1 d.aliases.values
    exact ⟨k, heq⟩
  simp only [aliasFor, run_bind, run_get]
  cases hget : d.aliases.get? path with
  | some name => exact .inl ⟨name, rfl, rfl⟩
  | none =>
    refine .inr ⟨rfl, ?_⟩
    cases preferred with
    | none => exact ⟨_, hfree.1, .inr hfree.2, rfl⟩
    | some name =>
      refine ⟨if name ∈ d.aliases.values then firstFree (numbered 0 "" "import") 1 d.aliases.values
        else name, ?_, ?_, rfl⟩
      · split
        · exact hfree.1
        · next htaken => exact htaken
      · split
        · exact .inr hfree.2
        · exact .inl rfl

/-- Taking an alias changes nothing but the aliases, of which it keeps all. -/
theorem aliasFor_run (path : String) (preferred : Option String) (d : Draft) :
    ∃ aliases, (aliasFor path preferred d).2 = { d with aliases } ∧
      ∀ {p name}, d.aliases.get? p = some name → aliases.get? p = some name := by
  rcases aliasFor_cases path preferred d with ⟨name, -, hrun⟩ | ⟨hget, name, -, -, hrun⟩
  · exact ⟨d.aliases, by rw [hrun], id⟩
  · refine ⟨_, by rw [hrun], fun {p name} hp => ?_⟩
    have hne : p ≠ path := fun heq => by rw [heq, hget] at hp; exact nomatch hp
    rw [Table.get?_insert, if_neg hne, hp]

/-- Whether the package of a field's type can be told: either the type is written without one, or
with an alias whose path is known. -/
def isPlaced (f : ShapeField) : Bool :=
  let element := TypeText.elementType f.type.toList
  ! element.contains '.' || ((TypeText.importAlias? element).isSome && f.importPath.isSome)

/-- A qualified type ends in the declared name.  Whether there is one depends on the field alone,
and finding it changes nothing but the aliases. -/
theorem qualified?_run (outer : Package) (f : ShapeField) (d : Draft) :
    ∃ aliases, (qualified? outer f d).2 = { d with aliases } ∧
      (∀ {p name}, d.aliases.get? p = some name → aliases.get? p = some name) ∧
      (qualified? outer f d).1.isSome = isPlaced f ∧
      ∀ {type}, (qualified? outer f d).1 = some type → unqualified type = baseName f.type := by
  simp only [qualified?, isPlaced]
  split
  · next hdot =>
    cases halias : TypeText.importAlias? (TypeText.elementType f.type.toList) with
    | none => exact ⟨d.aliases, rfl, id, by simp [hdot, run_pure], fun h => nomatch h⟩
    | some name =>
      cases hpath : f.importPath with
      | none => exact ⟨d.aliases, rfl, id, by simp [hdot, run_pure], fun h => nomatch h⟩
      | some path =>
        obtain ⟨aliases, hrun, hkeep⟩ := aliasFor_run path (some (String.ofList name)) d
        refine ⟨aliases, hrun, hkeep, by simp [hdot, run_bind, run_pure], fun h => ?_⟩
        rw [← Option.some.inj h]
        exact unqualified_append _ _
  · next hdot =>
    cases hpath : outer.path with
    | none =>
      refine ⟨d.aliases, rfl, id, by simp [hdot, run_pure], fun h => ?_⟩
      rw [← Option.some.inj h]
      exact unqualified_baseName _
    | some path =>
      obtain ⟨aliases, hrun, hkeep⟩ := aliasFor_run path outer.preferred d
      refine ⟨aliases, hrun, hkeep, by simp [hdot, run_bind, run_pure], fun h => ?_⟩
      rw [← Option.some.inj h]
      exact unqualified_append _ _

/-- The type of a union is found together with the type of its member. -/
theorem unionType?_run (outer : Package) (f : ShapeField) (d : Draft) :
    (unionType? outer f d).2 = (qualified? outer f d).2 ∧
      (unionType? outer f d).1.isSome = isPlaced f := by
  obtain ⟨-, -, -, hsome, -⟩ := qualified?_run outer f d
  refine ⟨by simp only [unionType?, run_bind, run_pure], ?_⟩
  rw [← hsome]
  simp only [unionType?, run_bind, run_pure, Option.isSome_map]

/-! ## Names -/

/-- A taken name was free before. -/
theorem takeName_run (base : String) (d : Draft) :
    ∃ name, takeName base d = (name, { d with names := name :: d.names }) ∧ name ∉ d.names := by
  refine ⟨_, rfl, firstFree_not_mem d.names fun i j hi hj h => ?_⟩
  exact numbered_injective (by omega) (by omega) h

/-! ## Functions and tables -/

/-- A function is found by its signature, or else put before the others under a new name. -/
theorem flattenFor_run (type : String) (union : Option UnionBranch) (fields : List Node)
    (d : Draft) :
    (∃ g ∈ d.functions, g.signature = (type, union, fields) ∧
        flattenFor type union fields d = (g.name, d)) ∨
      ((type, union, fields) ∉ d.functions.map (·.signature) ∧ ∃ name, name ∉ d.names ∧
        flattenFor type union fields d =
          (name, { d with
            names := name :: d.names
            functions := ⟨name, type, union, fields⟩ :: d.functions })) := by
  simp only [flattenFor, run_bind, run_get]
  cases hfind : d.functions.find? fun f => f.type = type ∧ f.union = union ∧ f.fields = fields with
  | some g =>
    have hg := List.find?_some hfind
    simp only [decide_eq_true_eq] at hg
    refine .inl ⟨g, List.mem_of_find?_eq_some hfind, ?_, rfl⟩
    rw [FlattenFunction.signature, hg.1, hg.2.1, hg.2.2]
  | none =>
    obtain ⟨name, hrun, hname⟩ := takeName_run ("flatten" ++ onChars capitalize (baseName type)) d
    refine .inr ⟨fun hmem => ?_, name, hname, by simp only [run_bind, hrun, run_modify, run_pure]⟩
    obtain ⟨g, hg, hsig⟩ := List.mem_map.1 hmem
    have := List.find?_eq_none.1 hfind g hg
    simp only [FlattenFunction.signature, Prod.mk.injEq] at hsig
    simp [hsig] at this

/-- A table is found by the type of its values, or else added under two new names. -/
theorem enumFlattenFor_run (e : Enumeration) (type : String) (d : Draft) :
    (∃ t, d.tables.get? type = some t ∧ enumFlattenFor e type d = (t.flatten, d)) ∨
      (d.tables.get? type = none ∧ ∃ flatten table, flatten ∉ d.names ∧
        table ∉ flatten :: d.names ∧
        enumFlattenFor e type d =
          (flatten, { d with
            names := table :: flatten :: d.names
            tables := d.tables.insert type ⟨flatten, table, type, e⟩ })) := by
  simp only [enumFlattenFor, run_bind, run_get]
  cases hget : d.tables.get? type with
  | some t => exact .inl ⟨t, rfl, rfl⟩
  | none =>
    obtain ⟨flatten, hrun, hflatten⟩ := takeName_run ("flatten" ++ onChars capitalize e.name) d
    obtain ⟨table, hrun', htable⟩ := takeName_run (onChars lowerFirst e.name ++ "Names")
      { d with names := flatten :: d.names }
    refine .inr ⟨rfl, flatten, table, hflatten, htable, ?_⟩
    simp only [run_bind, hrun, hrun', run_modify, run_pure]

/-! ## What steps keep -/

/-- A draft whose aliases alone change is a later one. -/
theorem Grows.of_aliases {d : Draft} {aliases : Table String}
    (h : ∀ {p name}, d.aliases.get? p = some name → aliases.get? p = some name) :
    Grows d { d with aliases } :=
  ⟨List.suffix_refl _, id, h⟩

theorem qualified?_grows (outer : Package) (f : ShapeField) (d : Draft) :
    Grows d (qualified? outer f d).2 := by
  obtain ⟨aliases, hrun, hkeep, -⟩ := qualified?_run outer f d
  rw [hrun]
  exact .of_aliases hkeep

theorem unionType?_grows (outer : Package) (f : ShapeField) (d : Draft) :
    Grows d (unionType? outer f d).2 := by
  rw [(unionType?_run outer f d).1]
  exact qualified?_grows outer f d

theorem flattenFor_grows (type : String) (union : Option UnionBranch) (fields : List Node)
    (d : Draft) : Grows d (flattenFor type union fields d).2 := by
  rcases flattenFor_run type union fields d with ⟨g, -, -, hrun⟩ | ⟨-, name, -, hrun⟩
  · rw [hrun]
    exact .refl d
  · rw [hrun]
    exact ⟨List.suffix_cons _ _, id, id⟩

theorem enumFlattenFor_grows (e : Enumeration) (type : String) (d : Draft) :
    Grows d (enumFlattenFor e type d).2 := by
  rcases enumFlattenFor_run e type d with ⟨t, -, hrun⟩ | ⟨hget, flatten, table, -, -, hrun⟩
  · rw [hrun]
    exact .refl d
  · rw [hrun]
    refine ⟨List.suffix_refl _, fun {type' t} ht => ?_, id⟩
    have hne : type' ≠ type := fun heq => by rw [heq, hget] at ht; exact nomatch ht
    rw [Table.get?_insert, if_neg hne, ht]

theorem Named.of_aliases {d : Draft} (h : Named d) (aliases : Table String) :
    Named { d with aliases } :=
  ⟨h.perm, h.nodup⟩

theorem flattenFor_named (type : String) (union : Option UnionBranch) (fields : List Node)
    {d : Draft} (h : Named d) : Named (flattenFor type union fields d).2 := by
  rcases flattenFor_run type union fields d with ⟨g, -, -, hrun⟩ | ⟨-, name, hname, hrun⟩
  · rw [hrun]
    exact h
  · rw [hrun]
    exact ⟨h.perm.cons name, List.nodup_cons.2 ⟨hname, h.nodup⟩⟩

theorem enumFlattenFor_named (e : Enumeration) (type : String) {d : Draft} (h : Named d) :
    Named (enumFlattenFor e type d).2 := by
  rcases enumFlattenFor_run e type d with ⟨t, -, hrun⟩ | ⟨hget, flatten, table, hf, ht, hrun⟩
  · rw [hrun]
    exact h
  · rw [hrun]
    refine ⟨?_, List.nodup_cons.2 ⟨ht, List.nodup_cons.2 ⟨hf, h.nodup⟩⟩⟩
    -- the new table stands somewhere among the others, so its names move to the front
    have hvalues :=
      (Table.values_insert_perm (⟨flatten, table, type, e⟩ : EnumTable) hget).flatMap_right
      fun t => [t.flatten, t.table]
    have hmiddle : (d.functions.map (·.name) ++ ([flatten, table] ++
        d.tables.values.flatMap fun t => [t.flatten, t.table])).Perm
          ([flatten, table] ++ d.declared) := by
      rw [declared, ← List.append_assoc, ← List.append_assoc]
      exact List.perm_append_comm.append_right _
    refine ((hvalues.append_left _).trans hmiddle).trans ?_
    exact ((h.perm.cons table).cons flatten).trans (List.Perm.swap _ _ _)

end Draft

end ProviderGlue.Schema
