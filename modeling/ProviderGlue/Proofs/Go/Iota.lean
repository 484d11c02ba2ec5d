import Mathlib.Data.List.Induction
import ProviderGlue.Go.Source

/-!
# Repeated specifications

A declaration of constants is read with two things in hand: the number of the specification, which is
the value of `iota`, and what governs it, which is the last specification that had values.  Each
specification declares a group of constants of its own.

## Key results

- `foldl_governedBy_eq_some_iff`: what is in hand is the type and the values of the governing one
- `constantsFrom_eq`: the groups of a declaration, numbered from its start
- `declaredBy_declaredAt`: what a group has of the governing specification
- `constants_repeated`: the constants that a declaration adds to a source file
-/

namespace ProviderGlue.Go

namespace ConstSpec

/-! ## Governing specifications -/

/-- Whether a specification governs the last one of a list: it has values, and none behind it has. -/
def Governs (g : ConstSpec) (specs : List ConstSpec) : Prop :=
  g.values.isSome = true ∧
    ∃ before after, specs = before ++ g :: after ∧ ∀ spec ∈ after, spec.values = none

variable {g spec : ConstSpec} {specs : List ConstSpec}

/-- A specification with values governs itself, and any other has the one above it. -/
theorem governs_concat_iff :
    g.Governs (specs ++ [spec]) ↔
      g = spec ∧ spec.values.isSome = true ∨ spec.values = none ∧ g.Governs specs := by
  constructor
  · rintro ⟨hvalues, before, after, heq, hafter⟩
    -- either the last specification governs itself, or it is the last of those behind the governing
    rcases List.eq_nil_or_concat after with rfl | ⟨after, last, rfl⟩
    · obtain ⟨rfl, -⟩ := List.cons.inj (List.append_inj' heq rfl).2
      exact .inl ⟨rfl, hvalues⟩
    · rw [List.concat_eq_append, ← List.cons_append, ← List.append_assoc] at heq
      obtain ⟨rfl, hlast⟩ := List.append_inj' heq rfl
      obtain ⟨rfl, -⟩ := List.cons.inj hlast
      rw [List.concat_eq_append] at hafter
      obtain ⟨hafter, hspec⟩ := List.forall_mem_append.1 hafter
      exact .inr ⟨hspec spec List.mem_cons_self, hvalues, before, after, rfl, hafter⟩
  · rintro (⟨rfl, hvalues⟩ | ⟨hnone, hvalues, before, after, rfl, hafter⟩)
    · exact ⟨hvalues, specs, [], rfl, fun spec hspec => absurd hspec List.not_mem_nil⟩
    · refine ⟨hvalues, before, after ++ [spec], by rw [List.append_assoc, List.cons_append], ?_⟩
      exact List.forall_mem_append.2 ⟨hafter, List.forall_mem_singleton.2 hnone⟩

/-- What is in hand after some specifications are the type and the values of the governing one. -/
theorem foldl_governedBy_eq_some_iff {type : Option String} {values : List String} :
    specs.foldl governedBy none = some ⟨type, values⟩ ↔
      ∃ g : ConstSpec, g.Governs specs ∧ g.type = type ∧ g.values = some values := by
  induction specs using List.reverseRecOn with
  | nil =>
    refine ⟨nofun, ?_⟩
    rintro ⟨g, ⟨-, before, after, heq, -⟩, -⟩
    exact absurd heq (by simp)
  | append_singleton specs spec ih =>
    rw [List.foldl_append, List.foldl_cons, List.foldl_nil, governedBy]
    simp only [governs_concat_iff]
    cases hspec : spec.values with
    | none => simpa using ih
    | some given =>
      constructor
      · intro h
        obtain ⟨rfl, rfl⟩ := Governing.mk.inj (Option.some.inj h)
        exact ⟨spec, .inl ⟨rfl, rfl⟩, rfl, hspec⟩
      · rintro ⟨g, ⟨rfl, -⟩ | ⟨hnone, -⟩, rfl, hvalues⟩
        · rw [hspec] at hvalues
          rw [Option.some.inj hvalues]
        · contradiction

/-! ## Groups of constants -/

/-- The constants of a specification, if something governs it. -/
def declaredUnder (governing : Option Governing) (iota : Int64) (spec : ConstSpec) :
    List Constant :=
  match governing with
  | none => []
  | some g => spec.declared g iota

/-- What governs the specification with number `k`, if anything does. -/
def governingAt (above : Option Governing) (specs : List ConstSpec) (k : Nat) : Option Governing :=
  (specs.take (k + 1)).foldl governedBy above

theorem governingAt_succ (above : Option Governing) (spec : ConstSpec) (specs : List ConstSpec)
    (k : Nat) :
    governingAt above (spec :: specs) (k + 1) = governingAt (spec.governedBy above) specs k := rfl

/-- A specification is read with what governs it, and hands that on with the next number. -/
theorem constantsFrom_cons (above : Option Governing) (iota : Int64) (spec : ConstSpec)
    (specs : List ConstSpec) :
    constantsFrom above iota (spec :: specs) =
      spec.declaredUnder (spec.governedBy above) iota ++
        constantsFrom (spec.governedBy above) (iota + 1) specs := by
  rw [constantsFrom]
  cases spec.governedBy above <;> rfl

/-- The constants come in groups, one for each specification with its own number. -/
theorem constantsFrom_eq (above : Option Governing) (iota : Int64) (specs : List ConstSpec) :
    constantsFrom above iota specs =
      (specs.mapIdx fun k spec =>
        spec.declaredUnder (governingAt above specs k) (iota + .ofNat k)).flatten := by
  induction specs generalizing above iota with
  | nil => rfl
  | cons spec specs ih =>
    -- the words of the numbers go up by one with the numbers, also where they wrap around
    have hnext : ∀ k, iota + 1 + Int64.ofNat k = iota + Int64.ofNat (k + 1) := fun k => by
      rw [Int64.add_assoc, Int64.add_comm 1, Int64.ofNat_add]
      rfl
    have hfirst : iota + Int64.ofNat 0 = iota := Int64.add_zero iota
    rw [constantsFrom_cons, ih, List.mapIdx_cons, List.flatten_cons, hfirst]
    simp only [hnext, governingAt_succ]
    rfl

/-- The constants of the specification with number `k`. -/
def declaredAt (specs : List ConstSpec) (k : Nat) (spec : ConstSpec) : List Constant :=
  spec.declaredUnder (governingAt none specs k) (.ofNat k)

theorem constants_eq (specs : List ConstSpec) :
    constants specs = (specs.mapIdx (declaredAt specs)).flatten := by
  rw [constants, constantsFrom_eq]
  simp only [Int64.zero_add]
  rfl

/-! ## Names, types and values -/

/-- A name and an expression declare a constant if the name is not blank and the expression has a
value. -/
theorem pair?_eq_some_iff {type name value : String} {iota : Int64} {c : Constant} :
    pair? type iota name value = some c ↔
      name ≠ "_" ∧ c.name = name ∧ c.type = type ∧ constant? iota value.toList = some c.value := by
  obtain ⟨cname, ctype, cvalue⟩ := c
  rw [pair?, Option.ite_none_left_eq_some]
  refine and_congr_right fun _ => ?_
  rw [Option.map_eq_some_iff]
  constructor
  · rintro ⟨v, hv, ⟨⟩⟩
    exact ⟨rfl, rfl, hv⟩
  · rintro ⟨rfl, rfl, hv⟩
    exact ⟨cvalue, hv, rfl⟩

/-- The constants of a specification under a type. -/
theorem mem_declared_iff {type : String} {values : List String} {iota : Int64} {c : Constant} :
    c ∈ spec.declared ⟨some type, values⟩ iota ↔
      ∃ name value, (name, value) ∈ spec.slots.zip values ∧ pair? type iota name value = some c := by
  rw [declared, List.mem_filterMap, Prod.exists]

/-- The names of a group are slots of its specification, in their order. -/
theorem names_declared_sublist (spec : ConstSpec) (governing : Governing) (iota : Int64) :
    ((spec.declared governing iota).map (·.name)).Sublist (spec.slots.filter (· ≠ "_")) := by
  obtain ⟨type, values⟩ := governing
  cases type with
  | none => exact List.nil_sublist _
  | some type =>
    show (((spec.slots.zip values).filterMap _).map _).Sublist _
    generalize spec.slots = slots
    induction slots generalizing values with
    | nil => exact List.nil_sublist _
    | cons slot slots ih =>
      cases values with
      | nil => exact List.nil_sublist _
      | cons value values =>
        rw [List.zip_cons_cons, List.filterMap_cons]
        split
        · exact (ih values).trans ((List.sublist_cons_self slot slots).filter _)
        · next c hc =>
          obtain ⟨hblank, hname, -⟩ := pair?_eq_some_iff.1 hc
          rw [List.map_cons, hname, List.filter_cons_of_pos (by simpa using hblank)]
          exact (ih values).cons_cons slot

/-- A name that stands alone is declared with the value of the first expression. -/
theorem declared_singleton {name : String} (hslots : spec.slots = [name]) (hname : name ≠ "_")
    (type : String) (values : List String) (iota : Int64) :
    spec.declared ⟨some type, values⟩ iota =
      ((values.head?.bind fun e => constant? iota e.toList).map fun v => ⟨name, type, v⟩).toList := by
  rw [declared, hslots]
  cases values with
  | nil => rfl
  | cons e es =>
    simp only [List.zip_cons_cons, List.zip_nil_left, List.filterMap_cons, List.filterMap_nil,
      pair?, if_neg hname, List.head?_cons, Option.bind_some]
    cases constant? iota e.toList <;> rfl

/-- The constants that the specification with number `k` declares. -/
structure DeclaredBy (specs : List ConstSpec) (k : Nat) (spec : ConstSpec)
    (declared : List Constant) : Prop where
  /-- Each has the type of the governing specification, and the value of one of its expressions for
  that number. -/
  governed : ∀ c ∈ declared, ∃ g : ConstSpec, g.Governs (specs.take (k + 1)) ∧ g.type = some c.type ∧
    ∃ values, g.values = some values ∧ ∃ e ∈ values, constant? (.ofNat k) e.toList = some c.value
  /-- There is none without a governing specification that has a type. -/
  silent : (∀ g : ConstSpec, g.Governs (specs.take (k + 1)) → g.type = none) → declared = []
  /-- Their names stand in the order in which they are written, without blanks. -/
  ordered : (declared.map (·.name)).Sublist (spec.slots.filter (· ≠ "_"))
  /-- A name that stands alone is declared with the value of the first expression, if that has one. -/
  single : ∀ name, spec.slots = [name] → name ≠ "_" → ∀ (g : ConstSpec) type values,
    g.Governs (specs.take (k + 1)) → g.type = some type → g.values = some values →
    declared = ((values.head?.bind fun e => constant? (.ofNat k) e.toList).map
      fun v => ⟨name, type, v⟩).toList

/-- What the specification with number `k` declares is governed by the nearest one with values. -/
theorem declaredBy_declaredAt (specs : List ConstSpec) (k : Nat) (spec : ConstSpec) :
    DeclaredBy specs k spec (declaredAt specs k spec) := by
  rw [declaredAt, governingAt]
  cases habove : (specs.take (k + 1)).foldl governedBy none with
  | none =>
    have hnone : ∀ (g : ConstSpec) type values, g.Governs (specs.take (k + 1)) → g.type = some type →
        g.values ≠ some values := by
      intro g type values hg htype hvalues
      have hsome := foldl_governedBy_eq_some_iff.2 ⟨g, hg, htype, hvalues⟩
      rw [habove] at hsome
      contradiction
    exact
      { governed := fun c hc => absurd hc List.not_mem_nil
        silent := fun _ => rfl
        ordered := List.nil_sublist _
        single := fun _ _ _ g type values hg htype hvalues =>
          absurd hvalues (hnone g type values hg htype) }
  | some above =>
    obtain ⟨type, values⟩ := above
    obtain ⟨g, hg, rfl, hvalues⟩ := foldl_governedBy_eq_some_iff.1 habove
    show DeclaredBy specs k spec (spec.declared ⟨g.type, values⟩ (.ofNat k))
    constructor
    case governed =>
      intro c hc
      cases htype : g.type with
      | none =>
        rw [htype] at hc
        exact absurd hc List.not_mem_nil
      | some type =>
        rw [htype, mem_declared_iff] at hc
        obtain ⟨name, e, he, hpair⟩ := hc
        obtain ⟨-, -, hctype, hvalue⟩ := pair?_eq_some_iff.1 hpair
        exact ⟨g, hg, by rw [htype, hctype], values, hvalues, e, (List.of_mem_zip he).2, hvalue⟩
    case silent =>
      intro hnone
      rw [hnone g hg]
      rfl
    case ordered => exact names_declared_sublist _ _ _
    case single =>
      intro name hslots hname g' type values' hg' htype' hvalues'
      -- what is in hand does not depend on which governing specification is looked at
      have habove' := foldl_governedBy_eq_some_iff.2 ⟨g', hg', htype', hvalues'⟩
      rw [habove] at habove'
      obtain ⟨htype, rfl⟩ := Governing.mk.inj (Option.some.inj habove')
      rw [htype]
      exact declared_singleton hslots hname type values (.ofNat k)

end ConstSpec

namespace SourceFile

/-- The specifications of a declaration.  Comments between them are not counted. -/
def specsOf (declaration : Node) : List ConstSpec :=
  (declaration.all .constSpec).map constSpec

/-- **Specifications without values repeat the nearest one above that has them.**  A declaration of
constants adds a group of constants for each of its specifications to those of the file, in order. -/
theorem constants_repeated (file : SourceFile) (text : List Char) (children : List Node) :
    let specs := specsOf (.node .constants text children)
    ∃ groups : List (List Constant),
      (file.add (.node .constants text children)).constants = file.constants ++ groups.flatten ∧
      groups.length = specs.length ∧
      ∀ k spec, specs[k]? = some spec →
        ∃ declared, groups[k]? = some declared ∧ ConstSpec.DeclaredBy specs k spec declared := by
  intro specs
  refine ⟨specs.mapIdx (ConstSpec.declaredAt specs), ?_, List.length_mapIdx, fun k spec hk => ?_⟩
  · rw [← ConstSpec.constants_eq]
    rfl
  · refine ⟨ConstSpec.declaredAt specs k spec, ?_, ConstSpec.declaredBy_declaredAt specs k spec⟩
    rw [List.getElem?_mapIdx, hk]
    rfl

end SourceFile

end ProviderGlue.Go
