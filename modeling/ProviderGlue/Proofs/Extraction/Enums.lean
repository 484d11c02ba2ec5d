import ProviderGlue.Proofs.Narrowing
import ProviderGlue.Proofs.Schema.Alike
import ProviderGlue.Proofs.Schema.Coherence

/-!
# Enumerations of extractions

An extraction keeps the enumerations that its operations mention.  Which fields hold values of an
enumeration is decided once more when a plan is made, from the same names of types, and a plan sees
only fields of the shape.  So a plan with the enumerations that are kept is the plan with all of them.

## Key results

- `enumNamed?_eq_some_iff`: enumerations with different names are found by membership
- `mentionedEnums_exact`: the enumerations that are kept are those that plans need
-/

namespace ProviderGlue

open Schema

/-- Of enumerations with different names, the one of a name is found. -/
theorem Schema.enumNamed?_eq_some_iff {enums : List Enumeration} (h : (enums.map (·.name)).Nodup)
    {name : String} {e : Enumeration} :
    enumNamed? enums name = some e ↔ e ∈ enums ∧ e.name = name := by
  refine ⟨enumNamed?_eq_some, ?_⟩
  rintro ⟨hmem, rfl⟩
  rw [enumNamed?, filter_eq_singleton (·.name) h hmem, List.getLast?_singleton]

/-- Enumerations in the order of their names have different ones. -/
theorem Schema.nodup_names {enums : List Enumeration}
    (h : enums.Pairwise (·.name < ·.name)) : (enums.map (·.name)).Nodup := by
  apply List.pairwise_map.2
  apply h.imp
  intro a b hlt heq
  exact String.lt_irrefl _ (heq ▸ hlt)

namespace Extraction

variable {enums : Table Enumeration}

/-! ## What is kept -/

/-- If the keys are the names, the values stand in the order of their names. -/
theorem pairwise_values (hkeys : ∀ e ∈ enums.entries, e.2.name = e.1) :
    enums.values.Pairwise (·.name < ·.name) := by
  apply List.pairwise_map.2
  apply enums.sorted.imp_of_mem
  intro a b ha hb hlt
  rw [hkeys a ha, hkeys b hb]
  exact hlt

/-- The enumerations that are kept stand in the order of their names. -/
theorem pairwise_mentionedEnums (operations : List ApiOperation)
    (hkeys : ∀ e ∈ enums.entries, e.2.name = e.1) :
    (mentionedEnums operations enums).Pairwise (·.name < ·.name) := by
  unfold mentionedEnums
  apply pairwise_values
  intro e he
  exact hkeys e (List.mem_filter.1 he).1

/-- The enumerations that are kept are those with a name that some field mentions. -/
theorem mem_mentionedEnums_iff {operations : List ApiOperation}
    (hkeys : ∀ e ∈ enums.entries, e.2.name = e.1) {e : Enumeration} :
    e ∈ mentionedEnums operations enums ↔ e ∈ enums.values ∧ Mentions operations e.name := by
  obtain ⟨mentioned, heq, hget⟩ := mentionedEnums_eq operations enums
  have hname : ∀ {key}, enums.get? key = some e → e.name = key := fun h =>
    hkeys _ (Table.mem_entries_iff.2 h)
  rw [heq, Table.mem_values_iff, Table.mem_values_iff]
  constructor
  · rintro ⟨key, hkey⟩
    obtain ⟨hkey, hmentions⟩ := hget.1 hkey
    rw [hname hkey]
    exact ⟨⟨key, hkey⟩, hmentions⟩
  · rintro ⟨⟨key, hkey⟩, hmentions⟩
    rw [hname hkey] at hmentions
    exact ⟨key, hget.2 ⟨hkey, hmentions⟩⟩

/-! ## What plans need -/

/-- A field of a response mentions its type. -/
theorem mentions_of_within {operations : List ApiOperation} {o : ApiOperation} (ho : o ∈ operations)
    {s : Shape} (hs : s ∈ o.response) {f : ShapeField} (hf : f.Within s.fields) :
    Mentions operations (Go.baseName f.type) :=
  ⟨o, ho, s, List.mem_append_right _ (Option.mem_toList.2 hs), f, hf, rfl⟩

/-- A name that operations mention finds the same enumeration among those that are kept as among
all. -/
theorem enumNamed?_mentionedEnums {operations : List ApiOperation}
    (hkeys : ∀ e ∈ enums.entries, e.2.name = e.1) {whole : List Enumeration}
    (hwhole : whole.Perm enums.values) {name : String} (hname : Mentions operations name) :
    enumNamed? whole name = enumNamed? (mentionedEnums operations enums) name := by
  have hnodup : (whole.map (·.name)).Nodup :=
    (hwhole.map (·.name)).nodup_iff.2 (nodup_names (pairwise_values hkeys))
  have hnodup' := nodup_names (pairwise_mentionedEnums operations hkeys)
  apply Option.ext
  intro e
  rw [enumNamed?_eq_some_iff hnodup, enumNamed?_eq_some_iff hnodup', mem_mentionedEnums_iff hkeys,
    hwhole.mem_iff]
  constructor
  · rintro ⟨hmem, rfl⟩
    exact ⟨⟨hmem, hname⟩, rfl⟩
  · rintro ⟨⟨hmem, -⟩, heq⟩
    exact ⟨hmem, heq⟩

/-- Plans with the enumerations that are kept are plans with all of them, in any order. -/
theorem build_mentionedEnums {operations : List ApiOperation}
    (hkeys : ∀ e ∈ enums.entries, e.2.name = e.1) {whole : List Enumeration}
    (hwhole : whole.Perm enums.values) {o : ApiOperation} (ho : o ∈ operations) {s : Shape}
    (hs : s ∈ o.response) (reserved : List String) :
    Plan.build s whole reserved = Plan.build s (mentionedEnums operations enums) reserved := by
  have hpayload : Alike (mentionedEnums operations enums) whole (Plan.payload s).1
      (Plan.payload s).1 := by
    apply Alike.self
    intro f hf hleaf
    rcases ShapeField.within_cons_iff.1 hf with rfl | hf | hf
    · -- the payload is a struct
      rw [Plan.payload_isComposite] at hleaf
      exact absurd hleaf (by decide)
    · exact enumNamed?_mentionedEnums hkeys hwhole
        (mentions_of_within ho hs (Plan.within_of_payload hf))
    · exact absurd hf ShapeField.not_within_nil
  -- the shape is the same, so its payload is reached in the same way
  show Plan.build { s with fields := s.fields } whole reserved =
    Plan.build s (mentionedEnums operations enums) reserved
  exact build_alike hpayload rfl reserved

/-- **Dropping enumerations loses nothing**: for all operations and all enumerations that stand under
their names, those that some field mentions are kept, once and in the order of their names, and the
plans of all responses are those with all enumerations. -/
theorem mentionedEnums_exact (operations : List ApiOperation) (enums : Table Enumeration)
    (hkeys : ∀ e ∈ enums.entries, e.2.name = e.1) :
    (mentionedEnums operations enums).Pairwise (·.name < ·.name) ∧
      (∀ e, e ∈ mentionedEnums operations enums ↔
        e ∈ enums.values ∧ Mentions operations e.name) ∧
      ∀ o ∈ operations, ∀ s ∈ o.response, ∀ whole : List Enumeration, whole.Perm enums.values →
        ∀ reserved, Plan.build s (mentionedEnums operations enums) reserved =
          Plan.build s whole reserved := by
  refine ⟨pairwise_mentionedEnums operations hkeys, fun e => mem_mentionedEnums_iff hkeys, ?_⟩
  intro o ho s hs whole hwhole reserved
  exact (build_mentionedEnums hkeys hwhole ho hs reserved).symm

/-- An operation whose response has a role. -/
def roleOperation : ApiOperation where
  method := { name := "Get", owner := "GroupsApi", file := "" }
  response := some
    { name := "Group", type := "*Group", fields := [{ name := "Role", type := "*Role" }] }

/-- Two enumerations; no field has a color. -/
def sampleEnums : Table Enumeration :=
  (∅ : Table Enumeration).insert "Color" ⟨"Color", "", []⟩ |>.insert "Role" ⟨"Role", "", []⟩

theorem mentionedEnums_exact_roleOperation :
    (∀ e ∈ sampleEnums.entries, e.2.name = e.1) ∧
      mentionedEnums [roleOperation] sampleEnums = [⟨"Role", "", []⟩] ∧
      (mentionedEnums [roleOperation] sampleEnums).Pairwise (·.name < ·.name) ∧
      (∀ e, e ∈ mentionedEnums [roleOperation] sampleEnums ↔
        e ∈ sampleEnums.values ∧ Mentions [roleOperation] e.name) ∧
      ∀ o ∈ [roleOperation], ∀ s ∈ o.response, ∀ whole : List Enumeration,
        whole.Perm sampleEnums.values → ∀ reserved,
          Plan.build s (mentionedEnums [roleOperation] sampleEnums) reserved =
            Plan.build s whole reserved :=
  ⟨by decide, by decide +kernel, mentionedEnums_exact [roleOperation] sampleEnums (by decide)⟩

end Extraction

end ProviderGlue
