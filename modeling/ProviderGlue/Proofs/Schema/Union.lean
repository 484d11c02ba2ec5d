import ProviderGlue.Proofs.Schema.Alike
import ProviderGlue.Proofs.Schema.Coherence

/-!
# Unions in plans

No member of a union has a node: the fields of one member take the place of the union, and the other
members are dropped.  What stands below members for errors does not show in a plan at all.

The envelope of a response is chosen before its fields are looked at, and nothing keeps a union
member from being chosen.  So a plan may read a union member as a whole, even one for an error, but
only as its payload.

## Key results

- `field_of_origins`: the nodes of a scope stand for fields that are no union members
- `selectsMember_iff`: a call reads a union member exactly if the envelope is one
- `build_dropsUnions`: how every plan treats the unions of its shape
-/

namespace ProviderGlue.Schema

open Text Go

/-! ## Nodes -/

/-- The name of a field that has one selects it. -/
theorem selector_of_ne_empty {f : ShapeField} (h : f.name ≠ "") : selector f = f.name := by
  rw [selector, if_neg (by simpa using h)]

/-- The origins of a scope are fields of the scope or of a union member in it, and are no union
members. -/
theorem field_of_origins {o : Origin} (spliced : Bool) (outer : Package) (fs : List ShapeField)
    (ho : o ∈ origins spliced outer fs) :
    o.field.Within fs ∧ isUnionMember o.field.name = false := by
  fun_induction origins spliced outer fs with
  | case1 => exact absurd ho List.not_mem_nil
  | case2 spliced f fs hunion hspliced ih =>
    -- the fields of `f` take its place
    rcases List.mem_append.1 ho with ho | ho
    · obtain ⟨c, hc, rfl⟩ := List.mem_map.1 ho
      obtain ⟨hc, hnamed⟩ := List.mem_filter.1 hc
      exact ⟨.inside List.mem_cons_self (.here hc), by simpa using hnamed⟩
    · obtain ⟨hin, hnamed⟩ := ih ho
      exact ⟨ShapeField.within_cons_iff.2 (.inr (.inr hin)), hnamed⟩
  | case3 spliced f fs hunion hspliced ih =>
    obtain ⟨hin, hnamed⟩ := ih ho
    exact ⟨ShapeField.within_cons_iff.2 (.inr (.inr hin)), hnamed⟩
  | case4 spliced f fs hnamed ih =>
    rcases List.mem_cons.1 ho with rfl | ho
    · exact ⟨.here List.mem_cons_self, by simpa using hnamed⟩
    · obtain ⟨hin, hnamed⟩ := ih ho
      exact ⟨ShapeField.within_cons_iff.2 (.inr (.inr hin)), hnamed⟩

/-- Every node below traced nodes stands for a field that is no union member. -/
theorem Traces.exists_field {Fits : Package → ShapeField → NodeKind → List Node → Prop}
    {os : List Origin} {ns : List Node} (h : Traces Fits os ns) {top : List ShapeField}
    (hos : ∀ o ∈ os, o.field.Within top ∧ isUnionMember o.field.name = false) {n : Node}
    (hn : n.Within ns) :
    ∃ f : ShapeField, f.Within top ∧ isUnionMember f.name = false ∧ n.field = selector f := by
  induction h with
  | nil => exact absurd hn Node.within_nil
  | @bare o m os ns hfield hsource hfits hempty _ ih =>
    have ho := hos o List.mem_cons_self
    rcases Node.within_cons hn with rfl | hin | hin
    · exact ⟨o.field, ho.1, ho.2, hfield⟩
    · exact absurd (hempty ▸ hin) Node.within_nil
    · exact ih (fun o ho => hos o (List.mem_cons_of_mem _ ho)) hin
  | @full o m os ns hfield hsource hfits _ _ ihbelow ih =>
    have ho := hos o List.mem_cons_self
    rcases Node.within_cons hn with rfl | hin | hin
    · exact ⟨o.field, ho.1, ho.2, hfield⟩
    · -- the origins below are fields below the origin of the node
      apply ihbelow _ hin
      intro o' ho'
      obtain ⟨hwithin, hnamed⟩ := field_of_origins false _ _ ho'
      exact ⟨ho.1.trans hwithin, hnamed⟩
    · exact ih (fun o ho => hos o (List.mem_cons_of_mem _ ho)) hin

/-- The nodes that stand for the fields of a struct below `top` stand for no union members. -/
theorem Traces.exists_field_below {Fits : Package → ShapeField → NodeKind → List Node → Prop}
    {outer : Package} {f : ShapeField} {ns : List Node}
    (h : Traces Fits (origins false outer f.children) ns) {top : List ShapeField}
    (hf : f.Within top) {n : Node} (hn : n.Within ns) :
    ∃ f : ShapeField, f.Within top ∧ isUnionMember f.name = false ∧ n.field = selector f := by
  apply h.exists_field _ hn
  intro o ho
  obtain ⟨hwithin, hnamed⟩ := field_of_origins false _ _ ho
  exact ⟨hf.trans hwithin, hnamed⟩

/-- Every node that a plan mentions stands for a field of the payload that is no union member. -/
theorem Plan.Coherent.exists_field {p : Plan} {enums : List Enumeration} {outer : Package}
    {top : ShapeField} (h : p.Coherent enums outer top) {n : Node} (hn : p.Mentions n) :
    ∃ f : ShapeField, f.Within [top] ∧ isUnionMember f.name = false ∧ n.field = selector f := by
  rcases hn with hn | ⟨g, hg, hn⟩
  · rcases h.root_tables with hempty | htraces
    · exact absurd (hempty ▸ hn) Node.within_nil
    · exact htraces.exists_field_below (.here List.mem_cons_self) hn
  · obtain ⟨outer, f, hf, htraces⟩ := h.tables hg
    exact htraces.exists_field_below hf hn

/-! ## The call -/

/-- Whether an expression reads a union member of the response. -/
def SelectsMember (argument : String) : Prop :=
  ∃ name, isUnionMember name = true ∧ (argument = "resp." ++ name ∨ argument = "&resp." ++ name)

/-- The call of a plan reads a union member exactly if the envelope is selected like one. -/
theorem selectsMember_iff (s : Shape) :
    SelectsMember (Plan.payload s).2 ↔
      ∃ f ∈ Plan.envelope? s, isUnionMember (selector f) = true := by
  rw [Plan.payload]
  cases henvelope : Plan.envelope? s with
  | none =>
    -- nothing is selected from the response
    constructor
    · rintro ⟨name, -, heq | heq⟩
      · exact absurd (congrArg String.toList heq) (by simp)
      · exact absurd (congrArg String.toList heq) (by simp)
    · rintro ⟨f, hf, -⟩
      exact absurd hf (Option.not_mem_none f)
  | some f =>
    constructor
    · rintro ⟨name, hname, heq⟩
      refine ⟨f, rfl, ?_⟩
      have hselector : selector f = name := by
        -- the two ways to reach a field start differently
        dsimp only at heq
        by_cases hpointer : TypeText.isPointer f.type.toList = true
        · rw [if_pos hpointer] at heq
          rcases heq with heq | heq
          · exact (String.append_right_inj _).1 heq
          · exact absurd (congrArg String.toList heq) (by simp)
        · rw [if_neg hpointer] at heq
          rcases heq with heq | heq
          · exact absurd (congrArg String.toList heq) (by simp)
          · exact (String.append_right_inj _).1 heq
      rw [hselector]
      exact hname
    · rintro ⟨g, hg, hselector⟩
      obtain rfl := Option.some.inj hg
      refine ⟨selector f, hselector, ?_⟩
      dsimp only
      split
      · exact .inl rfl
      · exact .inr rfl

/-- The call of a plan is given the payload. -/
theorem build_argument {s : Shape} {enums : List Enumeration} {reserved : List String} {c : RootCall}
    (hc : (Plan.build s enums reserved).rootCall = some c) :
    c.argument = (Plan.payload s).2 := by
  simp only [Plan.build, StateT.run] at hc
  generalize content enums reserved ⟨s.importPath, s.importAlias⟩ (Plan.payload s).1 {} = r at hc
  obtain ⟨⟨kind, root⟩, d⟩ := r
  cases kind with
  | object flatten access =>
    obtain rfl := Option.some.inj hc
    rfl
  | _ => exact absurd hc (Option.some_ne_none c).symm

/-! ## Plans -/

namespace Plan

/-- How the plan of a shape treats unions. -/
structure DropsUnions (s : Shape) (enums : List Enumeration) (reserved : List String) : Prop where
  /-- Nodes stand for fields that are no union members, and those of fields with a name do not look
  like union members either. -/
  node : ∀ {n}, (build s enums reserved).Mentions n →
    ∃ f : ShapeField, f.Within [(payload s).1] ∧ isUnionMember f.name = false ∧
      n.field = selector f ∧ (f.name ≠ "" → isUnionMember n.field = false)
  /-- The call reads a union member exactly if the envelope is one. -/
  call : ∀ {c}, (build s enums reserved).rootCall = some c →
    (SelectsMember c.argument ↔ ∃ f ∈ envelope? s, isUnionMember (selector f) = true)
  /-- Unless it is the envelope, an error member may be any other field of its name: the plan has
  nothing that comes from it or from below it. -/
  error : ∀ {fields'}, AllAlike enums enums s.fields fields' →
    (∀ f ∈ envelope? s, isErrorMember f = false) →
    (∀ f ∈ envelope? { s with fields := fields' }, isErrorMember f = false) →
    build { s with fields := fields' } enums reserved = build s enums reserved

end Plan

/-- **Plans drop unions**: for every shape, all enumerations and all reserved keys, nodes stand for
no union members, and error members leave no trace, unless the payload is one. -/
theorem build_dropsUnions (s : Shape) (enums : List Enumeration) (reserved : List String) :
    Plan.DropsUnions s enums reserved where
  node hn := by
    obtain ⟨f, hwithin, hnamed, hfield⟩ := (build_coherent s enums reserved).exists_field hn
    refine ⟨f, hwithin, hnamed, hfield, fun hne => ?_⟩
    rw [hfield, selector_of_ne_empty hne]
    exact hnamed
  call {c} hc := by
    rw [build_argument hc, selectsMember_iff]
  error hfields henvelope henvelope' := by
    obtain ⟨hpayload, hargument⟩ := payload_alike hfields henvelope henvelope'
    exact build_alike hpayload hargument reserved

/-- A union member for an error. -/
def faultMember : ShapeField where
  name := "oneOfType400"
  type := "*Fault"
  isComposite := true
  children := [{ name := "Message", type := "*string" }]

/-- A response that starts with a union member for an error. -/
def faultReply : Shape where
  name := "Reply"
  type := "*Reply"
  fields := [faultMember]

/-- An error member at the start of a response is the payload: the call reads it, and the field
below it has a node. -/
theorem reads_faultReply :
    isErrorMember faultMember = true ∧
      (Plan.build faultReply [] ["ext_id"]).rootCall =
        some ⟨"flattenFault", "resp.oneOfType400"⟩ ∧
      SelectsMember "resp.oneOfType400" ∧
      (Plan.build faultReply [] ["ext_id"]).root.map (·.field) = ["Message"] :=
  ⟨by decide, by decide +kernel, ⟨"oneOfType400", by decide, .inl (by decide)⟩,
    by decide +kernel⟩

end ProviderGlue.Schema
