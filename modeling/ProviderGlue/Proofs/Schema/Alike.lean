import ProviderGlue.Proofs.Schema.Origin

/-!
# What a plan does not look at

Two fields are alike if a plan cannot tell them apart: they agree in all that is read of them, and so
do the fields below, except that a union member for an error is never looked into.  Enumerations are
only looked up by the types of fields that are no structs, so the two fields may come with different
enumerations as long as these give the same for such types.

The steps of a plan do the same for fields that are alike, whatever the draft.

## Key results

- `planned_alike`: the steps of a plan do the same for alike fields
- `build_alike`: shapes with alike payloads have the same plan
- `payload_alike`: alike fields have alike payloads, unless a payload is an error member
-/

namespace ProviderGlue.Schema

open Text Go

/-- Whether a field is a member of a union that stands for an error. -/
def isErrorMember (f : ShapeField) : Bool := isUnionMember f.name && isErrorBranch f.name

section Alike

variable (enums enums' : List Enumeration)

mutual

/-- Fields that a plan cannot tell apart, with the one enumerations and the other. -/
inductive Alike : ShapeField → ShapeField → Prop
  | mk {f f' : ShapeField} (name : f'.name = f.name) (type : f'.type = f.type)
    (composite : f'.isComposite = f.isComposite) (importAlias : f'.importAlias = f.importAlias)
    (importPath : f'.importPath = f.importPath)
    (enums : f.isComposite = false →
      enumNamed? enums' (baseName f.type) = enumNamed? enums (baseName f.type))
    (below : AllAlike f.children f'.children) : Alike f f'

/-- Fields that a plan cannot tell apart one by one.  In place of a union member for an error there
may be any field of its name, whatever its type and the fields below it. -/
inductive AllAlike : List ShapeField → List ShapeField → Prop
  | nil : AllAlike [] []
  | cons {f f' : ShapeField} {fs fs' : List ShapeField} (head : Alike f f')
    (tail : AllAlike fs fs') : AllAlike (f :: fs) (f' :: fs')
  | error {f f' : ShapeField} {fs fs' : List ShapeField} (head : isErrorMember f = true)
    (name : f'.name = f.name) (tail : AllAlike fs fs') : AllAlike (f :: fs) (f' :: fs')

end

end Alike

section Steps

variable {enums enums' : List Enumeration}

theorem AllAlike.isEmpty_eq {fs fs' : List ShapeField} (h : AllAlike enums enums' fs fs') :
    fs'.isEmpty = fs.isEmpty := by
  cases h <;> rfl

mutual

theorem Alike.self : (f : ShapeField) →
    (∀ g : ShapeField, g.Within [f] → g.isComposite = false →
      enumNamed? enums' (baseName g.type) = enumNamed? enums (baseName g.type)) →
    Alike enums enums' f f
  | ⟨name, type, tag, isComposite, children, importAlias, importPath⟩ => fun h => by
    refine .mk rfl rfl rfl rfl rfl (h _ (.here List.mem_cons_self)) ?_
    exact AllAlike.self children fun g hg => h g (.inside List.mem_cons_self hg)

/-- Fields are alike to themselves if the enumerations agree on their types. -/
theorem AllAlike.self : (fs : List ShapeField) →
    (∀ g : ShapeField, g.Within fs → g.isComposite = false →
      enumNamed? enums' (baseName g.type) = enumNamed? enums (baseName g.type)) →
    AllAlike enums enums' fs fs
  | [] => fun _ => .nil
  | f :: fs => fun h => by
    refine .cons (Alike.self f fun g hg => h g ?_) (AllAlike.self fs fun g hg => h g ?_)
    · rcases ShapeField.within_cons_iff.1 hg with rfl | hin | hin
      · exact .here List.mem_cons_self
      · exact .inside List.mem_cons_self hin
      · exact absurd hin ShapeField.not_within_nil
    · exact ShapeField.within_cons_iff.2 (.inr (.inr hg))

end

/-! ## Error members -/

/-- An error member never takes the place of a union. -/
theorem member_of_error (enums : List Enumeration) (taken : List String) (outer : Package)
    {f : ShapeField} (h : isErrorMember f = true) : member enums taken outer f = pure none := by
  rw [isErrorMember, Bool.and_eq_true] at h
  have hresult : isResultBranch f = false := by simp [isResultBranch, h.2]
  rw [member_eq, hresult]
  rfl

/-- A scope passes over an error member. -/
theorem scope_of_error (enums : List Enumeration) (taken : List String) (spliced : Bool)
    (outer : Package) {f : ShapeField} (fs : List ShapeField) (h : isErrorMember f = true) :
    scope enums taken spliced outer (f :: fs) = scope enums taken spliced outer fs := by
  have hunion : isUnionMember f.name = true := (Bool.and_eq_true_iff.1 h).1
  rw [scope, if_pos hunion, member_of_error enums taken outer h]
  cases spliced <;> rfl

/-- The fields of a union member leave out an error member. -/
theorem branch_of_error (enums : List Enumeration) (taken : List String) (outer : Package)
    {f : ShapeField} (fs : List ShapeField) (h : isErrorMember f = true) :
    branch enums taken outer (f :: fs) = branch enums taken outer fs := by
  rw [branch, if_pos (Bool.and_eq_true_iff.1 h).1]

/-- Whether a field is an error member shows in its name. -/
theorem isErrorMember_congr {f f' : ShapeField} (h : f'.name = f.name) :
    isErrorMember f' = isErrorMember f := by
  rw [isErrorMember, isErrorMember, h]

/-! ## What single fields give -/

namespace Alike

variable {f f' : ShapeField}

theorem name_eq (h : Alike enums enums' f f') : f'.name = f.name := by
  obtain ⟨hname, -⟩ := h
  exact hname

theorem type_eq (h : Alike enums enums' f f') : f'.type = f.type := by
  obtain ⟨-, htype, -⟩ := h
  exact htype

theorem children (h : Alike enums enums' f f') :
    AllAlike enums enums' f.children f'.children := by
  obtain ⟨-, -, -, -, -, -, hchildren⟩ := h
  exact hchildren

theorem selector_eq (h : Alike enums enums' f f') : selector f' = selector f := by
  rw [selector, selector, h.name_eq, h.type_eq]

theorem below_eq (h : Alike enums enums' f f') (outer : Package) :
    outer.below f' = outer.below f := by
  obtain ⟨-, -, -, halias, hpath, -⟩ := h
  rw [Package.below, Package.below, halias, hpath]

theorem qualified?_eq (h : Alike enums enums' f f') (outer : Package) :
    Draft.qualified? outer f' = Draft.qualified? outer f := by
  obtain ⟨-, htype, -, -, hpath, -⟩ := h
  simp only [Draft.qualified?, htype, hpath]

theorem unionType?_eq (h : Alike enums enums' f f') (outer : Package) :
    Draft.unionType? outer f' = Draft.unionType? outer f := by
  have hqualified := h.qualified?_eq outer
  obtain ⟨-, htype, -⟩ := h
  simp only [Draft.unionType?, hqualified, htype]

theorem isResultBranch_eq (h : Alike enums enums' f f') :
    isResultBranch f' = isResultBranch f := by
  obtain ⟨hname, -, hcomposite, -, -, -, hchildren⟩ := h
  rw [isResultBranch, isResultBranch, hname, hcomposite, hchildren.isEmpty_eq]

/-- What a struct holds depends on its type and the nodes below it. -/
theorem objectKind_eq (h : Alike enums enums' f f') (outer : Package) (nodes : List Node)
    (union : Option UnionBranch) :
    objectKind outer f' nodes union = objectKind outer f nodes union := by
  have hqualified := h.qualified?_eq outer
  obtain ⟨-, htype, -⟩ := h
  simp only [objectKind, hqualified, htype]

/-- What a field holds whose type is no struct depends on its type and the enumeration of that
name. -/
theorem leafKind_eq (h : Alike enums enums' f f') (outer : Package) (hleaf : f.isComposite = false) :
    leafKind enums' outer f' = leafKind enums outer f := by
  have hqualified := h.qualified?_eq outer
  obtain ⟨-, htype, -, -, -, henum, -⟩ := h
  simp only [leafKind, enumKind, hqualified, htype, henum hleaf]

/-- Alike fields hold the same if the scopes below them are the same. -/
theorem content_eq_of_scope (h : Alike enums enums' f f') (reserved : List String) (outer : Package)
    (hscope : f.isComposite = true →
      scope enums' reserved false (outer.below f) f'.children =
        scope enums reserved false (outer.below f) f.children) :
    content enums' reserved outer f' = content enums reserved outer f := by
  have hbelow := h.below_eq outer
  have hobject := h.objectKind_eq outer
  have hleaf := h.leafKind_eq outer
  obtain ⟨-, htype, hcomposite, -, -, -, hchildren⟩ := h
  rw [content_eq, content_eq, hcomposite, htype, hbelow, hchildren.isEmpty_eq]
  cases hkind : f.isComposite with
  | true =>
    rw [hscope hkind]
    simp only [if_true, hobject]
  | false =>
    rw [hleaf hkind]
    simp only [Bool.false_eq_true, if_false]

/-- Alike union members give the same if their fields do. -/
theorem member_eq_of_branch (h : Alike enums enums' f f') (taken : List String) (outer : Package)
    (hbranch : isResultBranch f = true →
      branch enums' taken (outer.below f) f'.children =
        branch enums taken (outer.below f) f.children) :
    member enums' taken outer f' = member enums taken outer f := by
  rw [member_eq, member_eq, h.isResultBranch_eq, h.unionType?_eq outer, h.below_eq outer]
  cases hresult : isResultBranch f with
  | true => rw [hbranch hresult]
  | false => simp only [Bool.not_false, if_true]

end Alike

/-! ## What the steps give -/

/-- The steps of a plan do the same for alike fields. -/
theorem planned_alike :
    (∀ reserved outer f f', Alike enums enums' f f' →
      content enums' reserved outer f' = content enums reserved outer f) ∧
    (∀ taken spliced outer fs fs', AllAlike enums enums' fs fs' →
      scope enums' taken spliced outer fs' = scope enums taken spliced outer fs) ∧
    (∀ taken outer f f', Alike enums enums' f f' →
      member enums' taken outer f' = member enums taken outer f) ∧
    (∀ taken outer fs fs', AllAlike enums enums' fs fs' →
      branch enums' taken outer fs' = branch enums taken outer fs) := by
  refine content.mutual_induct enums
    (fun reserved outer f => ∀ f', Alike enums enums' f f' →
      content enums' reserved outer f' = content enums reserved outer f)
    (fun taken spliced outer fs => ∀ fs', AllAlike enums enums' fs fs' →
      scope enums' taken spliced outer fs' = scope enums taken spliced outer fs)
    (fun taken outer f => ∀ f', Alike enums enums' f f' →
      member enums' taken outer f' = member enums taken outer f)
    (fun taken outer fs => ∀ fs', AllAlike enums enums' fs fs' →
      branch enums' taken outer fs' = branch enums taken outer fs)
    ?_ ?_ ?_ ?_ ?_ ?_ ?_ ?_ ?_ ?_ ?_ ?_
  · -- a struct that is not expanded
    intro reserved outer name type tag children importAlias importPath hempty f' h
    obtain ⟨hname, htype, hcomposite, -, -, -, hchildren⟩ := h
    have hempty' : f'.children.isEmpty = true ∨ TypeText.isMap f'.type.toList = true := by
      rw [hchildren.isEmpty_eq, htype]
      exact hempty
    rw [content_eq, content_eq, hcomposite, if_pos rfl, if_pos rfl, if_pos hempty, if_pos hempty']
  · -- a struct with fields below
    intro reserved outer name type tag children importAlias importPath _ ih f' h
    have hchildren := h.children
    exact h.content_eq_of_scope reserved outer fun _ => ih _ hchildren
  · -- a field whose type is no struct
    intro reserved outer name type tag isComposite children importAlias importPath hleaf f' h
    exact h.content_eq_of_scope reserved outer fun hcomposite => absurd hcomposite hleaf
  · -- a union member that stands for no result
    intro taken outer name type tag isComposite children importAlias importPath hresult f' h
    refine h.member_eq_of_branch taken outer fun hresult' => ?_
    rw [hresult'] at hresult
    exact absurd hresult (by decide)
  · -- a union member that stands for a result
    intro taken outer name type tag isComposite children importAlias importPath _ ih f' h
    exact h.member_eq_of_branch taken outer fun _ => ih _ h.children
  · intro taken spliced outer fs' h
    cases h
    rw [scope, scope]
  · -- a union member behind the one that is used
    intro taken outer f fs hunion ih _ fs' h
    cases h with
    | error herror hname hrest =>
      rw [scope_of_error enums' _ _ _ _ ((isErrorMember_congr hname).trans herror),
        scope_of_error enums _ _ _ _ herror]
      exact ih _ hrest
    | cons hf hrest =>
      rw [scope, scope, hf.name_eq, if_pos hunion, if_pos hunion]
      exact ih _ hrest
  · -- a union member that may be used
    intro taken spliced outer f fs hunion hspliced ih ihused ihmember fs' h
    obtain rfl : spliced = false := by simpa using hspliced
    cases h with
    | error herror hname hrest =>
      rw [scope_of_error enums' _ _ _ _ ((isErrorMember_congr hname).trans herror),
        scope_of_error enums _ _ _ _ herror]
      exact ih _ hrest
    | cons hf hrest =>
      rw [scope, scope, hf.name_eq, if_pos hunion, if_pos hunion]
      simp only [Bool.false_eq_true, if_false]
      rw [ihmember _ hf]
      refine congrArg _ (funext fun r => ?_)
      cases r with
      | none => exact ih _ hrest
      | some used => simp only [ihused used.1 _ hrest]
  · -- a named field
    intro taken spliced outer f fs hnamed key ihf ihfs fs' h
    cases h with
    | error herror hname hrest => exact absurd (Bool.and_eq_true_iff.1 herror).1 hnamed
    | cons hf hrest =>
      rw [scope, scope, hf.name_eq, if_neg hnamed, if_neg hnamed, hf.selector_eq, ihf _ hf]
      simp only [key, ihfs _ hrest]
  · intro taken outer fs' h
    cases h
    rw [branch, branch]
  · -- a union member inside a union member
    intro taken outer f fs hunion ih fs' h
    cases h with
    | error herror hname hrest =>
      rw [branch_of_error enums' _ _ _ ((isErrorMember_congr hname).trans herror),
        branch_of_error enums _ _ _ herror]
      exact ih _ hrest
    | cons hf hrest =>
      rw [branch, branch, hf.name_eq, if_pos hunion, if_pos hunion]
      exact ih _ hrest
  · -- a named field inside a union member
    intro taken outer f fs hnamed key ihf ihfs fs' h
    cases h with
    | error herror hname hrest => exact absurd (Bool.and_eq_true_iff.1 herror).1 hnamed
    | cons hf hrest =>
      rw [branch, branch, hf.name_eq, if_neg hnamed, if_neg hnamed, hf.selector_eq, ihf _ hf]
      simp only [key, ihfs _ hrest]

/-! ## Plans -/

/-- Shapes have the same plan if their payloads are alike and reached in the same way. -/
theorem build_alike {s : Shape} {fields' : List ShapeField}
    (hpayload : Alike enums enums' (Plan.payload s).1 (Plan.payload { s with fields := fields' }).1)
    (hargument : (Plan.payload { s with fields := fields' }).2 = (Plan.payload s).2)
    (reserved : List String) :
    Plan.build { s with fields := fields' } enums' reserved = Plan.build s enums reserved := by
  have hcontent := planned_alike.1 reserved ⟨s.importPath, s.importAlias⟩ _ _ hpayload
  simp only [Plan.build, hargument, hcontent]

/-- Whether the first of alike fields is the envelope shows in either of them. -/
theorem envelope?_alike {s : Shape} {f f' : ShapeField} {fs fs' : List ShapeField}
    (hfields : s.fields = f :: fs) (hf : Alike enums enums' f f') :
    Plan.envelope? s = none ∧ Plan.envelope? { s with fields := f' :: fs' } = none ∨
      Plan.envelope? s = some f ∧ Plan.envelope? { s with fields := f' :: fs' } = some f' := by
  obtain ⟨-, htype, hcomposite, -, -, -, hchildren⟩ := hf
  simp only [Plan.envelope?, hfields, List.head?_cons, Option.filter_some, htype, hcomposite,
    hchildren.isEmpty_eq]
  split
  · exact .inr ⟨rfl, rfl⟩
  · exact .inl ⟨rfl, rfl⟩

/-- An error member that comes first is no envelope, if no error member is. -/
theorem envelope?_eq_none {s : Shape} {f : ShapeField} {fs : List ShapeField}
    (hfields : s.fields = f :: fs) (herror : isErrorMember f = true)
    (henvelope : ∀ f ∈ Plan.envelope? s, isErrorMember f = false) : Plan.envelope? s = none := by
  rw [Option.eq_none_iff_forall_ne_some]
  intro g hg
  have hhead := (Option.filter_eq_some_iff.1 hg).1
  rw [hfields, List.head?_cons] at hhead
  obtain rfl := Option.some.inj hhead
  have hnot := henvelope f hg
  rw [herror] at hnot
  exact absurd hnot (by decide)

/-- Alike fields have alike payloads, unless one of the payloads is an error member. -/
theorem payload_alike {s : Shape} {fields' : List ShapeField}
    (hfields : AllAlike enums enums' s.fields fields')
    (henvelope : ∀ f ∈ Plan.envelope? s, isErrorMember f = false)
    (henvelope' : ∀ f ∈ Plan.envelope? { s with fields := fields' }, isErrorMember f = false) :
    Alike enums enums' (Plan.payload s).1 (Plan.payload { s with fields := fields' }).1 ∧
      (Plan.payload { s with fields := fields' }).2 = (Plan.payload s).2 := by
  -- without an envelope, all fields are below the payload
  have hnone : Plan.envelope? s = none → Plan.envelope? { s with fields := fields' } = none →
      Alike enums enums' (Plan.payload s).1 (Plan.payload { s with fields := fields' }).1 ∧
        (Plan.payload { s with fields := fields' }).2 = (Plan.payload s).2 := by
    intro h h'
    rw [Plan.payload, Plan.payload, h, h']
    exact ⟨.mk rfl rfl rfl rfl rfl (fun hleaf => absurd hleaf Bool.false_ne_true.symm) hfields, rfl⟩
  generalize heq : s.fields = fields at hfields
  cases hfields with
  | nil => exact hnone (by rw [Plan.envelope?, heq]; rfl) rfl
  | cons hf hrest =>
    rcases envelope?_alike heq hf with ⟨h, h'⟩ | ⟨h, h'⟩
    · exact hnone h h'
    · rw [Plan.payload, Plan.payload, h, h']
      refine ⟨hf, ?_⟩
      dsimp only
      rw [hf.selector_eq, hf.type_eq]
  | error herror hname hrest =>
    have herror' := (isErrorMember_congr hname).trans herror
    exact hnone (envelope?_eq_none heq herror henvelope)
      (envelope?_eq_none rfl herror' henvelope')

end Steps

end ProviderGlue.Schema
