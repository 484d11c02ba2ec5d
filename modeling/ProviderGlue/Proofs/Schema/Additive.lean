import ProviderGlue.Proofs.Schema.Coherence

/-!
# What planning adds to a draft

`Steady` follows a property of drafts through a plan.  Some questions are about two drafts, the one
before some fields are planned and the one after: which code did these fields add, and which of their
nodes call it?  A relation that answers such a question is `Additive` if it holds of single fields
and of one run of fields after another.  It then holds of every scope.

## Key results

- `leafKind_run`, `objectKind_run`: the code that a single field adds
- `Additive.planned`: what single fields add, whole scopes add
-/

namespace ProviderGlue.Schema

open Go

/-! ## Single fields -/

/-- A field that holds no struct calls nothing and adds at most an alias, or it calls the function of
a table for the enumeration of its type. -/
theorem leafKind_run (enums : List Enumeration) (outer : Package) (f : ShapeField) (d : Draft) :
    ((leafKind enums outer f d).1.functionCall? = none ∧
        (leafKind enums outer f d).1.tableCall? = none ∧
        ∃ aliases, (leafKind enums outer f d).2 = { d with aliases }) ∨
      ∃ aliases e type, e.name = baseName f.type ∧
        (leafKind enums outer f d).1.tableCall? =
          some (Draft.enumFlattenFor e type { d with aliases }).1 ∧
        (leafKind enums outer f d).2 = (Draft.enumFlattenFor e type { d with aliases }).2 := by
  have hplain : ∀ type, (plainKind type).functionCall? = none ∧ (plainKind type).tableCall? = none :=
    fun type => by fun_cases plainKind type <;> exact ⟨rfl, rfl⟩
  unfold leafKind
  cases henum : enumNamed? enums (baseName f.type) with
  | none => exact .inl ⟨(hplain _).1, (hplain _).2, d.aliases, rfl⟩
  | some e =>
    dsimp only
    split
    · exact .inl ⟨(hplain _).1, (hplain _).2, d.aliases, rfl⟩
    · simp only [enumKind]
      split
      · exact .inl ⟨rfl, rfl, d.aliases, rfl⟩
      · obtain ⟨aliases, hrun, -⟩ := Draft.qualified?_run outer f d
        simp only [run_bind]
        rw [hrun]
        cases (Draft.qualified? outer f d).1 with
        | none => exact .inl ⟨rfl, rfl, aliases, rfl⟩
        | some type =>
          refine .inr ⟨aliases, e, type, (enumNamed?_eq_some henum).2, ?_⟩
          simp only [run_bind]
          cases TypeText.sliceElement? f.type.toList <;> exact ⟨rfl, rfl⟩

/-- A struct without nodes below it, or of a package that is not known, calls nothing and adds at
most an alias.  Any other calls the function that reads the nodes below it. -/
theorem objectKind_run (outer : Package) (f : ShapeField) (nodes : List Node)
    (union : Option UnionBranch) (d : Draft) :
    ((nodes = [] ∨ Draft.isPlaced f = false) ∧
        (objectKind outer f nodes union d).1 = (.unfilled, []) ∧
        ∃ aliases, (objectKind outer f nodes union d).2 = { d with aliases }) ∨
      ∃ aliases type access, unqualified type = baseName f.type ∧
        (objectKind outer f nodes union d).1 =
          (.object (Draft.flattenFor type union nodes { d with aliases }).1 access, nodes) ∧
        (objectKind outer f nodes union d).2 =
          (Draft.flattenFor type union nodes { d with aliases }).2 := by
  unfold objectKind
  split
  · next hempty => exact .inl ⟨.inl (List.isEmpty_iff.1 hempty), rfl, d.aliases, rfl⟩
  · obtain ⟨aliases, hrun, -, hplaced, htype⟩ := Draft.qualified?_run outer f d
    simp only [run_bind]
    rw [hrun]
    cases hqualified : (Draft.qualified? outer f d).1 with
    | none =>
      rw [hqualified] at hplaced
      exact .inl ⟨.inr hplaced.symm, rfl, aliases, rfl⟩
    | some type => exact .inr ⟨aliases, type, _, htype hqualified, rfl, rfl⟩

/-! ## Scopes -/

/-- A relation of fields, the draft before they are planned, their nodes, and the draft after, that
holds of single fields and of one run of fields after another. -/
structure Additive (enums : List Enumeration)
    (Adds : List Origin → Draft → List Node → Draft → Prop) : Prop where
  nil : ∀ {d}, Adds [] d [] d
  append : ∀ {os os' d d₁ d₂ ns ns'}, Adds os d ns d₁ → Adds os' d₁ ns' d₂ →
    Adds (os ++ os') d (ns ++ ns') d₂
  union : ∀ {d} outer f, Adds [] d [] (Draft.unionType? outer f d).2
  unfilled : ∀ {d o n}, n.kind = .unfilled → n.children = [] → Adds [o] d [n] d
  leaf : ∀ {d o n}, o.field.isComposite = false →
    (n.kind, n.children) = ((leafKind enums o.outer o.field d).1, []) →
    Adds [o] d [n] (leafKind enums o.outer o.field d).2
  object : ∀ {d o n nodes union d'} reserved, o.field.isComposite = true →
    TypeText.isMap o.field.type.toList = false →
    scope enums reserved false (o.outer.below o.field) o.field.children d = ((nodes, union), d') →
    Adds (origins false (o.outer.below o.field) o.field.children) d nodes d' →
    (n.kind, n.children) = (objectKind o.outer o.field nodes union d').1 →
    Adds [o] d [n] (objectKind o.outer o.field nodes union d').2

/-- The origins of the nodes that a union member gives in place of the union. -/
def memberOrigins (outer : Package) (f : ShapeField) : List Origin :=
  if isSpliced f then branchOrigins (outer.below f) f.children else []

/-- Every plan keeps a property that says nothing. -/
theorem steady_trivial (enums : List Enumeration) :
    Steady enums (fun _ _ => True) (fun _ => True) (fun _ _ _ _ => True) fun _ _ _ _ _ => True :=
  .of_steps (fun _ _ => trivial) (fun _ _ => trivial) (fun _ _ _ _ => trivial)
    (fun _ _ _ _ => trivial) fun _ _ _ => trivial

/-- Whether a union member gives nodes depends on the member alone. -/
theorem member_isSome (enums : List Enumeration) (taken : List String) (outer : Package)
    (f : ShapeField) (d : Draft) : (member enums taken outer f d).1.isSome = isSpliced f := by
  have hmember := ((steady_trivial enums).planned.2.2.1 taken outer f trivial d trivial).post
  simp only [Steady.MemberPost] at hmember
  split at hmember
  · next hnone => rw [hnone, hmember, Option.isSome_none]
  · next hsome => rw [hsome, hmember.1, Option.isSome_some]

theorem member_eq_none {enums : List Enumeration} {taken : List String} {outer : Package}
    {f : ShapeField} {d : Draft} (h : isSpliced f = false) :
    (member enums taken outer f d).1 = none := by
  have hmember := member_isSome enums taken outer f d
  rwa [h, Option.isSome_eq_false_iff, Option.isNone_iff_eq_none] at hmember

/-- A union member that could be used but for its fields has no fields that give a node. -/
theorem branchOrigins_eq_nil {f : ShapeField} {outer : Package} (hresult : isResultBranch f = true)
    (hplaced : Draft.isPlaced f = true) (h : isSpliced f = false) :
    branchOrigins outer f.children = [] := by
  rw [isSpliced, hresult, hplaced, Bool.true_and, Bool.true_and, List.any_eq_false] at h
  rw [branchOrigins, List.filter_eq_nil_iff.2 h, List.map_nil]

namespace Additive

variable {enums : List Enumeration} {Adds : List Origin → Draft → List Node → Draft → Prop}
  {taken : List String} {outer : Package} {f : ShapeField}

/-- What a field adds, given what the scope below it adds. -/
theorem content_of_scope (h : Additive enums Adds) {reserved : List String} {d : Draft}
    (hscope : f.isComposite = true →
      Adds (origins false (outer.below f) f.children) d
        (scope enums reserved false (outer.below f) f.children d).1.1
        (scope enums reserved false (outer.below f) f.children d).2)
    {source : Source} {n : Node}
    (hn : (n.kind, n.children) = (content enums reserved outer f d).1) :
    Adds [⟨f, outer, source⟩] d [n] (content enums reserved outer f d).2 := by
  rw [content_eq] at hn ⊢
  split at hn
  · next hcomposite =>
    rw [if_pos hcomposite]
    split at hn
    · next hbare =>
      rw [if_pos hbare]
      exact h.unfilled (Prod.mk.inj hn).1 (Prod.mk.inj hn).2
    · next hbare =>
      rw [if_neg hbare]
      have hmap : TypeText.isMap f.type.toList = false := by
        rw [not_or, Bool.not_eq_true, Bool.not_eq_true] at hbare
        exact hbare.2
      exact h.object (o := ⟨f, outer, source⟩) reserved hcomposite hmap rfl (hscope hcomposite) hn
  · next hleaf =>
    rw [if_neg hleaf]
    exact h.leaf (o := ⟨f, outer, source⟩) (Bool.not_eq_true _ ▸ hleaf) hn

/-- What a union member adds, given what its fields add. -/
theorem member_of_branch (h : Additive enums Adds) {d : Draft}
    (hbranch : isResultBranch f = true → ∀ d,
      Adds (branchOrigins (outer.below f) f.children) d
        (branch enums taken (outer.below f) f.children d).1
        (branch enums taken (outer.below f) f.children d).2) :
    Adds (memberOrigins outer f) d ((member enums taken outer f d).1.elim [] (·.1))
      (member enums taken outer f d).2 := by
  have hunion := h.union (d := d) outer f
  obtain ⟨-, hplaced⟩ := Draft.unionType?_run outer f d
  have hunused : isSpliced f = false → memberOrigins outer f = [] := fun hspliced => by
    rw [memberOrigins, hspliced, if_neg Bool.false_ne_true]
  rw [member_eq]
  split
  · next hresult =>
    rw [Bool.not_eq_true'] at hresult
    rw [hunused (by rw [isSpliced, hresult, Bool.false_and, Bool.false_and])]
    exact h.nil
  · next hresult =>
    rw [Bool.not_eq_true', Bool.not_eq_false] at hresult
    simp only [run_bind]
    generalize Draft.unionType? outer f d = q at hunion hplaced
    obtain ⟨_ | type, d₁⟩ := q
    · have hspliced : isSpliced f = false := by
        rw [isSpliced, ← hplaced, Option.isSome_none, Bool.and_false, Bool.false_and]
      rw [hunused hspliced]
      exact hunion
    · have hadds := h.append hunion (hbranch hresult d₁)
      have htraces := ((steady_trivial enums).planned.2.2.2 taken (outer.below f) f.children
        (fun _ _ => trivial) d₁ trivial).post
      have hspliced := Steady.isSpliced_of_traces hresult hplaced.symm htraces
      simp only [run_bind]
      generalize branch enums taken (outer.below f) f.children d₁ = r at hadds hspliced
      obtain ⟨nodes, d₂⟩ := r
      cases nodes with
      | nil =>
        -- no field gave a node, so there was none that could
        rw [branchOrigins_eq_nil hresult hplaced.symm hspliced] at hadds
        rw [hunused hspliced]
        exact hadds
      | cons n ns =>
        rw [memberOrigins, hspliced]
        exact hadds

/-- What single fields add, all of a plan adds. -/
theorem planned (h : Additive enums Adds) :
    (∀ reserved outer f source n d, (n.kind, n.children) = (content enums reserved outer f d).1 →
      Adds [⟨f, outer, source⟩] d [n] (content enums reserved outer f d).2) ∧
    (∀ taken spliced outer fs d,
      Adds (origins spliced outer fs) d (scope enums taken spliced outer fs d).1.1
        (scope enums taken spliced outer fs d).2) ∧
    (∀ taken outer f d,
      Adds (memberOrigins outer f) d ((member enums taken outer f d).1.elim [] (·.1))
        (member enums taken outer f d).2) ∧
    (∀ taken outer fs d,
      Adds (branchOrigins outer fs) d (branch enums taken outer fs d).1
        (branch enums taken outer fs d).2) := by
  refine content.mutual_induct enums
    (fun reserved outer f => ∀ source n d,
      (n.kind, n.children) = (content enums reserved outer f d).1 →
      Adds [⟨f, outer, source⟩] d [n] (content enums reserved outer f d).2)
    (fun taken spliced outer fs => ∀ d,
      Adds (origins spliced outer fs) d (scope enums taken spliced outer fs d).1.1
        (scope enums taken spliced outer fs d).2)
    (fun taken outer f => ∀ d,
      Adds (memberOrigins outer f) d ((member enums taken outer f d).1.elim [] (·.1))
        (member enums taken outer f d).2)
    (fun taken outer fs => ∀ d,
      Adds (branchOrigins outer fs) d (branch enums taken outer fs d).1
        (branch enums taken outer fs d).2)
    ?_ ?_ ?_ ?_ ?_ ?_ ?_ ?_ ?_ ?_ ?_ ?_
  · -- a struct that is not expanded
    intro reserved outer name type tag children importAlias importPath hempty source n d hn
    rw [content, if_pos rfl, if_pos hempty] at hn ⊢
    exact h.unfilled (Prod.mk.inj hn).1 (Prod.mk.inj hn).2
  · -- a struct with fields below
    intro reserved outer name type tag children importAlias importPath _ ih source n d hn
    exact h.content_of_scope (fun _ => ih d) hn
  · -- a field whose type is no struct
    intro reserved outer name type tag isComposite children importAlias importPath hleaf source n d hn
    exact h.content_of_scope (fun hcomposite => absurd hcomposite hleaf) hn
  · -- a union member that stands for no result
    intro taken outer name type tag isComposite children importAlias importPath hresult d
    refine h.member_of_branch fun hresult' => ?_
    rw [hresult'] at hresult
    contradiction
  · -- a union member that stands for a result
    intro taken outer name type tag isComposite children importAlias importPath _ ih d
    exact h.member_of_branch fun _ => ih
  · intro taken spliced outer d
    rw [scope, origins]
    exact h.nil
  · -- a union member behind the one that is used
    intro taken outer f fs hunion ih _ d
    rw [scope, if_pos hunion, origins, if_pos hunion]
    simp only [Bool.not_true, Bool.false_and, Bool.false_eq_true, if_false, if_true, pure_bind]
    exact ih d
  · -- a union member that may be used
    intro taken spliced outer f fs hunion hspliced ih ihused ihmember d
    obtain rfl : spliced = false := by simpa using hspliced
    have hmember := ihmember d
    have hused := member_isSome enums taken outer f d
    rw [memberOrigins] at hmember
    rw [scope, if_pos hunion, origins, if_pos hunion]
    simp only [Bool.false_eq_true, if_false, Bool.not_false, Bool.true_and, run_bind]
    generalize member enums taken outer f d = r at hmember hused
    obtain ⟨_ | ⟨nodes, union⟩, d₁⟩ := r
    · rw [← hused] at hmember ⊢
      exact h.append hmember (ih d₁)
    · rw [← hused] at hmember ⊢
      exact h.append hmember (ihused nodes d₁)
  · -- a named field
    intro taken spliced outer f fs hnamed key ihf ihfs d
    have hcontent := fun n => ihf .receiver n d
    rw [scope, if_neg hnamed, origins, if_neg hnamed]
    simp only [run_bind]
    generalize content enums [] outer f d = r at hcontent
    obtain ⟨⟨kind, below⟩, d₁⟩ := r
    exact h.append (hcontent ⟨key, selector f, .receiver, kind, below⟩ rfl) (ihfs d₁)
  · intro taken outer d
    rw [branch]
    exact h.nil
  · -- a union member inside a union member
    intro taken outer f fs hunion ih d
    rw [branch, if_pos hunion, branchOrigins, List.filter_cons_of_neg (by simp [hunion])]
    exact ih d
  · -- a named field inside a union member
    intro taken outer f fs hnamed key ihf ihfs d
    have hcontent := fun n => ihf .union n d
    rw [branch, if_neg hnamed, branchOrigins, List.filter_cons_of_pos (by simpa using hnamed),
      List.map_cons]
    simp only [run_bind]
    generalize content enums [] outer f d = r at hcontent
    obtain ⟨⟨kind, below⟩, d₁⟩ := r
    exact h.append (hcontent ⟨key, selector f, .union, kind, below⟩ rfl) (ihfs d₁)

end Additive

end ProviderGlue.Schema
