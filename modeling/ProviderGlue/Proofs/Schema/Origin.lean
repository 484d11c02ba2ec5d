import ProviderGlue.Proofs.Schema.Draft
import ProviderGlue.Proofs.Shape.Field
import ProviderGlue.Schema.Plan

/-!
# Where nodes come from

The nodes of a scope stand for fields: one for each field that is no member of a union, with the
fields of the first usable member in place of a union.  `origins` lists these fields, and `Traces`
relates them to the nodes, level by level.

Facts about the nodes of a plan are shown by one induction over the fields, `Steady.planned`.  It
asks for a property of drafts and a property of single nodes, and only for what the steps do to them
that take names, functions and tables.

## Key results

- `Traces.exists_of_within`: a node below traced nodes has the property that is traced
- `Steady.planned`: what steps keep is kept by the whole plan
- `Steady.of_steps`: of the steps only those matter that take names, functions and tables
-/

namespace ProviderGlue.Schema

open Go

/-! ## Origins -/

/-- A field that a node stands for, and where it is found. -/
structure Origin where
  /-- The field. -/
  field : ShapeField
  /-- The package of the field. -/
  outer : Package
  /-- Where the field is read from. -/
  source : Source

/-- Whether the fields of a union member can take the place of the union. -/
def isSpliced (f : ShapeField) : Bool :=
  isResultBranch f && Draft.isPlaced f && f.children.any fun c => ! isUnionMember c.name

/-- The origins of the nodes that take the place of a union. -/
def branchOrigins (outer : Package) (fs : List ShapeField) : List Origin :=
  (fs.filter fun f => ! isUnionMember f.name).map fun f => ⟨f, outer, .union⟩

/-- The origins of the nodes of a scope; `spliced` tells whether an earlier union member has been
replaced by its fields. -/
def origins (spliced : Bool) (outer : Package) : List ShapeField → List Origin
  | [] => []
  | f :: fs =>
    if isUnionMember f.name then
      if ! spliced && isSpliced f then
        branchOrigins (outer.below f) f.children ++ origins true outer fs
      else origins spliced outer fs
    else ⟨f, outer, .receiver⟩ :: origins spliced outer fs

/-- Whether a node is one of some nodes or stands below one of them. -/
inductive Node.Within (n : Node) : List Node → Prop
  | here {ns : List Node} : n ∈ ns → Within n ns
  | inside {m : Node} {ns : List Node} : m ∈ ns → Within n m.children → Within n ns

theorem Node.within_nil {n : Node} : ¬ n.Within [] := by
  intro h
  cases h with
  | here hmem => exact absurd hmem List.not_mem_nil
  | inside hmem _ => exact absurd hmem List.not_mem_nil

theorem Node.within_cons {n m : Node} {ns : List Node} (h : n.Within (m :: ns)) :
    n = m ∨ n.Within m.children ∨ n.Within ns := by
  cases h with
  | here hmem => exact (List.mem_cons.1 hmem).imp id fun hmem => .inr (.here hmem)
  | inside hmem hin =>
    rcases List.mem_cons.1 hmem with rfl | hmem
    · exact .inr (.inl hin)
    · exact .inr (.inr (.inside hmem hin))

theorem Node.Within.mono {n : Node} {ns ns' : List Node} (h : n.Within ns) (hns : ns ⊆ ns') :
    n.Within ns' := by
  cases h with
  | here hmem => exact .here (hns hmem)
  | inside hmem hin => exact .inside (hns hmem) hin

/-- What stands directly below a node is among the same nodes. -/
theorem Node.Within.child {n m : Node} {ns : List Node} (h : n.Within ns) (hm : m ∈ n.children) :
    m.Within ns := by
  induction h with
  | here hmem => exact .inside hmem (.here hm)
  | inside hmem _ ih => exact .inside hmem ih

/-- Nodes stand one by one for their origins: they select the same field, `Fits` relates what the
field holds to the node, and the nodes below, if there are any, stand for the origins below. -/
inductive Traces (Fits : Package → ShapeField → NodeKind → List Node → Prop) :
    List Origin → List Node → Prop
  | nil : Traces Fits [] []
  | bare {o : Origin} {n : Node} {os : List Origin} {ns : List Node} :
      n.field = selector o.field → n.source = o.source →
      Fits o.outer o.field n.kind n.children → n.children = [] →
      Traces Fits os ns → Traces Fits (o :: os) (n :: ns)
  | full {o : Origin} {n : Node} {os : List Origin} {ns : List Node} :
      n.field = selector o.field → n.source = o.source →
      Fits o.outer o.field n.kind n.children →
      Traces Fits (origins false (o.outer.below o.field) o.field.children) n.children →
      Traces Fits os ns → Traces Fits (o :: os) (n :: ns)

namespace Traces

variable {Fits Fits' : Package → ShapeField → NodeKind → List Node → Prop}

theorem append {os os' : List Origin} {ns ns' : List Node} (h : Traces Fits os ns)
    (h' : Traces Fits os' ns') : Traces Fits (os ++ os') (ns ++ ns') := by
  induction h with
  | nil => exact h'
  | bare hfield hsource hfits hempty _ ih => exact .bare hfield hsource hfits hempty ih
  | full hfield hsource hfits hbelow _ _ ih => exact .full hfield hsource hfits hbelow ih

theorem length_eq {os : List Origin} {ns : List Node} (h : Traces Fits os ns) :
    os.length = ns.length := by
  induction h with
  | nil => rfl
  | bare _ _ _ _ _ ih => rw [List.length_cons, List.length_cons, ih]
  | full _ _ _ _ _ _ ih => rw [List.length_cons, List.length_cons, ih]

theorem mono (himp : ∀ {outer f kind ns}, Fits outer f kind ns → Fits' outer f kind ns)
    {os : List Origin} {ns : List Node} (h : Traces Fits os ns) : Traces Fits' os ns := by
  induction h with
  | nil => exact .nil
  | bare hfield hsource hfits hempty _ ih => exact .bare hfield hsource (himp hfits) hempty ih
  | full hfield hsource hfits _ _ hbelow ih => exact .full hfield hsource (himp hfits) hbelow ih

/-- Every node below traced nodes fits an origin. -/
theorem exists_of_within {os : List Origin} {ns : List Node} (h : Traces Fits os ns) {n : Node}
    (hn : n.Within ns) : ∃ outer f, Fits outer f n.kind n.children := by
  induction h with
  | nil => exact absurd hn Node.within_nil
  | bare _ _ hfits hempty _ ih =>
    rcases Node.within_cons hn with rfl | hin | hin
    · exact ⟨_, _, hfits⟩
    · exact absurd (hempty ▸ hin) Node.within_nil
    · exact ih hin
  | full _ _ hfits _ _ ihbelow ih =>
    rcases Node.within_cons hn with rfl | hin | hin
    · exact ⟨_, _, hfits⟩
    · exact ihbelow hin
    · exact ih hin

end Traces

/-! ## Steps that keep a property -/

/-- A step leaves a good and later draft, and its result has a property. -/
structure Keeps {α : Type} (Good : Draft → Prop) (d : Draft) (x : StateM Draft α)
    (Post : α → Draft → Prop) : Prop where
  good : Good (x d).2
  grows : d.Grows (x d).2
  post : Post (x d).1 (x d).2

namespace Keeps

variable {α β : Type} {Good : Draft → Prop} {d : Draft}

theorem pure {a : α} {Post : α → Draft → Prop} (hd : Good d) (h : Post a d) :
    Keeps Good d (Pure.pure a) Post :=
  ⟨hd, .refl d, h⟩

theorem bind {x : StateM Draft α} {f : α → StateM Draft β} {Post : α → Draft → Prop}
    {Post' : β → Draft → Prop} (h : Keeps Good d x Post)
    (hf : ∀ a d', Good d' → d.Grows d' → Post a d' → Keeps Good d' (f a) Post') :
    Keeps Good d (x >>= f) Post' := by
  have hnext := hf _ _ h.good h.grows h.post
  exact ⟨hnext.good, h.grows.trans hnext.grows, hnext.post⟩

end Keeps

/-- Some member among fields takes the place of their union. -/
abbrev SelectedFrom (Selects : Package → ShapeField → UnionBranch → Prop) (outer : Package)
    (fs : List ShapeField) (union : Option UnionBranch) : Prop :=
  ∀ u ∈ union, ∃ c ∈ fs, isUnionMember c.name = true ∧ Selects outer c u

theorem SelectedFrom.cons {Selects : Package → ShapeField → UnionBranch → Prop} {outer : Package}
    {f : ShapeField} {fs : List ShapeField} {union : Option UnionBranch}
    (h : SelectedFrom Selects outer fs union) : SelectedFrom Selects outer (f :: fs) union :=
  fun u hu => by
    obtain ⟨c, hc, hselects⟩ := h u hu
    exact ⟨c, List.mem_cons_of_mem _ hc, hselects⟩

/-- `Good` drafts, what `Selects` says of a member that takes the place of a union, and what `Fits`
says of a field's content, under the steps of a plan for fields with the property `Below`. -/
structure Steady (enums : List Enumeration) (Below : Package → ShapeField → Prop)
    (Good : Draft → Prop) (Selects : Draft → Package → ShapeField → UnionBranch → Prop)
    (Fits : Draft → Package → ShapeField → NodeKind → List Node → Prop) : Prop where
  children : ∀ {outer f c}, Below outer f → c ∈ f.children → Below (outer.below f) c
  grows : ∀ {d d' outer f kind ns}, d.Grows d' → Fits d outer f kind ns → Fits d' outer f kind ns
  selects : ∀ {d d' outer f u}, d.Grows d' → Selects d outer f u → Selects d' outer f u
  unfilled : ∀ {d outer f}, Below outer f → Fits d outer f .unfilled []
  union : ∀ {d outer f}, Good d → Below outer f →
    Keeps Good d (Draft.unionType? outer f) fun r d' =>
      ∀ type ∈ r, Selects d' outer f ⟨type, "[]".toList.isPrefixOf type.toList⟩
  leaf : ∀ {d outer f}, Good d → Below outer f → f.isComposite = false →
    Keeps Good d (leafKind enums outer f) fun kind d' => Fits d' outer f kind []
  object : ∀ {d outer f nodes union}, Good d → Below outer f → f.isComposite = true →
    SelectedFrom (Selects d) (outer.below f) f.children union →
    Traces (Fits d) (origins false (outer.below f) f.children) nodes →
    Keeps Good d (objectKind outer f nodes union) fun r d' => Fits d' outer f r.1 r.2

/-! ## Equations of the steps -/

/-- What a name finds is an enumeration of that name. -/
theorem enumNamed?_eq_some {enums : List Enumeration} {name : String} {e : Enumeration}
    (h : enumNamed? enums name = some e) : e ∈ enums ∧ e.name = name := by
  have hmem := List.mem_of_getLast? h
  rw [List.mem_filter, decide_eq_true_eq] at hmem
  exact hmem

theorem content_eq (enums : List Enumeration) (reserved : List String) (outer : Package)
    (f : ShapeField) :
    content enums reserved outer f =
      if f.isComposite then
        if f.children.isEmpty ∨ TypeText.isMap f.type.toList then pure (.unfilled, [])
        else do
          let r ← scope enums reserved false (outer.below f) f.children
          objectKind outer f r.1 r.2
      else do return (← leafKind enums outer f, []) := by
  cases f
  rw [content]

theorem member_eq (enums : List Enumeration) (taken : List String) (outer : Package)
    (f : ShapeField) :
    member enums taken outer f =
      if ! isResultBranch f then pure none
      else do
        match ← Draft.unionType? outer f with
        | none => return none
        | some type =>
          let nodes ← branch enums taken (outer.below f) f.children
          if nodes.isEmpty then return none
          return some (nodes, ⟨type, "[]".toList.isPrefixOf type.toList⟩) := by
  cases f
  unfold member
  rfl

/-- A struct has the nodes below it, or none. -/
theorem objectKind_snd (outer : Package) (f : ShapeField) (nodes : List Node)
    (union : Option UnionBranch) (d : Draft) :
    (objectKind outer f nodes union d).1.2 = [] ∨
      (objectKind outer f nodes union d).1.2 = nodes := by
  unfold objectKind
  split
  · exact .inl rfl
  · rw [run_bind]
    cases (Draft.qualified? outer f d).1 with
    | none => exact .inl rfl
    | some type => exact .inr (by simp only [run_bind, run_pure])

namespace Steady

variable {enums : List Enumeration} {Below : Package → ShapeField → Prop} {Good : Draft → Prop}
  {Selects : Draft → Package → ShapeField → UnionBranch → Prop}
  {Fits : Draft → Package → ShapeField → NodeKind → List Node → Prop}

/-- What a field holds fits it, and the nodes below stand for the fields of its type. -/
abbrev ContentPost (Fits : Draft → Package → ShapeField → NodeKind → List Node → Prop)
    (outer : Package) (f : ShapeField) (r : NodeKind × List Node) (d : Draft) : Prop :=
  Fits d outer f r.1 r.2 ∧
    (r.2 = [] ∨ Traces (Fits d) (origins false (outer.below f) f.children) r.2)

/-- The nodes of a scope stand for its fields, and some member takes the place of its union. -/
abbrev ScopePost (Selects : Draft → Package → ShapeField → UnionBranch → Prop)
    (Fits : Draft → Package → ShapeField → NodeKind → List Node → Prop) (spliced : Bool)
    (outer : Package) (fs : List ShapeField) (r : List Node × Option UnionBranch) (d : Draft) :
    Prop :=
  Traces (Fits d) (origins spliced outer fs) r.1 ∧ SelectedFrom (Selects d) outer fs r.2

/-- A union member gives nodes that take the place of the union exactly if it can. -/
abbrev MemberPost (Selects : Draft → Package → ShapeField → UnionBranch → Prop)
    (Fits : Draft → Package → ShapeField → NodeKind → List Node → Prop)
    (outer : Package) (f : ShapeField) (r : Option (List Node × UnionBranch)) (d : Draft) : Prop :=
  match r with
  | none => isSpliced f = false
  | some (nodes, union) =>
    isSpliced f = true ∧ Traces (Fits d) (branchOrigins (outer.below f) f.children) nodes ∧
      Selects d outer f union

/-- What a field holds, given what the scope below it gives. -/
theorem content_of_scope (h : Steady enums Below Good Selects Fits) {reserved : List String}
    {outer : Package} {f : ShapeField} (hbelow : Below outer f) {d : Draft} (hd : Good d)
    (hscope : f.isComposite = true →
      Keeps Good d (scope enums reserved false (outer.below f) f.children)
        (ScopePost Selects Fits false (outer.below f) f.children)) :
    Keeps Good d (content enums reserved outer f) (ContentPost Fits outer f) := by
  rw [content_eq]
  split
  · next hcomposite =>
    split
    · exact .pure hd ⟨h.unfilled hbelow, .inl rfl⟩
    · refine (hscope hcomposite).bind fun r d₁ hd₁ _ ⟨htraces, hselected⟩ => ?_
      have hobject := h.object hd₁ hbelow hcomposite hselected htraces
      refine ⟨hobject.good, hobject.grows, hobject.post, ?_⟩
      rcases objectKind_snd outer f r.1 r.2 d₁ with hsnd | hsnd
      · exact .inl hsnd
      · rw [hsnd]
        exact .inr (htraces.mono (h.grows hobject.grows))
  · next hleaf =>
    refine (h.leaf hd hbelow (by simpa using hleaf)).bind fun kind d₁ hd₁ _ hfits => ?_
    exact .pure hd₁ ⟨hfits, .inl rfl⟩

/-- A union member whose fields give no nodes has none that could give one. -/
theorem isSpliced_of_traces {f : ShapeField} {outer : Package} {nodes : List Node}
    {R : Package → ShapeField → NodeKind → List Node → Prop}
    (hresult : isResultBranch f = true) (hplaced : Draft.isPlaced f = true)
    (htraces : Traces R (branchOrigins outer f.children) nodes) :
    isSpliced f = ! nodes.isEmpty := by
  have hlength := htraces.length_eq
  rw [branchOrigins, List.length_map] at hlength
  rw [isSpliced, hresult, hplaced, Bool.true_and, Bool.true_and, Bool.eq_iff_iff, List.any_eq_true]
  constructor
  · rintro ⟨c, hc⟩
    have hmem : c ∈ f.children.filter fun c => ! isUnionMember c.name := List.mem_filter.2 hc
    have hpos := List.length_pos_of_mem hmem
    rw [hlength] at hpos
    simpa using List.length_pos_iff.1 hpos
  · intro hne
    have hpos : 0 < nodes.length := List.length_pos_iff.2 (by simpa using hne)
    rw [← hlength] at hpos
    obtain ⟨c, hc⟩ := List.exists_mem_of_length_pos hpos
    exact ⟨c, List.mem_filter.1 hc⟩

/-- What a union member gives, given what its fields give. -/
theorem member_of_branch (h : Steady enums Below Good Selects Fits) {taken : List String}
    {outer : Package} {f : ShapeField} (hbelow : Below outer f) {d : Draft} (hd : Good d)
    (hbranch : isResultBranch f = true → ∀ d, Good d →
      Keeps Good d (branch enums taken (outer.below f) f.children) fun ns d' =>
        Traces (Fits d') (branchOrigins (outer.below f) f.children) ns) :
    Keeps Good d (member enums taken outer f) (MemberPost Selects Fits outer f) := by
  have hunion := h.union hd hbelow
  have htype : Keeps Good d (Draft.unionType? outer f) fun r d' => r.isSome = Draft.isPlaced f ∧
      ∀ type ∈ r, Selects d' outer f ⟨type, "[]".toList.isPrefixOf type.toList⟩ :=
    ⟨hunion.good, hunion.grows, (Draft.unionType?_run outer f d).2, hunion.post⟩
  rw [member_eq]
  split
  · next hresult =>
    have hspliced : isSpliced f = false := by
      rw [Bool.not_eq_true'] at hresult
      rw [isSpliced, hresult, Bool.false_and, Bool.false_and]
    exact .pure hd hspliced
  · next hresult =>
    rw [Bool.not_eq_true', Bool.not_eq_false] at hresult
    refine htype.bind ?_
    rintro (_ | unionType) d₁ hd₁ - ⟨hplaced, hselects⟩
    · have hspliced : isSpliced f = false := by
        rw [isSpliced, ← hplaced, Option.isSome_none, Bool.and_false, Bool.false_and]
      exact .pure hd₁ hspliced
    · refine (hbranch hresult d₁ hd₁).bind fun nodes d₂ hd₂ hgrows htraces => ?_
      have hspliced := isSpliced_of_traces hresult hplaced.symm htraces
      split
      · next hempty =>
        rw [hempty] at hspliced
        exact .pure hd₂ hspliced
      · next hempty =>
        rw [Bool.not_eq_true] at hempty
        rw [hempty] at hspliced
        exact .pure hd₂ ⟨hspliced, htraces, h.selects hgrows (hselects unionType rfl)⟩

/-- A node stands for the field that it is made from, and is put before those of further fields. -/
theorem traces_cons (h : Steady enums Below Good Selects Fits) {outer : Package} {f : ShapeField}
    {source : Source} {key : String} {kind : NodeKind} {below rest : List Node} {os : List Origin}
    {d d' : Draft} (hgrows : d.Grows d') (hcontent : ContentPost Fits outer f (kind, below) d)
    (hrest : Traces (Fits d') os rest) :
    Traces (Fits d') (⟨f, outer, source⟩ :: os)
      (⟨key, selector f, source, kind, below⟩ :: rest) := by
  obtain ⟨hfits, hempty | hbelow⟩ := hcontent
  · exact .bare rfl rfl (h.grows hgrows hfits) hempty hrest
  · exact .full rfl rfl (h.grows hgrows hfits) (hbelow.mono (h.grows hgrows)) hrest

/-- A plan keeps what its steps keep, and its nodes stand for the fields of the shape. -/
theorem planned (h : Steady enums Below Good Selects Fits) :
    (∀ reserved outer f, Below outer f → ∀ d, Good d →
      Keeps Good d (content enums reserved outer f) (ContentPost Fits outer f)) ∧
    (∀ taken spliced outer fs, (∀ f ∈ fs, Below outer f) → ∀ d, Good d →
      Keeps Good d (scope enums taken spliced outer fs) (ScopePost Selects Fits spliced outer fs)) ∧
    (∀ taken outer f, Below outer f → ∀ d, Good d →
      Keeps Good d (member enums taken outer f) (MemberPost Selects Fits outer f)) ∧
    (∀ taken outer fs, (∀ f ∈ fs, Below outer f) → ∀ d, Good d →
      Keeps Good d (branch enums taken outer fs) fun ns d' =>
        Traces (Fits d') (branchOrigins outer fs) ns) := by
  refine content.mutual_induct enums
    (fun reserved outer f => Below outer f → ∀ d, Good d →
      Keeps Good d (content enums reserved outer f) (ContentPost Fits outer f))
    (fun taken spliced outer fs => (∀ f ∈ fs, Below outer f) → ∀ d, Good d →
      Keeps Good d (scope enums taken spliced outer fs) (ScopePost Selects Fits spliced outer fs))
    (fun taken outer f => Below outer f → ∀ d, Good d →
      Keeps Good d (member enums taken outer f) (MemberPost Selects Fits outer f))
    (fun taken outer fs => (∀ f ∈ fs, Below outer f) → ∀ d, Good d →
      Keeps Good d (branch enums taken outer fs) fun ns d' =>
        Traces (Fits d') (branchOrigins outer fs) ns)
    ?_ ?_ ?_ ?_ ?_ ?_ ?_ ?_ ?_ ?_ ?_ ?_
  · -- a struct that is not expanded
    intro reserved outer name type tag children importAlias importPath hempty hbelow d hd
    rw [content, if_pos rfl, if_pos hempty]
    exact .pure hd ⟨h.unfilled hbelow, .inl rfl⟩
  · -- a struct with fields below
    intro reserved outer name type tag children importAlias importPath _ ih hbelow d hd
    exact h.content_of_scope hbelow hd fun _ => ih (fun c hc => h.children hbelow hc) d hd
  · -- a field whose type is no struct
    intro reserved outer name type tag isComposite children importAlias importPath hleaf hbelow d hd
    exact h.content_of_scope hbelow hd fun hcomposite => absurd hcomposite hleaf
  · -- a union member that stands for no result
    intro taken outer name type tag isComposite children importAlias importPath hresult hbelow d hd
    refine h.member_of_branch hbelow hd fun hresult' => ?_
    rw [hresult'] at hresult
    exact nomatch hresult
  · -- a union member that stands for a result
    intro taken outer name type tag isComposite children importAlias importPath _ ih hbelow d hd
    exact h.member_of_branch hbelow hd fun _ => ih fun c hc => h.children hbelow hc
  · intro taken spliced outer _ d hd
    rw [scope]
    exact .pure hd ⟨.nil, fun _ hu => nomatch hu⟩
  · -- a union member behind the one that is used
    intro taken outer f fs hunion ih _ hbelow d hd
    unfold ScopePost
    rw [scope, if_pos hunion, origins, if_pos hunion]
    simp only [Bool.not_true, Bool.false_and, Bool.false_eq_true, if_false, if_true, pure_bind]
    have hrest := ih (fun c hc => hbelow c (List.mem_cons_of_mem _ hc)) d hd
    exact ⟨hrest.good, hrest.grows, hrest.post.1, hrest.post.2.cons⟩
  · -- a union member that may be used
    intro taken spliced outer f fs hunion hspliced ih ihused ihmember hbelow d hd
    obtain rfl : spliced = false := by simpa using hspliced
    have hbelow' : ∀ c ∈ fs, Below outer c := fun c hc => hbelow c (List.mem_cons_of_mem _ hc)
    unfold ScopePost
    rw [scope, if_pos hunion, origins, if_pos hunion]
    simp only [Bool.false_eq_true, if_false, Bool.not_false, Bool.true_and]
    refine (ihmember (hbelow f List.mem_cons_self) d hd).bind ?_
    rintro (_ | ⟨nodes, union⟩) d₁ hd₁ - hmember
    · simp only [MemberPost] at hmember
      rw [hmember]
      have hrest := ih hbelow' d₁ hd₁
      exact ⟨hrest.good, hrest.grows, hrest.post.1, hrest.post.2.cons⟩
    · obtain ⟨hmember, htraces, hselects⟩ := hmember
      rw [hmember]
      refine (ihused nodes hbelow' d₁ hd₁).bind ?_
      rintro ⟨rest, _⟩ d₂ hd₂ hgrows ⟨hrest, -⟩
      refine .pure hd₂ ⟨(htraces.mono (h.grows hgrows)).append hrest, fun u hu => ?_⟩
      rw [← Option.some.inj hu]
      exact ⟨f, List.mem_cons_self, hunion, h.selects hgrows hselects⟩
  · -- a named field
    intro taken spliced outer f fs hnamed key ihf ihfs hbelow d hd
    unfold ScopePost
    rw [scope, if_neg hnamed, origins, if_neg hnamed]
    refine (ihf (hbelow f List.mem_cons_self) d hd).bind fun r d₁ hd₁ _ hcontent => ?_
    refine (ihfs (fun c hc => hbelow c (List.mem_cons_of_mem _ hc)) d₁ hd₁).bind ?_
    intro rest d₂ hd₂ hgrows ⟨hrest, hselected⟩
    exact .pure hd₂ ⟨h.traces_cons hgrows hcontent hrest, hselected.cons⟩
  · intro taken outer _ d hd
    rw [branch]
    exact .pure hd .nil
  · -- a union member inside a union member
    intro taken outer f fs hunion ih hbelow d hd
    rw [branch, if_pos hunion, branchOrigins, List.filter_cons_of_neg (by simp [hunion])]
    exact ih (fun c hc => hbelow c (List.mem_cons_of_mem _ hc)) d hd
  · -- a named field inside a union member
    intro taken outer f fs hnamed key ihf ihfs hbelow d hd
    rw [branch, if_neg hnamed, branchOrigins, List.filter_cons_of_pos (by simpa using hnamed),
      List.map_cons]
    refine (ihf (hbelow f List.mem_cons_self) d hd).bind fun r d₁ hd₁ _ hcontent => ?_
    refine (ihfs (fun c hc => hbelow c (List.mem_cons_of_mem _ hc)) d₁ hd₁).bind ?_
    intro rest d₂ hd₂ hgrows hrest
    exact .pure hd₂ (h.traces_cons hgrows hcontent hrest)

end Steady

/-- A property of drafts is kept by a whole plan if the steps keep it that take names and
aliases. -/
theorem Steady.of_steps {enums : List Enumeration} {Below : Package → ShapeField → Prop}
    {Good : Draft → Prop} {Selects : Package → ShapeField → UnionBranch → Prop}
    (children : ∀ {outer f c}, Below outer f → c ∈ f.children → Below (outer.below f) c)
    (qualified : ∀ {d outer f}, Below outer f → Good d → Good (Draft.qualified? outer f d).2)
    (selects : ∀ {d outer f}, Below outer f → Good d → ∀ type ∈ (Draft.unionType? outer f d).1,
      Selects outer f ⟨type, "[]".toList.isPrefixOf type.toList⟩)
    (function : ∀ {d} type union fields, Good d → Good (Draft.flattenFor type union fields d).2)
    (table : ∀ {d} e type, Good d → Good (Draft.enumFlattenFor e type d).2) :
    Steady enums Below Good (fun _ => Selects) fun _ _ _ _ _ => True where
  children := children
  grows _ _ := trivial
  selects _ h := h
  unfilled _ := trivial
  union {d outer f} hd hbelow := by
    refine ⟨?_, Draft.unionType?_grows outer f d, selects hbelow hd⟩
    rw [(Draft.unionType?_run outer f d).1]
    exact qualified hbelow hd
  leaf {d outer f} hd hbelow _ := by
    -- only values of enumerations take names
    unfold leafKind
    cases enumNamed? enums (baseName f.type) with
    | none => exact .pure hd trivial
    | some e =>
      dsimp only
      split
      · exact .pure hd trivial
      · simp only [enumKind]
        split
        · exact .pure hd trivial
        · have hqualified : Keeps Good d (Draft.qualified? outer f) fun _ _ => True :=
            ⟨qualified hbelow hd, Draft.qualified?_grows outer f d, trivial⟩
          refine hqualified.bind ?_
          rintro (_ | type) d₁ hd₁ - -
          · exact .pure hd₁ trivial
          · have htable : Keeps Good d₁ (Draft.enumFlattenFor e type) fun _ _ => True :=
              ⟨table e type hd₁, Draft.enumFlattenFor_grows e type d₁, trivial⟩
            refine htable.bind fun flatten d₂ hd₂ _ _ => ?_
            split <;> exact .pure hd₂ trivial
  object {d outer f nodes union} hd hbelow _ _ _ := by
    unfold objectKind
    split
    · exact .pure hd trivial
    · have hqualified : Keeps Good d (Draft.qualified? outer f) fun _ _ => True :=
        ⟨qualified hbelow hd, Draft.qualified?_grows outer f d, trivial⟩
      refine hqualified.bind ?_
      rintro (_ | type) d₁ hd₁ - -
      · exact .pure hd₁ trivial
      · have hfunction : Keeps Good d₁ (Draft.flattenFor type union nodes) fun _ _ => True :=
          ⟨function type union nodes hd₁, Draft.flattenFor_grows type union nodes d₁, trivial⟩
        exact hfunction.bind fun flatten d₂ hd₂ _ _ => .pure hd₂ trivial

/-! ## Payloads -/

namespace Plan

/-- The payload of a shape is a struct. -/
theorem payload_isComposite (s : Shape) : (payload s).1.isComposite = true := by
  rw [payload]
  cases henvelope : envelope? s with
  | none => rfl
  | some f =>
    have hwraps := (Option.filter_eq_some_iff.1 henvelope).2
    simp only [Bool.and_eq_true] at hwraps
    exact hwraps.1.1.1

/-- What stands below the payload of a shape is among the fields of the shape. -/
theorem within_of_payload {s : Shape} {f : ShapeField} (h : f.Within (payload s).1.children) :
    f.Within s.fields := by
  rw [payload] at h
  cases henvelope : envelope? s with
  | none =>
    rw [henvelope] at h
    exact h
  | some g =>
    rw [henvelope] at h
    exact .inside (List.mem_of_head? (Option.filter_eq_some_iff.1 henvelope).1) h

end Plan

end ProviderGlue.Schema
