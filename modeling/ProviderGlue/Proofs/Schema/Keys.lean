import ProviderGlue.Proofs.Schema.Coherence

/-!
# Keys of a schema

Each scope gives out keys of its own.  A field gets the snake case of its name, and a number behind
it if an earlier field of the scope, or a reserved key, is in the way.  The fields that take the
place of a union belong to the scope of the union.

## Key results

- `claims_keyFor`: the search for a free key ends at the least number that gives one
- `Scoped.nodup_keys`, `Scoped.not_mem_taken`: the keys of a scope differ, also from reserved ones
- `build_keyed`: all scopes of a plan give out their keys in this way
-/

namespace ProviderGlue.Schema

open Text Go

/-! ## One key -/

/-- The key of a field of that name in a scope where the keys `taken` are given out: the snake case
of the name, or else that with the least number from 2 on that makes it free. -/
inductive Claims (taken : List String) (name : String) : String → Prop
  | plain : onChars snakeCase name ∉ taken → Claims taken name (onChars snakeCase name)
  | numbered {n : Nat} : onChars snakeCase name ∈ taken → 2 ≤ n →
    (∀ m, 2 ≤ m → m < n → onChars snakeCase name ++ "_" ++ toString m ∈ taken) →
    onChars snakeCase name ++ "_" ++ toString n ∉ taken →
    Claims taken name (onChars snakeCase name ++ "_" ++ toString n)

theorem Claims.not_mem {taken : List String} {name key : String} (h : Claims taken name key) :
    key ∉ taken := by
  cases h with
  | plain hfree => exact hfree
  | numbered _ _ _ hfree => exact hfree

/-- The order in which keys were given out does not matter. -/
theorem Claims.congr {taken taken' : List String} {name key : String}
    (hmem : ∀ k, k ∈ taken ↔ k ∈ taken') (h : Claims taken name key) : Claims taken' name key := by
  cases h with
  | plain hfree => exact .plain (mt (hmem _).2 hfree)
  | numbered hbase hn hbefore hfree =>
    exact .numbered ((hmem _).1 hbase) hn (fun m hm hmn => (hmem _).1 (hbefore m hm hmn))
      (mt (hmem _).2 hfree)

/-- The search for a free key ends, whatever is taken. -/
theorem claims_keyFor (taken : List String) (name : String) :
    Claims taken name (keyFor taken name) := by
  have hfree : keyFor taken name ∉ taken :=
    firstFree_not_mem taken fun i j hi hj h => numbered_injective (by omega) (by omega) h
  obtain ⟨k, hk, heq, hbefore⟩ :=
    exists_firstFree_eq (numbered 2 "_" (onChars snakeCase name)) 1 taken
  have heq : keyFor taken name = numbered 2 "_" (onChars snakeCase name) k := heq
  rw [heq] at hfree ⊢
  by_cases hone : k = 1
  · subst hone
    exact .plain hfree
  · -- the series starts with the bare name, so that is taken
    have hnumbered : ∀ m, 2 ≤ m → numbered 2 "_" (onChars snakeCase name) m =
        onChars snakeCase name ++ "_" ++ toString m := fun m hm => if_neg (by omega)
    rw [hnumbered k (by omega)] at hfree ⊢
    refine .numbered (hbefore 1 (Nat.le_refl 1) (by omega)) (by omega) (fun m hm hmk => ?_) hfree
    rw [← hnumbered m hm]
    exact hbefore m (by omega) hmk

/-! ## Scopes -/

/-- Nodes whose keys are given out one after the other, where the keys `taken` are given out
already.  Below each node a new scope starts. -/
inductive Scoped : List String → List Node → Prop
  | nil {taken : List String} : Scoped taken []
  | cons {taken : List String} {n : Node} {ns : List Node} :
    Claims taken n.field n.key → Scoped [] n.children → Scoped (n.key :: taken) ns →
    Scoped taken (n :: ns)

namespace Scoped

variable {taken taken' : List String} {n : Node} {ns ms : List Node}

theorem congr (h : Scoped taken ns) (hmem : ∀ k, k ∈ taken ↔ k ∈ taken') : Scoped taken' ns := by
  induction ns generalizing taken taken' with
  | nil => exact .nil
  | cons n ns ih =>
    obtain _ | ⟨hclaims, hbelow, hrest⟩ := h
    refine .cons (hclaims.congr hmem) hbelow (ih hrest fun k => ?_)
    rw [List.mem_cons, List.mem_cons, hmem]

/-- A scope goes on where another piece of it ends. -/
theorem append (h : Scoped taken ns) (h' : Scoped (ns.map (·.key) ++ taken) ms) :
    Scoped taken (ns ++ ms) := by
  induction ns generalizing taken with
  | nil => exact h'
  | cons n ns ih =>
    obtain _ | ⟨hclaims, hbelow, hrest⟩ := h
    refine .cons hclaims hbelow (ih hrest (h'.congr fun k => ?_))
    simp only [List.map_cons, List.cons_append, List.mem_cons, List.mem_append]
    exact or_left_comm

/-- No key of a scope was taken before. -/
theorem not_mem_taken (h : Scoped taken ns) : ∀ n ∈ ns, n.key ∉ taken := by
  induction ns generalizing taken with
  | nil => exact fun n hn => absurd hn List.not_mem_nil
  | cons m ns ih =>
    obtain _ | ⟨hclaims, -, hrest⟩ := h
    intro n hn
    rcases List.mem_cons.1 hn with rfl | hn
    · exact hclaims.not_mem
    · exact fun hmem => ih hrest n hn (List.mem_cons_of_mem _ hmem)

/-- The keys of a scope differ. -/
theorem nodup_keys (h : Scoped taken ns) : (ns.map (·.key)).Nodup := by
  induction ns generalizing taken with
  | nil => exact List.nodup_nil
  | cons m ns ih =>
    obtain _ | ⟨-, -, hrest⟩ := h
    rw [List.map_cons, List.nodup_cons]
    refine ⟨fun hmem => ?_, ih hrest⟩
    -- a later node with the same key would have claimed a taken one
    obtain ⟨n, hn, heq⟩ := List.mem_map.1 hmem
    exact hrest.not_mem_taken n hn (heq ▸ List.mem_cons_self)

/-- Every node in or below a scope starts a scope of its own. -/
theorem of_within (hn : n.Within ns) (h : Scoped taken ns) : Scoped [] n.children := by
  induction hn generalizing taken with
  | here hmem =>
    induction h with
    | nil => exact absurd hmem List.not_mem_nil
    | cons _ hbelow _ _ ih =>
      rcases List.mem_cons.1 hmem with rfl | hmem
      · exact hbelow
      · exact ih hmem
  | inside hmem _ ihin =>
    induction h with
    | nil => exact absurd hmem List.not_mem_nil
    | cons _ hbelow _ _ ih =>
      rcases List.mem_cons.1 hmem with rfl | hmem
      · exact ihin hbelow
      · exact ih hmem

end Scoped

/-! ## Steps -/

section Steps

variable {enums : List Enumeration} {taken : List String} {outer : Package} {f : ShapeField}
  {fs : List ShapeField} {d : Draft}

/-- Every function reads a scope that starts afresh. -/
def KeysApart (d : Draft) : Prop := ∀ g ∈ d.functions, Scoped [] g.fields

/-- A step that adds no function keeps the keys apart. -/
theorem KeysApart.of_functions {d' : Draft} (h : KeysApart d) (heq : d'.functions = d.functions) :
    KeysApart d' := by
  intro g hg
  exact h g (heq ▸ hg)

theorem qualified?_functions (outer : Package) (f : ShapeField) (d : Draft) :
    (Draft.qualified? outer f d).2.functions = d.functions := by
  obtain ⟨aliases, hrun, -⟩ := Draft.qualified?_run outer f d
  rw [hrun]

theorem unionType?_functions (outer : Package) (f : ShapeField) (d : Draft) :
    (Draft.unionType? outer f d).2.functions = d.functions := by
  rw [(Draft.unionType?_run outer f d).1]
  exact qualified?_functions outer f d

theorem enumFlattenFor_functions (e : Enumeration) (type : String) (d : Draft) :
    (Draft.enumFlattenFor e type d).2.functions = d.functions := by
  rcases Draft.enumFlattenFor_run e type d with ⟨t, -, hrun⟩ | ⟨-, flatten, table, -, -, hrun⟩
  · rw [hrun]
  · rw [hrun]

/-- A field whose type is no struct adds no function. -/
theorem leafKind_functions (enums : List Enumeration) (outer : Package) (f : ShapeField)
    (d : Draft) : (leafKind enums outer f d).2.functions = d.functions := by
  unfold leafKind
  cases enumNamed? enums (baseName f.type) with
  | none => rfl
  | some e =>
    dsimp only
    split
    · rfl
    · unfold enumKind
      split
      · rfl
      · rw [← qualified?_functions outer f d]
        simp only [run_bind]
        generalize Draft.qualified? outer f d = q
        obtain ⟨_ | type, d₁⟩ := q
        · rfl
        · have henum := enumFlattenFor_functions e type d₁
          simp only [run_bind]
          cases TypeText.sliceElement? f.type.toList <;> exact henum

/-- A struct adds at most the function that reads the nodes below it. -/
theorem mem_functions_of_objectKind {nodes : List Node} {union : Option UnionBranch}
    {g : FlattenFunction} (hg : g ∈ (objectKind outer f nodes union d).2.functions) :
    g ∈ d.functions ∨ g.fields = (objectKind outer f nodes union d).1.2 := by
  unfold objectKind at hg ⊢
  split
  · next hempty =>
    rw [if_pos hempty] at hg
    exact .inl hg
  · next hempty =>
    rw [if_neg hempty] at hg
    rw [← qualified?_functions outer f d]
    simp only [run_bind] at hg ⊢
    generalize Draft.qualified? outer f d = q at hg ⊢
    obtain ⟨_ | type, d₁⟩ := q
    · exact .inl hg
    · simp only [run_bind, run_pure] at hg ⊢
      rcases Draft.flattenFor_run type union nodes d₁ with
        ⟨g', -, -, hrun⟩ | ⟨-, name, -, hrun⟩
      · rw [hrun] at hg
        exact .inl hg
      · rw [hrun] at hg
        rcases List.mem_cons.1 hg with rfl | hg
        · exact .inr rfl
        · exact .inl hg

/-- What a field holds starts a scope of its own; its function reads that scope. -/
abbrev ContentKeys (reserved : List String) (r : (NodeKind × List Node) × Draft) : Prop :=
  Scoped reserved r.1.2 ∧ ∀ g ∈ r.2.functions, Scoped [] g.fields ∨ g.fields = r.1.2

/-- Nodes go on with a scope, and all functions read scopes that start afresh. -/
abbrev ScopeKeys (taken : List String) (nodes : List Node) (d : Draft) : Prop :=
  Scoped taken nodes ∧ KeysApart d

/-- Where no key is reserved, the function of the field reads a scope that starts afresh, too. -/
theorem ContentKeys.scopeKeys {r : (NodeKind × List Node) × Draft} (h : ContentKeys [] r) :
    ScopeKeys [] r.1.2 r.2 := by
  refine ⟨h.1, fun g hg => ?_⟩
  rcases h.2 g hg with hscoped | heq
  · exact hscoped
  · rw [heq]
    exact h.1

/-- What a field holds, given what the scope below it gives. -/
theorem contentKeys_of_scope {reserved : List String} (hd : KeysApart d)
    (hscope : f.isComposite = true → ∀ d, KeysApart d →
      ScopeKeys reserved (scope enums reserved false (outer.below f) f.children d).1.1
        (scope enums reserved false (outer.below f) f.children d).2) :
    ContentKeys reserved (content enums reserved outer f d) := by
  rw [content_eq]
  split
  · next hcomposite =>
    split
    · exact ⟨.nil, fun g hg => .inl (hd g hg)⟩
    · obtain ⟨hscoped, hd₁⟩ := hscope hcomposite d hd
      simp only [run_bind]
      generalize scope enums reserved false (outer.below f) f.children d = r at hscoped hd₁
      obtain ⟨⟨nodes, union⟩, d₁⟩ := r
      refine ⟨?_, fun g hg => (mem_functions_of_objectKind hg).imp_left (hd₁ g)⟩
      rcases objectKind_snd outer f nodes union d₁ with hsnd | hsnd
      · rw [hsnd]
        exact .nil
      · rw [hsnd]
        exact hscoped
  · have hleaf := leafKind_functions enums outer f d
    refine ⟨.nil, fun g hg => .inl (hd g ?_)⟩
    exact hleaf ▸ hg

/-- What a union member gives, given what its fields give. -/
theorem memberKeys_of_branch (hd : KeysApart d)
    (hbranch : isResultBranch f = true → ∀ d, KeysApart d →
      ScopeKeys taken (branch enums taken (outer.below f) f.children d).1
        (branch enums taken (outer.below f) f.children d).2) :
    ScopeKeys taken ((member enums taken outer f d).1.elim [] (·.1))
      (member enums taken outer f d).2 := by
  rw [member_eq]
  split
  · exact ⟨.nil, hd⟩
  · next hresult =>
    have hunion : KeysApart (Draft.unionType? outer f d).2 :=
      hd.of_functions (unionType?_functions outer f d)
    simp only [run_bind]
    generalize Draft.unionType? outer f d = q at hunion
    obtain ⟨_ | type, d₁⟩ := q
    · exact ⟨.nil, hunion⟩
    · have hnodes := hbranch (by simpa using hresult) d₁ hunion
      simp only [run_bind]
      generalize branch enums taken (outer.below f) f.children d₁ = r at hnodes
      obtain ⟨nodes, d₂⟩ := r
      dsimp only
      split
      · exact ⟨.nil, hnodes.2⟩
      · exact hnodes

/-- Every step gives out keys one after the other. -/
theorem keys_planned (enums : List Enumeration) :
    (∀ reserved outer f d, KeysApart d → ContentKeys reserved (content enums reserved outer f d)) ∧
    (∀ taken spliced outer fs d, KeysApart d →
      ScopeKeys taken (scope enums taken spliced outer fs d).1.1
        (scope enums taken spliced outer fs d).2) ∧
    (∀ taken outer f d, KeysApart d →
      ScopeKeys taken ((member enums taken outer f d).1.elim [] (·.1))
        (member enums taken outer f d).2) ∧
    (∀ taken outer fs d, KeysApart d →
      ScopeKeys taken (branch enums taken outer fs d).1 (branch enums taken outer fs d).2) := by
  refine content.mutual_induct enums
    (fun reserved outer f => ∀ d, KeysApart d →
      ContentKeys reserved (content enums reserved outer f d))
    (fun taken spliced outer fs => ∀ d, KeysApart d →
      ScopeKeys taken (scope enums taken spliced outer fs d).1.1
        (scope enums taken spliced outer fs d).2)
    (fun taken outer f => ∀ d, KeysApart d →
      ScopeKeys taken ((member enums taken outer f d).1.elim [] (·.1))
        (member enums taken outer f d).2)
    (fun taken outer fs => ∀ d, KeysApart d →
      ScopeKeys taken (branch enums taken outer fs d).1 (branch enums taken outer fs d).2)
    ?_ ?_ ?_ ?_ ?_ ?_ ?_ ?_ ?_ ?_ ?_ ?_
  · -- a struct that is not expanded
    intro reserved outer name type tag children importAlias importPath hempty d hd
    rw [content, if_pos rfl, if_pos hempty]
    exact ⟨.nil, fun g hg => .inl (hd g hg)⟩
  · -- a struct with fields below
    intro reserved outer name type tag children importAlias importPath _ ih d hd
    exact contentKeys_of_scope hd fun _ => ih
  · -- a field whose type is no struct
    intro reserved outer name type tag isComposite children importAlias importPath hleaf d hd
    exact contentKeys_of_scope hd fun hcomposite => absurd hcomposite hleaf
  · -- a union member that stands for no result
    intro taken outer name type tag isComposite children importAlias importPath hresult d hd
    refine memberKeys_of_branch hd fun hresult' => ?_
    rw [hresult'] at hresult
    contradiction
  · -- a union member that stands for a result
    intro taken outer name type tag isComposite children importAlias importPath _ ih d hd
    exact memberKeys_of_branch hd fun _ => ih
  · intro taken spliced outer d hd
    rw [scope]
    exact ⟨.nil, hd⟩
  · -- a union member behind the one that is used
    intro taken outer f fs hunion ih _ d hd
    rw [scope, if_pos hunion]
    simp only [if_true, pure_bind]
    exact ih d hd
  · -- a union member that may be used: its nodes come before those of further fields
    intro taken spliced outer f fs hunion hspliced ih ihused ihmember d hd
    obtain rfl : spliced = false := by simpa using hspliced
    have hmember := ihmember d hd
    rw [scope, if_pos hunion]
    simp only [Bool.false_eq_true, if_false, run_bind]
    generalize member enums taken outer f d = r at hmember
    obtain ⟨_ | ⟨nodes, union⟩, d₁⟩ := r
    · exact ih d₁ hmember.2
    · obtain ⟨hscoped, hrest⟩ := ihused nodes d₁ hmember.2
      exact ⟨hmember.1.append hscoped, hrest⟩
  · -- a named field
    intro taken spliced outer f fs hnamed key ihf ihfs d hd
    have hcontent := (ihf d hd).scopeKeys
    rw [scope, if_neg hnamed]
    simp only [run_bind]
    generalize content enums [] outer f d = r at hcontent
    obtain ⟨⟨kind, below⟩, d₁⟩ := r
    obtain ⟨hscoped, hrest⟩ := ihfs d₁ hcontent.2
    exact ⟨.cons (claims_keyFor taken (selector f)) hcontent.1 hscoped, hrest⟩
  · intro taken outer d hd
    rw [branch]
    exact ⟨.nil, hd⟩
  · -- a union member inside a union member
    intro taken outer f fs hunion ih d hd
    rw [branch, if_pos hunion]
    exact ih d hd
  · -- a named field inside a union member
    intro taken outer f fs hnamed key ihf ihfs d hd
    have hcontent := (ihf d hd).scopeKeys
    rw [branch, if_neg hnamed]
    simp only [run_bind]
    generalize content enums [] outer f d = r at hcontent
    obtain ⟨⟨kind, below⟩, d₁⟩ := r
    obtain ⟨hscoped, hrest⟩ := ihfs d₁ hcontent.2
    exact ⟨.cons (claims_keyFor taken (selector f)) hcontent.1 hscoped, hrest⟩

end Steps

/-! ## Plans -/

/-- The keys of a plan where some keys are reserved for others. -/
structure Plan.Keyed (p : Plan) (reserved : List String) : Prop where
  /-- The schema gives out its keys behind the reserved ones, and each scope below it afresh. -/
  root : Scoped reserved p.root
  /-- A function reads the schema, or a scope that gives out its keys afresh. -/
  functions : ∀ {g}, g ∈ p.functions → Scoped [] g.fields ∨ g.fields = p.root
  /-- The keys of the schema differ. -/
  distinct_root : (p.root.map (·.key)).Nodup
  /-- No key of the schema is reserved. -/
  unreserved : ∀ n ∈ p.root, n.key ∉ reserved
  /-- So do the keys below any node. -/
  distinct_below : ∀ {n}, p.Mentions n → (n.children.map (·.key)).Nodup
  /-- So do the keys that a function reads. -/
  distinct_fields : ∀ {g}, g ∈ p.functions → (g.fields.map (·.key)).Nodup
  /-- The search for a key ends, whatever is taken. -/
  total : ∀ taken name, Claims taken name (keyFor taken name)

/-- **Keys are given out scope by scope**: in every scope of a plan the keys differ, and each is the
snake case of its field, with the least number that makes it free if it is not. -/
theorem build_keyed (s : Shape) (enums : List Enumeration) (reserved : List String) :
    (Plan.build s enums reserved).Keyed reserved := by
  have hplanned : ContentKeys reserved
      (content enums reserved ⟨s.importPath, s.importAlias⟩ (Plan.payload s).1 {}) :=
    (keys_planned enums).1 _ _ _ _ fun g hg => absurd hg List.not_mem_nil
  have hroot : Scoped reserved (Plan.build s enums reserved).root := hplanned.1
  have hfunctions : ∀ {g}, g ∈ (Plan.build s enums reserved).functions →
      Scoped [] g.fields ∨ g.fields = (Plan.build s enums reserved).root := hplanned.2 _
  -- a function reads a scope, whichever keys were taken before
  have scoped_fields : ∀ {g}, g ∈ (Plan.build s enums reserved).functions →
      ∃ taken, Scoped taken g.fields := fun hg => by
    rcases hfunctions hg with hscoped | heq
    · exact ⟨_, hscoped⟩
    · exact ⟨_, heq ▸ hroot⟩
  constructor
  case root => exact hroot
  case functions => exact hfunctions
  case distinct_root => exact hroot.nodup_keys
  case unreserved => exact hroot.not_mem_taken
  case distinct_below =>
    rintro n (hn | ⟨g, hg, hn⟩)
    · exact (hroot.of_within hn).nodup_keys
    · obtain ⟨taken, hscoped⟩ := scoped_fields hg
      exact (hscoped.of_within hn).nodup_keys
  case distinct_fields =>
    intro g hg
    obtain ⟨taken, hscoped⟩ := scoped_fields hg
    exact hscoped.nodup_keys
  case total => exact claims_keyFor

end ProviderGlue.Schema
