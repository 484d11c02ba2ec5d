import ProviderGlue.Proofs.Shape.Expansion

/-!
# Narrowing keeps what it extracts

A narrowed extraction drops structs from the catalog before it expands shapes.  The structs that it
keeps are closed under the fields (`Closed`), and in a closed part of the catalog expansion finds
the same fields as in the whole.

## Key results

- `reach_closed`: the worklist leaves nothing out
- `expand?_filterKeys`: expansion in a closed part of the structs
- `ofCatalog_narrows`: a narrowed extraction is a part of the extraction of everything
-/

namespace ProviderGlue

namespace Structs

variable {types : Structs}

/-! ## The worklist -/

/-- What was seen is in the result. -/
theorem seen_subset_reach (types : Structs) (seen pending : List String) :
    seen ⊆ reach types seen pending := by
  fun_induction reach with
  -- nothing is pending, or the next name is unknown, was seen, or is new
  | case1 seen => exact List.Subset.refl seen
  | case2 seen name pending _ ih => exact ih
  | case3 seen name pending s _ hseen ih => exact ih
  | case4 seen name pending s _ hseen ih =>
    exact List.Subset.trans (List.subset_cons_self name seen) ih

/-- Pending structs are in the result if they are known. -/
theorem mem_reach_of_pending (types : Structs) (seen pending : List String) {name : String}
    (hname : name ∈ pending) (hknown : name ∈ types.keys) : name ∈ reach types seen pending := by
  fun_induction reach with
  | case1 seen => exact absurd hname List.not_mem_nil
  | case2 seen head pending hget ih =>
    rcases List.mem_cons.1 hname with rfl | hname
    · obtain ⟨s, hs⟩ := Table.mem_keys_iff.1 hknown
      rw [hget] at hs
      exact nomatch hs
    · exact ih hname
  | case3 seen head pending s _ hseen ih =>
    -- a name that was seen stays in the result, whatever is still to come
    rcases List.mem_cons.1 hname with rfl | hname
    · exact seen_subset_reach types seen pending hseen
    · exact ih hname
  | case4 seen head pending s _ hseen ih =>
    rcases List.mem_cons.1 hname with rfl | hname
    · exact seen_subset_reach types _ _ List.mem_cons_self
    · exact ih (List.mem_append_right _ hname)

/-- The known types that the structs of `seen` lead to have been seen or are pending. -/
def Covered (types : Structs) (seen pending : List String) : Prop :=
  ∀ {name s}, name ∈ seen → types.get? name = some s →
    ∀ type ∈ fieldTypes s, type ∈ types.keys → type ∈ seen ∨ type ∈ pending

/-- The worklist stays covered when a struct is taken from it. -/
theorem Covered.step {seen pending : List String} {name : String} {s : Go.Struct}
    (h : Covered types seen (name :: pending)) (hget : types.get? name = some s) :
    Covered types (name :: seen) (fieldTypes s ++ pending) := by
  intro other s' hother hget' type htype hknown
  rcases List.mem_cons.1 hother with rfl | hother
  · -- the types of the new struct have just been put in front
    rw [hget] at hget'
    rw [← Option.some.inj hget'] at htype
    exact .inr (List.mem_append_left _ htype)
  · -- a type that was waiting may be the new struct itself
    rcases h hother hget' type htype hknown with hseen | hpending
    · exact .inl (List.mem_cons_of_mem _ hseen)
    · rcases List.mem_cons.1 hpending with rfl | hpending
      · exact .inl List.mem_cons_self
      · exact .inr (List.mem_append_right _ hpending)

/-- The worklist stays covered when an entry is dropped that is unknown or was seen. -/
theorem Covered.drop {seen pending : List String} {name : String}
    (h : Covered types seen (name :: pending)) (hname : name ∈ types.keys → name ∈ seen) :
    Covered types seen pending := by
  intro other s hother hget type htype hknown
  rcases h hother hget type htype hknown with hseen | hpending
  · exact .inl hseen
  · rcases List.mem_cons.1 hpending with rfl | hpending
    · exact .inl (hname hknown)
    · exact .inr hpending

/-- Nothing is left out: from a covered worklist, the result is covered without pending types. -/
theorem reach_closed {seen pending : List String} (h : Covered types seen pending) :
    Covered types (reach types seen pending) [] := by
  fun_induction reach with
  | case1 seen => exact h
  | case2 seen name pending hget ih =>
    refine ih (h.drop fun hknown => ?_)
    obtain ⟨s, hs⟩ := Table.mem_keys_iff.1 hknown
    rw [hget] at hs
    exact nomatch hs
  | case3 seen name pending s _ hseen ih => exact ih (h.drop fun _ => hseen)
  | case4 seen name pending s hget hseen ih => exact ih (h.step hget)

/-! ## Expansion in a part of the structs -/

/-- The known types of the fields of kept structs are kept. -/
def Closed (types : Structs) (keep : String → Bool) : Prop :=
  ∀ {name s}, types.get? name = some s → keep name = true →
    ∀ d ∈ s.fields, Go.baseName d.type ∈ types.keys → keep (Go.baseName d.type) = true

/-- Types that are kept if they are known are found as before. -/
theorem get?_filterKeys_of_keep {keep : String → Bool} {name : String}
    (hname : name ∈ types.keys → keep name = true) :
    (types.filterKeys keep).get? name = types.get? name := by
  rw [Table.get?_filterKeys]
  split
  · rfl
  · next hkeep =>
    rw [eq_comm, Option.eq_none_iff_forall_ne_some]
    exact fun s hs => hkeep (hname (Table.mem_keys_iff.2 ⟨s, hs⟩))

/-- In a closed part, the fields below a field are the same. -/
theorem fieldsBelow_filterKeys {keep : String → Bool} (hclosed : Closed types keep)
    (path : List String) (name : String) (hname : name ∈ types.keys → keep name = true) :
    fieldsBelow (types.filterKeys keep) path name = fieldsBelow types path name := by
  fun_induction fieldsBelow types path name with
  | case1 path name hget =>
    exact fieldsBelow_of_none ((get?_filterKeys_of_keep hname).trans hget)
  | case2 path name s hget hpath => exact fieldsBelow_of_mem hpath
  | case3 path name s hget hpath ih =>
    -- both expansions read the same struct, and its fields lead to types that are kept
    have hkeep : keep name = true := hname (Table.mem_keys_iff.2 ⟨s, hget⟩)
    rw [fieldsBelow_of_get? ((get?_filterKeys_of_keep hname).trans hget) hpath]
    refine List.map_congr_left fun d hd => ?_
    have hbase : Go.baseName d.type ∈ types.keys → keep (Go.baseName d.type) = true :=
      hclosed hget hkeep d (List.mem_filter.1 hd).1
    rw [fieldBelow, Table.contains, get?_filterKeys_of_keep hbase, ih d hbase]
    rfl

/-- In a closed part, the structs have the same shapes. -/
theorem expand?_filterKeys {keep : String → Bool} (hclosed : Closed types keep) {name : String}
    (hname : name ∈ types.keys → keep name = true) :
    Structs.expand? (types.filterKeys keep) name = types.expand? name := by
  rw [expand?, expand?, expandBelow?, expandBelow?, get?_filterKeys_of_keep hname,
    fieldsBelow_filterKeys hclosed [] name hname]

/-! ## What methods need -/

theorem contains_closure_iff {methods : List Go.Method} {name : String} :
    (types.closure methods).contains name = true ↔
      name ∈ types.keys ∧ name ∈ reach types [] (methods.flatMap mentioned) := by
  rw [closure, List.contains_iff_mem, List.mem_filter, List.contains_iff_mem]

/-- What methods need is closed, unless a type has no name. -/
theorem closed_closure (hempty : "" ∉ types.keys) (methods : List Go.Method) :
    Closed types (types.closure methods).contains := by
  intro name s hget hkeep d hd hknown
  have hcovered : Covered types (reach types [] (methods.flatMap mentioned)) [] :=
    reach_closed fun hmem => absurd hmem List.not_mem_nil
  rw [contains_closure_iff] at hkeep ⊢
  refine ⟨hknown, (hcovered hkeep.2 hget _ ?_ hknown).resolve_right List.not_mem_nil⟩
  -- only types without a name are not followed
  have hne : Go.baseName d.type ≠ "" := fun heq => hempty (heq ▸ hknown)
  refine List.mem_filter.2 ⟨List.mem_map_of_mem hd, ?_⟩
  simpa using hne

/-- What methods need includes the types that they mention. -/
theorem contains_closure_of_mentioned {methods : List Go.Method} {m : Go.Method} (hm : m ∈ methods)
    {name : String} (hname : name ∈ mentioned m) (hknown : name ∈ types.keys) :
    (types.closure methods).contains name = true :=
  contains_closure_iff.2 ⟨hknown,
    mem_reach_of_pending types [] _ (List.mem_flatMap.2 ⟨m, hm, hname⟩) hknown⟩

/-- What methods need is enough for the shapes of the types that they mention. -/
theorem expand?_retain {c : Catalog} (hempty : "" ∉ c.types.keys) {methods : List Go.Method}
    {m : Go.Method} (hm : m ∈ methods) {name : String} (hname : name ∈ mentioned m) :
    (c.retain (c.types.closure methods)).types.expand? name = c.types.expand? name :=
  expand?_filterKeys (closed_closure hempty methods) fun hknown =>
    contains_closure_of_mentioned hm hname hknown

end Structs

/-! ## Extractions -/

theorem mem_mentioned_iff {m : Go.Method} {name : String} :
    name ∈ mentioned m ↔ ∃ type, (requestType? m.params = some type ∨
      responseType? m.returns = some type) ∧ Go.baseName type = name := by
  simp only [mentioned, List.mem_map, List.mem_append, Option.mem_toList]

namespace Narrowing

/-- Whether the method of an operation is kept. -/
def keepsOperation (narrowing : Narrowing) (o : ApiOperation) : Bool :=
  narrowing.keeps { name := o.method.name, owner := o.method.owner }

/-- A narrowing looks only at what operations tell of their methods. -/
theorem keepsOperation_operation (narrowing : Narrowing) (types : Structs) (m : Go.Method) :
    narrowing.keepsOperation (types.operation m) = narrowing.keeps m := by
  cases narrowing <;> rfl

end Narrowing

namespace Extraction

/-- Whether a field in the shapes of some operations has a type of that name. -/
def Mentions (operations : List ApiOperation) (type : String) : Prop :=
  ∃ o ∈ operations, ∃ s ∈ o.request.toList ++ o.response.toList,
    ∃ f : ShapeField, f.Within s.fields ∧ Go.baseName f.type = type

/-- An extraction of a catalog is the part of another one that a narrowing keeps. -/
structure Narrows (isOperation : MethodTest) (narrowing : Narrowing) (c : Catalog)
    (part whole : Extraction) : Prop where
  /-- The operations are those that are kept, in the same order. -/
  operations : part.model.operations = whole.model.operations.filter narrowing.keepsOperation
  /-- What the selected methods need is enough for their types. -/
  shapes : ∀ {m type}, m ∈ select isOperation narrowing c →
    requestType? m.params = some type ∨ responseType? m.returns = some type →
    (c.retain (c.types.closure (select isOperation narrowing c))).types.expand? (Go.baseName type) =
      c.types.expand? (Go.baseName type)
  /-- The enumerations are those that the shapes mention. -/
  enums : ∃ mentioned : Table Enumeration, part.model.enums = mentioned.values ∧
    ∀ {key e}, mentioned.get? key = some e ↔
      c.enums.get? key = some e ∧ Mentions part.model.operations key

variable {isOperation : MethodTest} {narrowing : Narrowing} {c : Catalog}

/-- A selected method gives the same operation when the catalog is narrowed. -/
theorem operation_narrow (hempty : "" ∉ c.types.keys) {selected : List Go.Method} {m : Go.Method}
    (hm : m ∈ selected) :
    (narrow narrowing selected c).types.operation m = c.types.operation m := by
  unfold narrow
  split
  · rfl
  · -- only types that the method mentions are expanded
    have hshape : ∀ type, requestType? m.params = some type ∨ responseType? m.returns = some type →
        (c.retain (c.types.closure selected)).types.shapeOf? m.imports type =
          c.types.shapeOf? m.imports type := by
      intro type htype
      rw [Structs.shapeOf?, Structs.shapeOf?,
        Structs.expand?_retain hempty hm (mem_mentioned_iff.2 ⟨type, htype, rfl⟩)]
    rw [Structs.operation, Structs.operation, ApiOperation.mk.injEq]
    exact ⟨rfl, Option.bind_congr fun type htype => hshape type (.inl htype),
      Option.bind_congr fun type htype => hshape type (.inr htype)⟩

/-- Narrowing leaves the enumerations. -/
theorem enums_narrow (narrowing : Narrowing) (selected : List Go.Method) (c : Catalog) :
    (narrow narrowing selected c).enums = c.enums := by
  unfold narrow
  split <;> rfl

/-- The operations are those of the selected methods in the whole catalog. -/
theorem operations_ofCatalog (isOperation : MethodTest) (narrowing : Narrowing)
    (package packagePath directory : String) (hempty : "" ∉ c.types.keys) :
    (ofCatalog isOperation narrowing package packagePath directory c).model.operations =
      (select isOperation narrowing c).map c.types.operation :=
  List.map_congr_left fun _ hm => operation_narrow hempty hm

/-- The types of the fields are those that the shapes mention. -/
theorem mem_types_iff_mentions {operations : List ApiOperation} {type : String} :
    type ∈ (operations.flatMap fun o => o.request.toList ++ o.response.toList).flatMap
      (fun s => ShapeField.listTypes s.fields) ↔ Mentions operations type := by
  simp only [List.mem_flatMap, ShapeField.mem_listTypes_iff, Mentions]
  constructor
  · rintro ⟨s, ⟨o, ho, hs⟩, hf⟩
    exact ⟨o, ho, s, hs, hf⟩
  · rintro ⟨o, ho, s, hs, hf⟩
    exact ⟨s, ⟨o, ho, hs⟩, hf⟩

/-- The enumerations are those that the operations mention. -/
theorem mentionedEnums_eq (operations : List ApiOperation) (enums : Table Enumeration) :
    ∃ mentioned : Table Enumeration, mentionedEnums operations enums = mentioned.values ∧
      ∀ {key e}, mentioned.get? key = some e ↔
        enums.get? key = some e ∧ Mentions operations key := by
  refine ⟨_, rfl, fun {key e} => ?_⟩
  rw [Table.get?_filterKeys]
  split
  · next hkey =>
    have hmentions := mem_types_iff_mentions.1 (List.contains_iff_mem.1 hkey)
    exact ⟨fun h => ⟨h, hmentions⟩, fun h => h.1⟩
  · next hkey =>
    have hmentions := mt mem_types_iff_mentions.2 (mt List.contains_iff_mem.2 hkey)
    exact ⟨(nomatch ·), fun h => absurd h.2 hmentions⟩

/-- **Narrowing changes nothing of what it keeps**: an extraction with a narrowing has the
operations that the narrowing keeps of an extraction without one, shapes included. -/
theorem ofCatalog_narrows (isOperation : MethodTest) (narrowing : Narrowing)
    (package packagePath directory : String) (c : Catalog) (hempty : "" ∉ c.types.keys) :
    Narrows isOperation narrowing c
        (ofCatalog isOperation narrowing package packagePath directory c)
        (ofCatalog isOperation .all package packagePath directory c) ∧
      ∀ read tree, catalogOf read tree directory = .ok c → ∀ kept : Narrowing,
        ofDirectoryWith read isOperation kept tree package packagePath directory =
          .ok (ofCatalog isOperation kept package packagePath directory c) := by
  refine ⟨⟨?_, fun hm htype => ?_, ?_⟩, fun read tree hc kept => ?_⟩
  · -- both sides are operations of the whole catalog, so only the methods are compared
    have hall : select isOperation .all c = c.methods.filter isOperation :=
      List.filter_eq_self.2 fun _ _ => rfl
    have hkeeps : narrowing.keepsOperation ∘ c.types.operation = narrowing.keeps :=
      funext (narrowing.keepsOperation_operation c.types)
    rw [operations_ofCatalog _ _ _ _ _ hempty, operations_ofCatalog _ _ _ _ _ hempty, hall,
      List.filter_map, hkeeps]
    rfl
  · exact Structs.expand?_retain hempty hm (mem_mentioned_iff.2 ⟨_, htype, rfl⟩)
  · rw [← enums_narrow narrowing (select isOperation narrowing c) c]
    exact mentionedEnums_eq _ _
  · rw [ofDirectoryWith, hc]
    rfl

/-- Two methods on two owners; the struct of one of them is reached through a field. -/
def sampleCatalog : Catalog where
  types := (∅ : Structs).insert "Group" ⟨"Group", [⟨"Owner", "*User", ""⟩], "", ∅⟩
    |>.insert "User" ⟨"User", [⟨"Role", "Role", ""⟩], "", ∅⟩
  enums := (∅ : Table Enumeration).insert "Role" ⟨"Role", "", []⟩
  methods := [⟨"Create", "GroupsApi", "", [], ["*Group", "error"], ∅⟩,
    ⟨"Create", "UsersApi", "", [⟨"u", "User"⟩], ["error"], ∅⟩]

theorem ofCatalog_narrows_sampleCatalog :
    "" ∉ sampleCatalog.types.keys ∧
      Narrows (ownerMentions "api") (.owner "groupsapi") sampleCatalog
          (ofCatalog (ownerMentions "api") (.owner "groupsapi") "m" "m" "d" sampleCatalog)
          (ofCatalog (ownerMentions "api") .all "m" "m" "d" sampleCatalog) ∧
        ∀ read tree, catalogOf read tree "d" = .ok sampleCatalog → ∀ kept : Narrowing,
          ofDirectoryWith read (ownerMentions "api") kept tree "m" "m" "d" =
            .ok (ofCatalog (ownerMentions "api") kept "m" "m" "d" sampleCatalog) :=
  ⟨by decide, ofCatalog_narrows (ownerMentions "api") (.owner "groupsapi") "m" "m" "d" sampleCatalog
    (by decide)⟩

end Extraction

end ProviderGlue
