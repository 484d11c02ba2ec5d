import ProviderGlue.Proofs.Narrowing

/-!
# What operations need

The structs that operations need are the known ones in the least set of names that has the types of
their requests and responses, and with every known struct the types of its fields.  The worklist
finds exactly these: it visits nothing outside any such set, and where it ends, what it has visited
makes up such a set together with all unknown names.

So it makes no difference in which order the operations come and how often each of them does.

## Key results

- `reach_sound`: the worklist visits nothing that is not needed
- `supports_closure`: the worklist visits all that is needed
- `closure_least`: what operations need is the known part of the least set
-/

namespace ProviderGlue.Structs

variable {types : Structs} {methods methods' : List Go.Method}

/-- Whether a set of names has the types that some methods mention and, with each known struct, the
types of all its fields. -/
structure Supports (types : Structs) (methods : List Go.Method) (Has : String → Prop) : Prop where
  mentioned : ∀ {m type}, m ∈ methods →
    requestType? m.params = some type ∨ responseType? m.returns = some type → Has (Go.baseName type)
  fields : ∀ {name s d}, Has name → types.get? name = some s → d ∈ s.fields →
    Has (Go.baseName d.type)

/-- Only the set of the methods counts. -/
theorem Supports.congr {Has : String → Prop} (hmethods : ∀ m, m ∈ methods' ↔ m ∈ methods) :
    Supports types methods' Has ↔ Supports types methods Has := by
  constructor
  · exact fun h => ⟨fun hm => h.mentioned ((hmethods _).2 hm), h.fields⟩
  · exact fun h => ⟨fun hm => h.mentioned ((hmethods _).1 hm), h.fields⟩

/-- The worklist visits only names of any set that has the pending ones and is closed under
fields. -/
theorem reach_sound {Has : String → Prop}
    (hfields : ∀ {name s d}, Has name → types.get? name = some s → d ∈ s.fields →
      Has (Go.baseName d.type))
    {seen pending : List String} (hseen : ∀ name ∈ seen, Has name)
    (hpending : ∀ name ∈ pending, Has name) : ∀ name ∈ reach types seen pending, Has name := by
  fun_induction reach with
  -- nothing is pending, or the next name is unknown, was seen, or is new
  | case1 seen => exact hseen
  | case2 seen name pending _ ih => exact ih hseen (List.forall_mem_cons.1 hpending).2
  | case3 seen name pending s _ _ ih => exact ih hseen (List.forall_mem_cons.1 hpending).2
  | case4 seen name pending s hget _ ih =>
    obtain ⟨hname, hrest⟩ := List.forall_mem_cons.1 hpending
    refine ih (List.forall_mem_cons.2 ⟨hname, hseen⟩) (List.forall_mem_append.2 ⟨?_, hrest⟩)
    -- what is put on the worklist are types of fields of the new struct
    intro type htype
    obtain ⟨d, hd, rfl⟩ := List.mem_map.1 (List.mem_filter.1 htype).1
    exact hfields hname hget hd

/-- What methods need is in every set that supports them. -/
theorem has_of_mem_closure {Has : String → Prop} (h : Supports types methods Has) {name : String}
    (hname : name ∈ types.closure methods) : Has name := by
  have hreached := (contains_closure_iff.1 (List.contains_iff_mem.2 hname)).2
  refine reach_sound h.fields (fun _ hmem => absurd hmem List.not_mem_nil) ?_ name hreached
  intro base hbase
  obtain ⟨m, hm, hbase⟩ := List.mem_flatMap.1 hbase
  obtain ⟨type, htype, rfl⟩ := mem_mentioned_iff.1 hbase
  exact h.mentioned hm htype

/-- What methods need supports them, together with all names that are not known. -/
theorem supports_closure (hempty : "" ∉ types.keys) (methods : List Go.Method) :
    Supports types methods fun name => name ∈ types.keys → name ∈ types.closure methods where
  mentioned hm htype hknown := by
    have hmentioned := mem_mentioned_iff.2 ⟨_, htype, rfl⟩
    exact List.contains_iff_mem.1 (contains_closure_of_mentioned hm hmentioned hknown)
  fields {name s d} hname hget hd hknown := by
    have hkept := hname (Table.mem_keys_iff.2 ⟨s, hget⟩)
    exact List.contains_iff_mem.1
      (closed_closure hempty methods hget (List.contains_iff_mem.2 hkept) d hd hknown)

/-- What methods need are the known names that every set has which supports the methods. -/
theorem mem_closure_iff (hempty : "" ∉ types.keys) {name : String} :
    name ∈ types.closure methods ↔
      name ∈ types.keys ∧ ∀ Has, Supports types methods Has → Has name := by
  constructor
  · exact fun hname => ⟨(List.mem_filter.1 hname).1, fun _ h => has_of_mem_closure h hname⟩
  · exact fun ⟨hknown, hall⟩ => hall _ (supports_closure hempty methods) hknown

/-- **What operations need is least**: if every struct has a name, the closure of some methods has,
each once, the known names of the least set that supports them, and it is the same for all lists of
the same methods. -/
theorem closure_least (types : Structs) (hempty : "" ∉ types.keys) (methods : List Go.Method) :
    (types.closure methods).Nodup ∧
      (∀ name, name ∈ types.closure methods ↔
        name ∈ types.keys ∧ ∀ Has, Supports types methods Has → Has name) ∧
      ∀ methods', (∀ m, m ∈ methods' ↔ m ∈ methods) →
        types.closure methods' = types.closure methods := by
  refine ⟨types.nodup_keys.filter _, fun name => mem_closure_iff hempty, ?_⟩
  intro methods' hmethods
  -- both lists are parts of the same list, so their members decide
  refine List.filter_congr fun name hknown => Bool.eq_iff_iff.2 ?_
  rw [List.contains_iff_mem, List.contains_iff_mem]
  have hmem : name ∈ types.closure methods' ↔ name ∈ types.closure methods := by
    rw [mem_closure_iff hempty, mem_closure_iff hempty]
    simp only [Supports.congr hmethods]
  rw [closure, closure, List.mem_filter, List.mem_filter] at hmem
  simpa only [hknown, true_and, List.contains_iff_mem] using hmem

/-- Two structs that contain each other, an unknown type between them, and one struct that nothing
leads to. -/
def roundStructs : Structs :=
  (∅ : Structs).insert "Group" ⟨"Group", [⟨"Owner", "*User", ""⟩, ⟨"Size", "int", ""⟩], "", ∅⟩
    |>.insert "Lonely" ⟨"Lonely", [⟨"Groups", "[]Group", ""⟩], "", ∅⟩
    |>.insert "User" ⟨"User", [⟨"Groups", "map[string]Group", ""⟩], "", ∅⟩

/-- Two methods that share a type, one of them listed twice. -/
def roundMethods : List Go.Method :=
  [⟨"Create", "UsersApi", "", [⟨"u", "*User"⟩], ["error"], ∅⟩,
    ⟨"Get", "UsersApi", "", [], ["*User", "error"], ∅⟩,
    ⟨"Create", "UsersApi", "", [⟨"u", "*User"⟩], ["error"], ∅⟩]

theorem closure_least_roundStructs :
    "" ∉ roundStructs.keys ∧
      ((roundStructs.closure roundMethods).Nodup ∧
        (∀ name, name ∈ roundStructs.closure roundMethods ↔
          name ∈ roundStructs.keys ∧ ∀ Has, Supports roundStructs roundMethods Has → Has name) ∧
        ∀ methods', (∀ m, m ∈ methods' ↔ m ∈ roundMethods) →
          roundStructs.closure methods' = roundStructs.closure roundMethods) :=
  ⟨by decide, closure_least roundStructs (by decide) roundMethods⟩

end ProviderGlue.Structs
