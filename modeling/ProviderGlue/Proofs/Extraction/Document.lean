import ProviderGlue.Proofs.Go.Spelling
import ProviderGlue.Proofs.Model
import ProviderGlue.Proofs.Shape.Expansion
import ProviderGlue.Text.Numbered

/-!
# Documents of extractions

An extraction is handed on as a document.  Shapes may have as many levels of fields as there are
structs, while readers of documents only follow brackets to a limited depth.  So an extraction with
few structs can always be read back, and one with a long chain of structs cannot.

## Key results

- `listLevels_fieldsBelow_le`: there are no more levels than structs
- `ofCatalog_handedOn`: an extraction is read back exactly if no shape has more than 61 levels
- `ofCatalog_chain_refused`: a chain of 62 structs gives an extraction that is not read back
-/

namespace ProviderGlue

namespace Structs

variable {types : Structs}

/-- The shape of a struct has no more levels than there are structs. -/
theorem listLevels_fieldsBelow_le (types : Structs) (name : String) :
    ShapeField.listLevels (fieldsBelow types [] name) ≤ types.keys.length :=
  ShapeField.listLevels_le _ fun _ _ hf => (placed_of_at hf).length_lt

/-- The package of a shape has nothing to do with its fields. -/
theorem fields_of_shapeOf? {imports : Go.Imports} {type : String} {s : Shape}
    (h : types.shapeOf? imports type = some s) :
    s.fields = fieldsBelow types [] (Go.baseName type) := by
  obtain ⟨shape, hshape, rfl⟩ := Option.map_eq_some_iff.1 h
  have hfields : shape.fields = fieldsBelow types [] (Go.baseName type) := by
    obtain ⟨struct, -, rfl⟩ := Option.map_eq_some_iff.1 hshape
    rfl
  rw [← hfields]
  split
  · rfl
  · split <;> rfl

/-- The shapes of an operation are those of structs. -/
theorem exists_fieldsBelow_of_mem_operation {m : Go.Method} {s : Shape}
    (h : s ∈ (types.operation m).request.toList ++ (types.operation m).response.toList) :
    ∃ name, s.fields = fieldsBelow types [] name := by
  rcases List.mem_append.1 h with h | h
  · obtain ⟨type, -, hshape⟩ := Option.bind_eq_some_iff.1 (Option.mem_toList.1 h)
    exact ⟨_, fields_of_shapeOf? hshape⟩
  · obtain ⟨type, -, hshape⟩ := Option.bind_eq_some_iff.1 (Option.mem_toList.1 h)
    exact ⟨_, fields_of_shapeOf? hshape⟩

end Structs

/-! ## Reading back -/

namespace Extraction

/-- What becomes of an extraction that is handed on as a document. -/
structure HandedOn (e : Extraction) : Prop where
  /-- It is read back unchanged exactly if no shape has more than 61 levels of fields. -/
  readable_iff : Model.read? e.model.text = .ok e.model ↔
    ∀ o ∈ e.model.operations, ∀ s ∈ o.request.toList ++ o.response.toList,
      ShapeField.listLevels s.fields ≤ 61
  /-- Otherwise it is refused. -/
  refused : Model.read? e.model.text ≠ .ok e.model →
    ∃ failure, Model.read? e.model.text = .error failure ∧ failure.category = .serialization
  /-- With at most 61 structs it is always read back. -/
  few_types : e.typeCount ≤ 61 → Model.read? e.model.text = .ok e.model

/-- The shapes of an extraction have no more levels than it has structs. -/
theorem listLevels_le_typeCount (isOperation : MethodTest) (narrowing : Narrowing)
    (package packagePath directory : String) (c : Catalog) {o : ApiOperation}
    (ho : o ∈ (ofCatalog isOperation narrowing package packagePath directory c).model.operations)
    {s : Shape} (hs : s ∈ o.request.toList ++ o.response.toList) :
    ShapeField.listLevels s.fields ≤
      (ofCatalog isOperation narrowing package packagePath directory c).typeCount := by
  obtain ⟨m, -, rfl⟩ := List.mem_map.1 ho
  obtain ⟨name, hfields⟩ := Structs.exists_fieldsBelow_of_mem_operation hs
  rw [hfields]
  exact Structs.listLevels_fieldsBelow_le _ name

/-- **Extractions with few levels survive their documents**: an extraction is read back unchanged
exactly if no shape has more than 61 levels of fields, as is the case if there are no more than 61
structs.  Any other one is refused. -/
theorem ofCatalog_handedOn (isOperation : MethodTest) (narrowing : Narrowing)
    (package packagePath directory : String) (c : Catalog) :
    HandedOn (ofCatalog isOperation narrowing package packagePath directory c) := by
  have hlevels := @listLevels_le_typeCount isOperation narrowing package packagePath directory c
  generalize ofCatalog isOperation narrowing package packagePath directory c = e at hlevels
  have hshallow : (∀ o ∈ e.model.operations, ∀ s ∈ o.request.toList ++ o.response.toList,
      ShapeField.listLevels s.fields ≤ 61) → Model.read? e.model.text = .ok e.model := fun h => by
    have hdepth := Model.depth_toJson_le h
    exact Model.read?_of_depth_le (by omega)
  constructor
  case readable_iff =>
    refine ⟨fun hreadable o ho s hs => ?_, hshallow⟩
    -- more levels would nest too deep to be read
    by_contra hdeep
    have hdepth := Model.two_mul_listLevels_lt ho hs
    have hlt : 127 < e.model.toJson.depth := by omega
    obtain ⟨failure, hfailure, -⟩ := Model.read?_of_lt_depth hlt
    rw [hreadable] at hfailure
    exact nomatch hfailure
  case refused =>
    intro hne
    by_cases hdepth : e.model.toJson.depth ≤ 127
    · exact absurd (Model.read?_of_depth_le hdepth) hne
    · exact Model.read?_of_lt_depth (Nat.not_le.1 hdepth)
  case few_types =>
    intro hcount
    exact hshallow fun o ho s hs => Nat.le_trans (hlevels ho hs) hcount

/-! ## A long chain of structs -/

/-- The name of a struct in a chain. -/
def nodeName (n : Nat) : String := "Node" ++ toString n

/-- A struct with a pointer to the next one. -/
def node (n : Nat) : Go.Struct := ⟨nodeName n, [⟨"Next", "*" ++ nodeName (n + 1), ""⟩], "", ∅⟩

/-- A chain of structs. -/
def chain : (length : Nat) → Structs
  | 0 => ∅
  | n + 1 => (chain n).insert (nodeName n) (node n)

/-- A chain of structs with an operation that returns the first one. -/
def chainCatalog (length : Nat) : Catalog where
  types := chain length
  methods := [⟨"GetNode", "NodesApi", "", [], ["*Node0", "error"], ∅⟩]

theorem nodeName_injective {m n : Nat} (h : nodeName m = nodeName n) : m = n := by
  have htext := congrArg String.toList h
  simp only [nodeName, String.toList_append, List.append_cancel_left_eq] at htext
  exact Text.toString_injective (String.toList_inj.1 htext)

theorem get?_chain (n i : Nat) :
    (chain n).get? (nodeName i) = if i < n then some (node i) else none := by
  induction n with
  | zero => rfl
  | succ n ih =>
    rw [chain, Table.get?_insert, ih]
    by_cases heq : i = n
    · rw [heq, if_pos rfl, if_pos (Nat.lt_succ_self n)]
    · have hname : nodeName i ≠ nodeName n := mt nodeName_injective heq
      have hlt : i < n ↔ i < n + 1 := by omega
      rw [if_neg hname, if_congr hlt rfl rfl]

/-- A pointer to a struct leads to the struct. -/
theorem baseName_nodeName (n : Nat) : Go.baseName ("*" ++ nodeName n) = nodeName n := by
  have hword : ∀ c ∈ (nodeName n).toList, Text.Unicode.isWordChar c = true := by
    rw [nodeName, String.toList_append, List.forall_mem_append]
    refine ⟨List.all_eq_true.1 rfl, fun c hc => Text.Unicode.isWordChar_of_isDigit ?_⟩
    rw [Nat.toString_eq_repr, Nat.toList_repr] at hc
    exact Nat.isDigit_of_mem_toDigits (by decide) (by decide) hc
  have hcons : (nodeName n).toList = 'N' :: ("ode".toList ++ (toString n).toList) := by
    rw [nodeName, String.toList_append]
    rfl
  let name : Go.Identifier :=
    ⟨(nodeName n).toList, by rw [hcons]; exact List.cons_ne_nil _ _, hword, by
      rw [hcons]
      exact fun c hc => by rw [← Option.some.inj hc]; decide⟩
  have htext : ("*" ++ nodeName n).toList = (Go.TypeExpr.pointer (.named none name)).text := by
    rw [String.toList_append]
    rfl
  rw [Go.baseName, htext, Go.TypeExpr.baseName_text]
  exact String.ofList_toList

/-- Each struct of a chain makes one level. -/
theorem listLevels_chain {n : Nat} (k : Nat) {i : Nat} {path : List String} (hk : i + k = n)
    (hpath : ∀ j, i ≤ j → nodeName j ∉ path) :
    ShapeField.listLevels (Structs.fieldsBelow (chain n) path (nodeName i)) = k := by
  induction k generalizing i path with
  | zero =>
    have hget : (chain n).get? (nodeName i) = none := by rw [get?_chain, if_neg (by omega)]
    rw [Structs.fieldsBelow_of_none hget]
    rfl
  | succ k ih =>
    have hget : (chain n).get? (nodeName i) = some (node i) := by rw [get?_chain, if_pos (by omega)]
    have hopen : Structs.openFields (node i) = [⟨"Next", "*" ++ nodeName (i + 1), ""⟩] := by
      have hnext : isReserved "Next" = false := by decide
      rw [Structs.openFields, node, List.filter_cons_of_pos (by simp [hnext]), List.filter_nil]
    -- the names further down the chain are not on the path yet
    have hbehind : ∀ j, i + 1 ≤ j → nodeName j ∉ nodeName i :: path := fun j hj hmem => by
      rcases List.mem_cons.1 hmem with heq | hmem
      · have := nodeName_injective heq
        omega
      · exact hpath j (by omega) hmem
    have hlevels := ih (by omega) hbehind
    rw [Structs.fieldsBelow_of_get? hget (hpath i (Nat.le_refl i)), hopen, List.map_singleton,
      Structs.fieldBelow, baseName_nodeName, ShapeField.listLevels, ShapeField.levels, hlevels,
      ShapeField.listLevels, Nat.max_zero]

/-- **A chain of 62 structs is not read back**: its extraction succeeds, but the document is
refused. -/
theorem ofCatalog_chain_refused :
    ∃ failure, Model.read? (ofCatalog (ownerMentions "api") .all "nodes" "nodes" "api"
      (chainCatalog 62)).model.text = .error failure ∧ failure.category = .serialization := by
  have hselect : select (ownerMentions "api") .all (chainCatalog 62) = (chainCatalog 62).methods := by
    decide +kernel
  have htype : responseType? ["*Node0", "error"] = some ("*" ++ nodeName 0) := by decide +kernel
  have hget : (chain 62).get? (nodeName 0) = some (node 0) := by rw [get?_chain, if_pos (by decide)]
  -- the response is the shape of the first struct
  obtain ⟨s, hs⟩ : ∃ s, (chain 62).shapeOf? ∅ ("*" ++ nodeName 0) = some s := by
    rw [Structs.shapeOf?, baseName_nodeName, Structs.expand?, Structs.expandBelow?, hget]
    exact ⟨_, rfl⟩
  have hlevels : ShapeField.listLevels s.fields = 62 := by
    rw [Structs.fields_of_shapeOf? hs, baseName_nodeName]
    exact listLevels_chain 62 rfl fun _ _ => List.not_mem_nil
  have hoperation : (chain 62).operation ⟨"GetNode", "NodesApi", "", [], ["*Node0", "error"], ∅⟩ ∈
      (ofCatalog (ownerMentions "api") .all "nodes" "nodes" "api"
        (chainCatalog 62)).model.operations := by
    refine List.mem_map.2 ⟨_, ?_, rfl⟩
    rw [hselect]
    exact List.mem_singleton.2 rfl
  have hresponse : s ∈ ((chain 62).operation
      ⟨"GetNode", "NodesApi", "", [], ["*Node0", "error"], ∅⟩).response.toList := by
    rw [Option.mem_toList, Structs.operation]
    show (responseType? ["*Node0", "error"]).bind ((chain 62).shapeOf? ∅) = some s
    rw [htype]
    exact hs
  have hdepth := Model.two_mul_listLevels_lt hoperation (List.mem_append_right _ hresponse)
  exact Model.read?_of_lt_depth (by omega)

end Extraction

end ProviderGlue
