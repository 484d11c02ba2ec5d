import ProviderGlue.Model
import ProviderGlue.Proofs.Json.Layout
import ProviderGlue.Proofs.Shape.Field

/-!
# Models survive their documents

A model is written as a document and read back unchanged: members that are left out are those that
a reader fills in with the same value.  Only the depth of the fields is limited, as readers refuse
brackets that nest too deep.

## Key results

- `Model.ofJson_toJson`: the value of a model determines it
- `Model.holds_toJson`: the value of a model has the layout of a model document
- `Model.read?_text`: what reading the text of a model gives
-/

namespace ProviderGlue

open Json (Value)

namespace ModelRecord

/-! ## Optional members -/

@[simp] theorem lookup_unlessEmpty_self (isEmpty : Bool) (key : String) (v : Value) :
    (unlessEmpty isEmpty key v).lookup key = if isEmpty then none else some v := by
  cases isEmpty
  · exact List.lookup_cons_self
  · rfl

@[simp] theorem lookup_unlessEmpty_ne (isEmpty : Bool) {key key' : String} (v : Value)
    (h : key' ≠ key) : (unlessEmpty isEmpty key v).lookup key' = none := by
  cases isEmpty
  · show List.lookup key' [(key, v)] = none
    rw [List.lookup_cons, beq_eq_false_iff_ne.2 h]
    rfl
  · rfl

@[simp] theorem lookup_ifSome_self (key : String) (v : Option Value) :
    (ifSome key v).lookup key = v := by
  cases v
  · rfl
  · exact List.lookup_cons_self

@[simp] theorem lookup_ifSome_ne {key key' : String} (v : Option Value) (h : key' ≠ key) :
    (ifSome key v).lookup key' = none := by
  cases v
  · rfl
  · show List.lookup key' [(key, _)] = none
    rw [List.lookup_cons, beq_eq_false_iff_ne.2 h]
    rfl

theorem keys_unlessEmpty_sublist (isEmpty : Bool) (key : String) (v : Value) :
    ((unlessEmpty isEmpty key v).map (·.1)).Sublist [key] := by
  cases isEmpty
  · exact List.Sublist.refl [key]
  · exact List.nil_sublist [key]

theorem keys_ifSome_sublist (key : String) (v : Option Value) :
    ((ifSome key v).map (·.1)).Sublist [key] := by
  cases v
  · exact List.nil_sublist [key]
  · exact List.Sublist.refl [key]

@[simp] theorem lookup_importMembers_alias (importAlias importPath : Option String) :
    (importMembers importAlias importPath).lookup "import_alias" = importAlias.map .text := by
  rw [importMembers, List.lookup_append, lookup_ifSome_self, lookup_ifSome_ne _ (by decide),
    Option.or_none]

@[simp] theorem lookup_importMembers_path (importAlias importPath : Option String) :
    (importMembers importAlias importPath).lookup "import_path" = importPath.map .text := by
  rw [importMembers, List.lookup_append, lookup_ifSome_self, lookup_ifSome_ne _ (by decide),
    Option.none_or]

@[simp] theorem lookup_importMembers_ne (importAlias importPath : Option String) {key : String}
    (halias : key ≠ "import_alias") (hpath : key ≠ "import_path") :
    (importMembers importAlias importPath).lookup key = none := by
  rw [importMembers, List.lookup_append, lookup_ifSome_ne _ halias, lookup_ifSome_ne _ hpath]
  rfl

end ModelRecord

namespace Json.Value

variable {v : Value} {key : String}

/-! ## Defaults -/

theorem textAt_of_get? {s : String} (h : v.get? key = some (.text s)) : v.textAt key = s := by
  rw [textAt, textAt?, h]
  rfl

theorem textAt?_of_get? {s : Option String} (h : v.get? key = s.map .text) : v.textAt? key = s := by
  rw [textAt?, h]
  cases s <;> rfl

/-- An empty text is the default. -/
theorem textAt_of_unlessEmpty {s : String}
    (h : v.get? key = if s.isEmpty then none else some (.text s)) : v.textAt key = s := by
  rw [textAt, textAt?, h]
  cases hs : s.isEmpty with
  | true =>
    rw [String.isEmpty_iff.1 hs]
    rfl
  | false => rfl

/-- A false flag is the default. -/
theorem flagAt_of_unlessFalse {b : Bool}
    (h : v.get? key = if ! b then none else some (.flag b)) : v.flagAt key = b := by
  rw [flagAt, h]
  cases b <;> rfl

theorem wordAt_of_get? {i : Int64} (h : v.get? key = some (.word i)) : v.wordAt key = i := by
  rw [wordAt, h]

theorem itemsAt_of_get? {vs : List Value} (h : v.get? key = some (.list vs)) :
    v.itemsAt key = vs := by
  rw [itemsAt, h]
  rfl

/-- An empty list is the default. -/
theorem itemsAt_of_unlessEmpty {b : Bool} {vs : List Value}
    (h : v.get? key = if b then none else some (.list vs)) (hvs : b = true → vs = []) :
    v.itemsAt key = vs := by
  rw [itemsAt, h]
  cases b with
  | true =>
    rw [hvs rfl]
    rfl
  | false => rfl

theorem objectAt?_of_get? {o : Option Value} (h : v.get? key = o)
    (hobject : ∀ w ∈ o, ∃ ms, w = .object ms) : v.objectAt? key = o := by
  rw [objectAt?, h]
  cases o with
  | none => rfl
  | some w =>
    obtain ⟨ms, rfl⟩ := hobject w rfl
    rfl

end Json.Value

open Json.Value

/-! ## Values determine what they are made from -/

/-- Items that are read one by one give back what they were made from. -/
theorem map_map_of_leftInverse {α : Type} {toJson : α → Value} {ofJson : Value → α}
    (h : ∀ a, ofJson (toJson a) = a) (as : List α) : (as.map toJson).map ofJson = as := by
  rw [List.map_map]
  exact (List.map_congr_left fun a _ => h a).trans (List.map_id as)

/-- The value of a parameter determines it. -/
theorem Go.Parameter.ofJson_toJson (p : Go.Parameter) : ofJson p.toJson = p := by
  rw [ofJson, textAt_of_get? (s := p.name) rfl, textAt_of_get? (s := p.type) rfl]

namespace ShapeField

theorem ofJson_eq (v : Value) :
    ofJson v =
      { name := v.textAt "name"
        type := v.textAt "type"
        tag := v.textAt "tag"
        isComposite := v.flagAt "is_struct"
        children := (v.itemsAt "fields").map ofJson
        importAlias := v.textAt? "import_alias"
        importPath := v.textAt? "import_path" } := by
  rw [ofJson]
  simp only [List.map_attach_eq_pmap, List.pmap_eq_map]

theorem listToJson_eq_map (fs : List ShapeField) : listToJson fs = fs.map toJson := by
  induction fs with
  | nil => rfl
  | cons f fs ih => rw [listToJson, ih, List.map_cons]

mutual

/-- The value of a field determines it, with all fields below it. -/
theorem ofJson_toJson : (f : ShapeField) → ofJson f.toJson = f
  | ⟨name, type, tag, isComposite, children, importAlias, importPath⟩ => by
    -- fields that are left out are no fields
    have hchildren : itemsAt "fields" (toJson
        ⟨name, type, tag, isComposite, children, importAlias, importPath⟩) =
          listToJson children := by
      refine itemsAt_of_unlessEmpty (b := children.isEmpty) ?_ fun hempty => ?_
      · simp [toJson, get?, List.lookup_append, List.lookup_cons]
      · rw [List.isEmpty_iff.1 hempty, listToJson]
    rw [ofJson_eq, hchildren, map_ofJson_listToJson children, mk.injEq]
    refine ⟨textAt_of_get? ?_, textAt_of_get? ?_, textAt_of_unlessEmpty ?_,
      flagAt_of_unlessFalse ?_, rfl, textAt?_of_get? ?_, textAt?_of_get? ?_⟩
    all_goals simp [toJson, get?, List.lookup_append, List.lookup_cons]

theorem map_ofJson_listToJson : (fs : List ShapeField) → (listToJson fs).map ofJson = fs
  | [] => rfl
  | f :: fs => by
    rw [listToJson, List.map_cons, ofJson_toJson f, map_ofJson_listToJson fs]

end

end ShapeField

/-- The value of a shape determines it. -/
theorem Shape.ofJson_toJson (s : Shape) : ofJson s.toJson = s := by
  have hfields : itemsAt "fields" s.toJson = s.fields.map ShapeField.toJson := by
    refine itemsAt_of_get? ?_
    simp [toJson, get?, List.lookup_append, List.lookup_cons]
  rw [ofJson, hfields, map_map_of_leftInverse ShapeField.ofJson_toJson]
  obtain ⟨name, type, file, fields, importAlias, importPath⟩ := s
  rw [mk.injEq]
  refine ⟨textAt_of_get? ?_, textAt_of_get? ?_, textAt_of_unlessEmpty ?_, rfl,
    textAt?_of_get? ?_, textAt?_of_get? ?_⟩
  all_goals simp [toJson, get?, List.lookup_append, List.lookup_cons]

/-- The value of a method determines it. -/
theorem ApiMethod.ofJson_toJson (m : ApiMethod) : ofJson m.toJson = m := by
  rw [ofJson, textAt_of_get? (s := m.name) rfl, textAt_of_get? (s := m.owner) rfl,
    textAt_of_get? (s := m.file) rfl, itemsAt_of_get? rfl,
    map_map_of_leftInverse Go.Parameter.ofJson_toJson]

theorem Variant.ofJson_toJson (x : Variant) : ofJson x.toJson = x := by
  rw [ofJson, textAt_of_get? (s := x.name) rfl, wordAt_of_get? (i := x.ordinal) rfl]

/-- The value of an enumeration determines it. -/
theorem Enumeration.ofJson_toJson (e : Enumeration) : ofJson e.toJson = e := by
  have hvariants : itemsAt "variants" e.toJson = e.variants.map Variant.toJson := by
    refine itemsAt_of_get? ?_
    simp [toJson, get?, List.lookup_append, List.lookup_cons]
  rw [ofJson, hvariants, map_map_of_leftInverse Variant.ofJson_toJson]
  obtain ⟨name, file, variants⟩ := e
  rw [mk.injEq]
  refine ⟨textAt_of_get? rfl, textAt_of_unlessEmpty ?_, rfl⟩
  simp [toJson, get?, List.lookup_append, List.lookup_cons]

/-- The value of an operation determines it. -/
theorem ApiOperation.ofJson_toJson (o : ApiOperation) : ofJson o.toJson = o := by
  -- a shape is only looked for under its key if its value is an object, which it is
  have hshape : ∀ {s : Option Shape}, ∀ w ∈ s.map Shape.toJson, ∃ ms, w = .object ms := by
    intro s w hw
    obtain ⟨s, -, rfl⟩ := Option.map_eq_some_iff.1 hw
    exact ⟨_, rfl⟩
  have hrequest : objectAt? "request_struct" o.toJson = o.request.map Shape.toJson := by
    refine objectAt?_of_get? ?_ hshape
    simp [toJson, get?, List.lookup_append, List.lookup_cons]
  have hresponse : objectAt? "response_struct" o.toJson = o.response.map Shape.toJson := by
    refine objectAt?_of_get? ?_ hshape
    simp [toJson, get?, List.lookup_append, List.lookup_cons]
  have hmethod : objectAt? "api_method" o.toJson = some o.method.toJson := by
    refine objectAt?_of_get? rfl fun w hw => ?_
    exact ⟨_, (Option.some.inj hw).symm⟩
  have hid : Shape.ofJson ∘ Shape.toJson = id := funext Shape.ofJson_toJson
  rw [ofJson, hmethod, hrequest, hresponse, Option.map_some, Option.getD_some,
    ApiMethod.ofJson_toJson, Option.map_map, Option.map_map, hid, Option.map_id, id, id]

/-- **The value of a model determines it**, with every member that may be left out. -/
theorem Model.ofJson_toJson (m : Model) : ofJson m.toJson = m := by
  have henums : itemsAt "enums" m.toJson = m.enums.map Enumeration.toJson := by
    refine itemsAt_of_unlessEmpty (b := m.enums.isEmpty) ?_ fun hempty => ?_
    · simp [toJson, get?, List.lookup_cons]
    · rw [List.isEmpty_iff.1 hempty, List.map_nil]
  have hoperations : itemsAt "api_request_response_struct" m.toJson =
      m.operations.map ApiOperation.toJson := itemsAt_of_get? rfl
  rw [ofJson, henums, hoperations, map_map_of_leftInverse Enumeration.ofJson_toJson,
    map_map_of_leftInverse ApiOperation.ofJson_toJson, textAt_of_get? (s := m.package) rfl,
    textAt_of_get? (s := m.packagePath) rfl]

/-! ## Values have the layout of a model document -/

namespace ModelRecord

/-- No record of the layout has two members of one name. -/
theorem nodup_keys (kind : ModelRecord) : ((layout.members kind).map (·.key)).Nodup := by
  cases kind <;> decide

/-- The members of a record stand in the order of the layout. -/
theorem holds_object {kind : ModelRecord} {ms : List (String × Value)}
    (hkeys : (ms.map (·.1)).Sublist ((layout.members kind).map (·.key)))
    (hrequired : ∀ m ∈ layout.members kind, m.required = true → m.key ∈ ms.map (·.1))
    (hms : layout.MembersHold kind ms) : layout.Holds (.record kind) (.object ms) :=
  ⟨hkeys.nodup (nodup_keys kind), hrequired, hms⟩

theorem membersHold_append {kind : ModelRecord} {as bs : List (String × Value)}
    (has : layout.MembersHold kind as) (hbs : layout.MembersHold kind bs) :
    layout.MembersHold kind (as ++ bs) := by
  induction as with
  | nil => exact hbs
  | cons a as ih => exact ⟨has.1, ih has.2⟩

theorem membersHold_unlessEmpty {kind : ModelRecord} (isEmpty : Bool) {key : String} {v : Value}
    (h : ∃ m, (layout.members kind).find? (·.key == key) = some m ∧ layout.Holds m.content v) :
    layout.MembersHold kind (unlessEmpty isEmpty key v) := by
  cases isEmpty
  · exact ⟨h, trivial⟩
  · exact trivial

theorem membersHold_ifSome {kind : ModelRecord} {key : String} {v : Option Value}
    (h : ∀ w ∈ v, ∃ m, (layout.members kind).find? (·.key == key) = some m ∧
      layout.Holds m.content w) :
    layout.MembersHold kind (ifSome key v) := by
  cases v with
  | none => exact trivial
  | some w => exact ⟨h w rfl, trivial⟩

theorem listHolds_map {α : Type} {item : ModelRecord} {toJson : α → Value}
    (h : ∀ a, layout.Holds (.record item) (toJson a)) (as : List α) :
    layout.ListHolds item (as.map toJson) := by
  induction as with
  | nil => exact trivial
  | cons a as ih => exact ⟨h a, ih⟩

theorem keys_importMembers_sublist (importAlias importPath : Option String) :
    ((importMembers importAlias importPath).map (·.1)).Sublist ["import_alias", "import_path"] := by
  rw [importMembers, List.map_append]
  exact (keys_ifSome_sublist _ _).append (keys_ifSome_sublist _ _)

/-- The members for the package of a type belong to fields and to shapes. -/
theorem membersHold_importMembers {kind : ModelRecord} (hkind : kind = .field ∨ kind = .shape)
    (importAlias importPath : Option String) :
    layout.MembersHold kind (importMembers importAlias importPath) := by
  have htext : ∀ {s : Option String}, ∀ w ∈ s.map Value.text, layout.Holds .text w := by
    intro s w hw
    obtain ⟨s, -, rfl⟩ := Option.map_eq_some_iff.1 hw
    exact trivial
  rcases hkind with rfl | rfl
  · exact membersHold_append (membersHold_ifSome fun w hw => ⟨_, rfl, htext w hw⟩)
      (membersHold_ifSome fun w hw => ⟨_, rfl, htext w hw⟩)
  · exact membersHold_append (membersHold_ifSome fun w hw => ⟨_, rfl, htext w hw⟩)
      (membersHold_ifSome fun w hw => ⟨_, rfl, htext w hw⟩)

end ModelRecord

open ModelRecord

theorem Go.Parameter.holds_toJson (p : Go.Parameter) :
    layout.Holds (.record .parameter) p.toJson :=
  holds_object (List.Sublist.refl _) (by simp [layout, members, ModelRecord.text])
    ⟨⟨_, rfl, trivial⟩, ⟨_, rfl, trivial⟩, trivial⟩

theorem ApiMethod.holds_toJson (m : ApiMethod) : layout.Holds (.record .method) m.toJson :=
  holds_object (List.Sublist.refl _) (by simp [layout, members, ModelRecord.text])
    ⟨⟨_, rfl, trivial⟩, ⟨_, rfl, trivial⟩, ⟨_, rfl, trivial⟩,
      ⟨_, rfl, listHolds_map Go.Parameter.holds_toJson m.params⟩, trivial⟩

theorem Variant.holds_toJson (x : Variant) : layout.Holds (.record .variant) x.toJson :=
  holds_object (List.Sublist.refl _) (by simp [layout, members, ModelRecord.text])
    ⟨⟨_, rfl, trivial⟩, ⟨_, rfl, trivial⟩, trivial⟩

theorem Enumeration.holds_toJson (e : Enumeration) :
    layout.Holds (.record .enumeration) e.toJson := by
  refine holds_object ?_ ?_ ?_
  · simp only [List.map_append]
    exact ((List.Sublist.refl ["name"]).append (keys_unlessEmpty_sublist _ _ _)).append
      (List.Sublist.refl ["variants"])
  · simp [layout, members, ModelRecord.text]
  · refine membersHold_append (membersHold_append ⟨⟨_, rfl, trivial⟩, trivial⟩ ?_) ?_
    · exact membersHold_unlessEmpty _ ⟨_, rfl, trivial⟩
    · exact ⟨⟨_, rfl, listHolds_map Variant.holds_toJson e.variants⟩, trivial⟩

namespace ShapeField

mutual

theorem holds_toJson : (f : ShapeField) → layout.Holds (.record .field) f.toJson
  | ⟨name, type, tag, isComposite, children, importAlias, importPath⟩ => by
    have hchildren := listHolds_listToJson children
    rw [toJson]
    refine holds_object ?_ ?_ ?_
    · simp only [List.map_append]
      exact ((((List.Sublist.refl ["name", "type"]).append (keys_unlessEmpty_sublist _ _ _)).append
        (keys_unlessEmpty_sublist _ _ _)).append (keys_unlessEmpty_sublist _ _ _)).append
        (keys_importMembers_sublist _ _)
    · simp [layout, members, ModelRecord.text, nullableText]
    · have hnames : layout.MembersHold .field [("name", .text name), ("type", .text type)] :=
        ⟨⟨_, rfl, trivial⟩, ⟨_, rfl, trivial⟩, trivial⟩
      exact membersHold_append (membersHold_append (membersHold_append (membersHold_append hnames
        (membersHold_unlessEmpty _ ⟨_, rfl, trivial⟩))
        (membersHold_unlessEmpty _ ⟨_, rfl, trivial⟩))
        (membersHold_unlessEmpty _ ⟨_, rfl, hchildren⟩))
        (membersHold_importMembers (.inl rfl) _ _)

theorem listHolds_listToJson : (fs : List ShapeField) → layout.ListHolds .field (listToJson fs)
  | [] => trivial
  | f :: fs => ⟨holds_toJson f, listHolds_listToJson fs⟩

end

end ShapeField

theorem Shape.holds_toJson (s : Shape) : layout.Holds (.record .shape) s.toJson := by
  refine holds_object ?_ ?_ ?_
  · simp only [List.map_append]
    exact (((List.Sublist.refl ["name", "type"]).append (keys_unlessEmpty_sublist _ _ _)).append
      (List.Sublist.refl ["fields"])).append (keys_importMembers_sublist _ _)
  · simp [layout, members, ModelRecord.text, nullableText]
  · have hnames : layout.MembersHold .shape [("name", .text s.name), ("type", .text s.type)] :=
      ⟨⟨_, rfl, trivial⟩, ⟨_, rfl, trivial⟩, trivial⟩
    have hfields : layout.MembersHold .shape
        [("fields", .list (s.fields.map ShapeField.toJson))] :=
      ⟨⟨_, rfl, listHolds_map ShapeField.holds_toJson s.fields⟩, trivial⟩
    exact membersHold_append (membersHold_append (membersHold_append hnames
      (membersHold_unlessEmpty _ ⟨_, rfl, trivial⟩)) hfields)
      (membersHold_importMembers (.inr rfl) _ _)

theorem ApiOperation.holds_toJson (o : ApiOperation) :
    layout.Holds (.record .operation) o.toJson := by
  have hshape : ∀ {s : Option Shape}, ∀ w ∈ s.map Shape.toJson,
      layout.Holds (.record .shape) w := by
    intro s w hw
    obtain ⟨s, -, rfl⟩ := Option.map_eq_some_iff.1 hw
    exact s.holds_toJson
  refine holds_object ?_ ?_ ?_
  · simp only [List.map_append]
    exact ((List.Sublist.refl ["api_method"]).append (keys_ifSome_sublist _ _)).append
      (keys_ifSome_sublist _ _)
  · simp [layout, members]
  · exact membersHold_append (membersHold_append
      ⟨⟨_, rfl, o.method.holds_toJson⟩, trivial⟩
      (membersHold_ifSome fun w hw => ⟨_, rfl, hshape w hw⟩))
      (membersHold_ifSome fun w hw => ⟨_, rfl, hshape w hw⟩)

/-- The value of a model has the layout of a model document. -/
theorem Model.holds_toJson (m : Model) : layout.Holds (.record .model) m.toJson := by
  refine holds_object ?_ ?_ ?_
  · simp only [List.map_append]
    exact (List.Sublist.refl ["package", "package_path", "api_request_response_struct"]).append
      (keys_unlessEmpty_sublist _ _ _)
  · simp [layout, members, ModelRecord.text]
  · have hrequired : layout.MembersHold .model [("package", .text m.package),
        ("package_path", .text m.packagePath),
        ("api_request_response_struct", .list (m.operations.map ApiOperation.toJson))] :=
      ⟨⟨_, rfl, trivial⟩, ⟨_, rfl, trivial⟩,
        ⟨_, rfl, listHolds_map ApiOperation.holds_toJson m.operations⟩, trivial⟩
    exact membersHold_append hrequired
      (membersHold_unlessEmpty _ ⟨_, rfl, listHolds_map Enumeration.holds_toJson m.enums⟩)

/-! ## Levels of fields and depth of brackets -/

namespace ModelRecord

theorem membersDepth_append (as bs : List (String × Value)) :
    membersDepth (as ++ bs) = max (membersDepth as) (membersDepth bs) := by
  induction as with
  | nil => rw [List.nil_append, membersDepth, Nat.zero_max]
  | cons a as ih => rw [List.cons_append, membersDepth, membersDepth, ih, Nat.max_assoc]

theorem membersDepth_unlessEmpty_le (isEmpty : Bool) (key : String) (v : Value) :
    membersDepth (unlessEmpty isEmpty key v) ≤ v.depth := by
  cases isEmpty
  · exact Nat.max_le.2 ⟨Nat.le_refl _, Nat.zero_le _⟩
  · exact Nat.zero_le _

theorem membersDepth_ifSome_le {key : String} {v : Option Value} {n : Nat}
    (h : ∀ w ∈ v, w.depth ≤ n) : membersDepth (ifSome key v) ≤ n := by
  cases v with
  | none => exact Nat.zero_le n
  | some w => exact Nat.max_le.2 ⟨h w rfl, Nat.zero_le n⟩

theorem membersDepth_importMembers (importAlias importPath : Option String) :
    membersDepth (importMembers importAlias importPath) = 0 := by
  cases importAlias <;> cases importPath <;> rfl

theorem itemsDepth_map_le {α : Type} {toJson : α → Value} {n : Nat} {as : List α}
    (h : ∀ a ∈ as, (toJson a).depth ≤ n) : itemsDepth (as.map toJson) ≤ n := by
  induction as with
  | nil => exact Nat.zero_le n
  | cons a as ih =>
    obtain ⟨ha, has⟩ := List.forall_mem_cons.1 h
    exact Nat.max_le.2 ⟨ha, ih has⟩

end ModelRecord

namespace ShapeField

mutual

/-- A field takes one bracket, and two more for each level below it. -/
theorem depth_toJson_lt : (f : ShapeField) → f.toJson.depth < 2 * f.levels
  | ⟨name, type, tag, isComposite, children, importAlias, importPath⟩ => by
    have hchildren := itemsDepth_listToJson_le children
    have htag : membersDepth (unlessEmpty tag.isEmpty "tag" (.text tag)) ≤ 0 :=
      membersDepth_unlessEmpty_le _ _ _
    have hflag : membersDepth (unlessEmpty (! isComposite) "is_struct" (.flag isComposite)) ≤ 0 :=
      membersDepth_unlessEmpty_le _ _ _
    have hfields : membersDepth (unlessEmpty children.isEmpty "fields"
        (.list (listToJson children))) ≤ 2 * listLevels children := by
      cases children with
      | nil => exact Nat.zero_le _
      | cons c cs =>
        -- the list around the fields takes a bracket of its own
        have hle := membersDepth_unlessEmpty_le false "fields" (.list (listToJson (c :: cs)))
        have hpos : 0 < listLevels (c :: cs) := listLevels_pos c cs
        rw [depth] at hle
        show membersDepth (unlessEmpty false "fields" (.list (listToJson (c :: cs)))) ≤ _
        omega
    rw [toJson, depth, levels, membersDepth_append, membersDepth_append, membersDepth_append,
      membersDepth_append, membersDepth_importMembers]
    -- name and type, tag, flag, fields and package, one after the other
    show max (max (max (max 0 _) _) _) 0 + 1 < _
    omega

/-- The last level of fields takes one bracket, each other one takes two. -/
theorem itemsDepth_listToJson_le : (fs : List ShapeField) →
    itemsDepth (listToJson fs) ≤ 2 * listLevels fs - 1
  | [] => Nat.zero_le _
  | f :: fs => by
    have hf := depth_toJson_lt f
    have hfs := itemsDepth_listToJson_le fs
    rw [listToJson, itemsDepth, listLevels]
    omega

end

end ShapeField

/-- Two brackets stand around the fields of a shape. -/
theorem Shape.depth_toJson_le {s : Shape} {n : Nat} (h : ShapeField.listLevels s.fields ≤ n) :
    s.toJson.depth ≤ max 2 (2 * n + 1) := by
  have hfields := ShapeField.itemsDepth_listToJson_le s.fields
  have hfile : membersDepth (unlessEmpty s.file.isEmpty "file" (.text s.file)) ≤ 0 :=
    membersDepth_unlessEmpty_le _ _ _
  rw [ShapeField.listToJson_eq_map] at hfields
  rw [toJson, depth, membersDepth_append, membersDepth_append, membersDepth_append,
    membersDepth_importMembers]
  show max (max (max 0 _) (max (itemsDepth (s.fields.map ShapeField.toJson) + 1) 0)) 0 + 1 ≤ _
  omega

theorem ApiMethod.depth_toJson_le (m : ApiMethod) : m.toJson.depth ≤ 3 := by
  have hparams : itemsDepth (m.params.map Go.Parameter.toJson) ≤ 1 :=
    itemsDepth_map_le fun p _ => Nat.le_refl 1
  show max 0 (max 0 (max 0 (max (itemsDepth (m.params.map Go.Parameter.toJson) + 1) 0))) + 1 ≤ 3
  omega

theorem Enumeration.depth_toJson_le (e : Enumeration) : e.toJson.depth ≤ 3 := by
  have hvariants : itemsDepth (e.variants.map Variant.toJson) ≤ 1 :=
    itemsDepth_map_le fun x _ => Nat.le_refl 1
  have hfile : membersDepth (unlessEmpty e.file.isEmpty "file" (.text e.file)) ≤ 0 :=
    membersDepth_unlessEmpty_le _ _ _
  rw [toJson, depth, membersDepth_append, membersDepth_append]
  show max (max 0 _) (max (itemsDepth (e.variants.map Variant.toJson) + 1) 0) + 1 ≤ 3
  omega

/-- One bracket stands around the shapes of an operation. -/
theorem ApiOperation.depth_toJson_le {o : ApiOperation} {n : Nat}
    (h : ∀ s ∈ o.request.toList ++ o.response.toList, ShapeField.listLevels s.fields ≤ n) :
    o.toJson.depth ≤ max 4 (2 * n + 2) := by
  have hshape : ∀ {s : Option Shape}, s.toList ⊆ o.request.toList ++ o.response.toList →
      ∀ w ∈ s.map Shape.toJson, w.depth ≤ max 2 (2 * n + 1) := by
    intro s hs w hw
    obtain ⟨s, rfl, rfl⟩ := Option.map_eq_some_iff.1 hw
    exact Shape.depth_toJson_le (h s (hs List.mem_cons_self))
  have hrequest : membersDepth (ifSome "request_struct" (o.request.map Shape.toJson)) ≤
      max 2 (2 * n + 1) := membersDepth_ifSome_le (hshape (List.subset_append_left _ _))
  have hresponse : membersDepth (ifSome "response_struct" (o.response.map Shape.toJson)) ≤
      max 2 (2 * n + 1) := membersDepth_ifSome_le (hshape (List.subset_append_right _ _))
  have hmethod := o.method.depth_toJson_le
  rw [toJson, depth, membersDepth_append, membersDepth_append]
  show max (max (max o.method.toJson.depth 0) _) _ + 1 ≤ _
  omega

/-- Four brackets stand around the fields of a model, and each level takes two. -/
theorem Model.depth_toJson_le {m : Model} {n : Nat}
    (h : ∀ o ∈ m.operations, ∀ s ∈ o.request.toList ++ o.response.toList,
      ShapeField.listLevels s.fields ≤ n) :
    m.toJson.depth ≤ max 6 (2 * n + 4) := by
  have hoperations : itemsDepth (m.operations.map ApiOperation.toJson) ≤ max 4 (2 * n + 2) :=
    itemsDepth_map_le fun o ho => ApiOperation.depth_toJson_le (h o ho)
  have henums : itemsDepth (m.enums.map Enumeration.toJson) ≤ 3 :=
    itemsDepth_map_le fun e _ => e.depth_toJson_le
  have hmember : membersDepth (unlessEmpty m.enums.isEmpty "enums"
      (.list (m.enums.map Enumeration.toJson))) ≤
        itemsDepth (m.enums.map Enumeration.toJson) + 1 := membersDepth_unlessEmpty_le _ _ _
  rw [toJson, depth, membersDepth_append]
  show max (max 0 (max 0 (max (itemsDepth (m.operations.map ApiOperation.toJson) + 1) 0))) _ + 1 ≤ _
  omega

/-! ### Bounds from below -/

namespace ModelRecord

theorem depth_le_itemsDepth {v : Value} {vs : List Value} (h : v ∈ vs) :
    v.depth ≤ itemsDepth vs := by
  induction vs with
  | nil => exact absurd h List.not_mem_nil
  | cons w vs ih =>
    rw [itemsDepth]
    rcases List.mem_cons.1 h with rfl | h
    · exact Nat.le_max_left _ _
    · exact Nat.le_trans (ih h) (Nat.le_max_right _ _)

theorem depth_le_membersDepth {key : String} {v : Value} {ms : List (String × Value)}
    (h : (key, v) ∈ ms) : v.depth ≤ membersDepth ms := by
  induction ms with
  | nil => exact absurd h List.not_mem_nil
  | cons m ms ih =>
    rw [membersDepth]
    rcases List.mem_cons.1 h with rfl | h
    · exact Nat.le_max_left _ _
    · exact Nat.le_trans (ih h) (Nat.le_max_right _ _)

/-- What a member holds nests one less deep than the object. -/
theorem depth_lt_object {key : String} {v : Value} {ms : List (String × Value)}
    (h : (key, v) ∈ ms) : v.depth < (Value.object ms).depth :=
  Nat.lt_succ_of_le (depth_le_membersDepth h)

end ModelRecord

namespace ShapeField

mutual

/-- Each level but the last takes two brackets. -/
theorem two_mul_levels_le : (f : ShapeField) → 2 * f.levels ≤ f.toJson.depth + 1
  | ⟨name, type, tag, isComposite, [], importAlias, importPath⟩ => by
    rw [levels, listLevels, toJson, depth]
    omega
  | ⟨name, type, tag, isComposite, c :: cs, importAlias, importPath⟩ => by
    have hfields := two_mul_listLevels_le (c :: cs)
    have hlt : (Value.list (listToJson (c :: cs))).depth <
        (toJson ⟨name, type, tag, isComposite, c :: cs, importAlias, importPath⟩).depth := by
      rw [toJson]
      exact depth_lt_object
        (List.mem_append_left _ (List.mem_append_right _ (List.mem_singleton.2 rfl)))
    rw [depth] at hlt
    rw [levels]
    omega

theorem two_mul_listLevels_le : (fs : List ShapeField) →
    2 * listLevels fs ≤ itemsDepth (listToJson fs) + 1
  | [] => Nat.zero_le _
  | f :: fs => by
    have hf := two_mul_levels_le f
    have hfs := two_mul_listLevels_le fs
    rw [listLevels, listToJson, itemsDepth]
    omega

end

end ShapeField

/-- A model nests at least as deep as the fields of its shapes ask for. -/
theorem Model.two_mul_listLevels_lt {m : Model} {o : ApiOperation} (ho : o ∈ m.operations)
    {s : Shape} (hs : s ∈ o.request.toList ++ o.response.toList) :
    2 * ShapeField.listLevels s.fields + 3 < m.toJson.depth := by
  have hfields := ShapeField.two_mul_listLevels_le s.fields
  rw [ShapeField.listToJson_eq_map] at hfields
  -- from the fields outwards: shape, operation, list of operations, model
  have hshape : (Value.list (s.fields.map ShapeField.toJson)).depth < s.toJson.depth :=
    @depth_lt_object "fields" _ _
      (List.mem_append_left _ (List.mem_append_right _ (List.mem_singleton.2 rfl)))
  have hoperation : s.toJson.depth < o.toJson.depth := by
    rcases List.mem_append.1 hs with hs | hs
    · rw [Option.mem_toList] at hs
      refine @depth_lt_object "request_struct" _ _
        (List.mem_append_left _ (List.mem_append_right _ ?_))
      rw [hs]
      exact List.mem_singleton.2 rfl
    · rw [Option.mem_toList] at hs
      refine @depth_lt_object "response_struct" _ _ (List.mem_append_right _ ?_)
      rw [hs]
      exact List.mem_singleton.2 rfl
  have hoperations : o.toJson.depth ≤ itemsDepth (m.operations.map ApiOperation.toJson) :=
    depth_le_itemsDepth (List.mem_map_of_mem ho)
  have hmodel : (Value.list (m.operations.map ApiOperation.toJson)).depth < m.toJson.depth :=
    @depth_lt_object "api_request_response_struct" _ _
      (List.mem_append_left _ (by simp))
  rw [depth] at hshape hmodel
  omega

/-! ## Round trips -/

namespace Model

/-- A model that does not nest too deep is read back. -/
theorem read?_of_depth_le {m : Model} (h : m.toJson.depth ≤ 127) : read? m.text = .ok m := by
  have hread := (layout.read_pretty m.holds_toJson).ok h
  rw [read?, text, hread]
  exact congrArg Except.ok m.ofJson_toJson

/-- A model that nests too deep is refused. -/
theorem read?_of_lt_depth {m : Model} (h : 127 < m.toJson.depth) :
    ∃ failure, read? m.text = .error failure ∧ failure.category = .serialization := by
  obtain ⟨fault, hfault, -⟩ := (layout.read_pretty m.holds_toJson).error (Nat.not_le.2 h)
  exact ⟨.model m.text fault, by rw [read?, text, hfault], rfl⟩

/-- **Models survive their documents**: the text of a model is read back as the model if its
brackets nest at most 127 deep, which they do if no shape has more than 61 levels of fields.
Otherwise it is refused. -/
theorem read?_text (m : Model) :
    (m.toJson.depth ≤ 127 → read? m.text = .ok m) ∧
      (127 < m.toJson.depth →
        ∃ failure, read? m.text = .error failure ∧ failure.category = .serialization) ∧
      ((∀ o ∈ m.operations, ∀ s ∈ o.request.toList ++ o.response.toList,
        ShapeField.listLevels s.fields ≤ 61) → m.toJson.depth ≤ 127) := by
  refine ⟨read?_of_depth_le, read?_of_lt_depth, fun hlevels => ?_⟩
  have hdepth := depth_toJson_le hlevels
  omega

/-- Fields that stand one below the other. -/
def fieldChain : (levels : Nat) → List ShapeField
  | 0 => []
  | n + 1 => [{ name := "Next", type := "*Node", isComposite := true, children := fieldChain n }]

/-- A model whose only shape has the given number of levels. -/
def chain (levels : Nat) : Model where
  package := "example.com/nodes"
  packagePath := "example.com/nodes"
  operations := [{
    method := ⟨"GetNode", "NodesApi", "api.go", []⟩
    response := some { name := "Node", type := "Node", fields := fieldChain levels } }]

theorem listLevels_fieldChain (n : Nat) : ShapeField.listLevels (fieldChain n) = n := by
  induction n with
  | zero => rfl
  | succ n ih =>
    rw [fieldChain, ShapeField.listLevels, ShapeField.levels, ih, ShapeField.listLevels,
      Nat.max_zero]

theorem itemsDepth_fieldChain (n : Nat) :
    itemsDepth ((fieldChain (n + 1)).map ShapeField.toJson) = 2 * n + 1 := by
  induction n with
  | zero => rfl
  | succ n ih =>
    rw [← ShapeField.listToJson_eq_map] at ih ⊢
    show max (max 0 (max 0 (max 0 (max (itemsDepth (ShapeField.listToJson (fieldChain (n + 1))) + 1)
      0))) + 1) 0 = _
    omega

theorem depth_toJson_chain (n : Nat) : (chain (n + 1)).toJson.depth = 2 * n + 6 := by
  have hfields := itemsDepth_fieldChain n
  -- from the fields outwards: shape, operation, list of operations, model
  show max 0 (max 0 (max (max (max 2 (max (max 0 (max 0
    (max (itemsDepth ((fieldChain (n + 1)).map ShapeField.toJson) + 1) 0)) + 1) 0) + 1)
    0 + 1) 0)) + 1 = _
  omega

/-- The bound on levels is sharp. -/
theorem read?_text_chain :
    read? (chain 61).text = .ok (chain 61) ∧
      ∃ failure, read? (chain 62).text = .error failure ∧ failure.category = .serialization := by
  have hlevels : ∀ o ∈ (chain 61).operations, ∀ s ∈ o.request.toList ++ o.response.toList,
      ShapeField.listLevels s.fields ≤ 61 := by
    intro o ho s hs
    rw [List.mem_singleton.1 ho] at hs
    rw [List.mem_singleton.1 hs]
    exact Nat.le_of_eq (listLevels_fieldChain 61)
  have hdeep : 127 < (chain 62).toJson.depth := by
    rw [depth_toJson_chain]
    decide
  exact ⟨(read?_text (chain 61)).1 ((read?_text (chain 61)).2.2 hlevels),
    (read?_text (chain 62)).2.1 hdeep⟩

end Model

end ProviderGlue
