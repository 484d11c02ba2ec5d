import Mathlib.Data.List.Nodup
import ProviderGlue.DataSource
import ProviderGlue.Proofs.Table

/-!
# Fields of a client

The client of a namespace declares a field for each type whose operations it offers, under a name
that no other field has.  The code of a data source calls its operation through the field of the
type that owns the operation.

A type is offered if its name ends in `Api` and it is not the transport.  An operation of any other
type has no field of its own, and its data source falls back on the name that such a field would
get.

## Key results

- `nodup_names_nameFields`: the names of the fields differ
- `mem_types_clientFields_iff`: the types that have a field
- `apiField_declared`: the field that a data source calls is declared if its type is offered
- `not_declares_mixedModel`: an API in capitals and the transport, which are not offered
-/

namespace ProviderGlue

open Text Go

/-! ## Named fields -/

/-- Each type gets a field, in the given order. -/
theorem types_nameFields (taken types : List String) :
    (nameFields taken types).map (·.type) = types := by
  induction types generalizing taken with
  | nil => rfl
  | cons type types ih => rw [nameFields, List.map_cons, ih]

/-- No field has a name that was taken before. -/
theorem name_not_mem_taken {taken types : List String} :
    ∀ f ∈ nameFields taken types, f.name ∉ taken := by
  induction types generalizing taken with
  | nil => exact fun f hf => absurd hf List.not_mem_nil
  | cons type types ih =>
    intro f hf
    rw [nameFields] at hf
    rcases List.mem_cons.1 hf with rfl | hf
    · show firstFree (numbered 1 "" (fieldNameFor type)) 0 taken ∉ taken
      exact firstFree_not_mem taken fun i j hi hj h => numbered_injective (by omega) (by omega) h
    · exact fun hmem => ih f hf (List.mem_cons_of_mem _ hmem)

/-- The names of fields differ. -/
theorem nodup_names_nameFields (taken types : List String) :
    ((nameFields taken types).map (·.name)).Nodup := by
  induction types generalizing taken with
  | nil => exact List.nodup_nil
  | cons type types ih =>
    rw [nameFields, List.map_cons, List.nodup_cons]
    constructor
    · -- a later field with this name would have a name that is taken
      intro hmem
      obtain ⟨f, hf, hname⟩ := List.mem_map.1 hmem
      apply name_not_mem_taken f hf
      rw [hname]
      exact List.mem_cons_self
    · exact ih _

/-- The types with fields are those of the owners that are offered. -/
theorem mem_types_clientFields_iff {owners : List String} {type : String} :
    type ∈ (clientFields owners).map (·.type) ↔ type ∈ owners ∧ isOffered type = true := by
  rw [clientFields, types_nameFields, Table.mem_keys_ofList_iff, List.map_map]
  show type ∈ (owners.filter isOffered).map id ↔ _
  rw [List.map_id, List.mem_filter]

/-! ## Declarations -/

/-- If two steps succeed one after the other, the first one does. -/
theorem exists_of_bind_eq_ok {α β : Type} {x : Except Failure α} {k : α → Except Failure β} {b : β}
    (h : x >>= k = .ok b) : ∃ a, x = .ok a ∧ k a = .ok b := by
  cases x with
  | error e => exact nomatch h
  | ok a => exact ⟨a, rfl, h⟩

namespace Client

/-- Whether the type of a client declares a field under a name, once and with a type of the
package. -/
structure Declares (c : Client) (name type : String) : Prop where
  /-- The field is one of the client's. -/
  field : ⟨name, type⟩ ∈ c.fields
  /-- It is written in the declaration of the client's type. -/
  line : ⟨1, name ++ " *api." ++ type⟩ ∈ c.typeLines
  /-- No other field has that name. -/
  once : ∀ f ∈ c.fields, f.name = name → f = ⟨name, type⟩

variable {c : Client} {owners : List String}

/-- The fields of a client are declared. -/
theorem declares_of_mem (hc : c.fields = clientFields owners) {f : ClientField}
    (hf : f ∈ c.fields) : c.Declares f.name f.type where
  field := hf
  line := by
    have hline : ⟨1, f.name ++ " *api." ++ f.type⟩ ∈
        c.fields.map fun f => (⟨1, f.name ++ " *api." ++ f.type⟩ : Line) :=
      List.mem_map.2 ⟨f, hf, rfl⟩
    rw [typeLines, block, braces]
    apply List.mem_append_left
    apply List.mem_cons_of_mem
    exact List.mem_append_left _ hline
  once g hg hname := by
    have hnodup : (c.fields.map (·.name)).Nodup := by
      rw [hc]
      exact nodup_names_nameFields _ _
    exact List.inj_on_of_nodup_map hnodup hg hf hname

/-- What a client makes of a model are the fields for its owners. -/
theorem fields_ofModel {s : Settings} {m : Model} (h : ofModel s m = .ok c) :
    c.fields = clientFields m.owners := by
  unfold ofModel at h
  obtain ⟨token, -, hclient⟩ := exists_of_bind_eq_ok h
  rw [← Except.ok.inj hclient]

end Client

namespace DataSource

/-- The line that calls the operation of a data source through a field of the client. -/
def callLine (d : DataSource) (field : String) : Line :=
  let response := if d.plan.rootCall.isSome then "resp" else "_"
  ⟨1, response ++ ", err := conn." ++ field ++ "." ++ d.method ++ "(utils.StringPtr(extID))"⟩

/-- The operation is called through the field that the data source names. -/
theorem callLine_mem (d : DataSource) : d.callLine d.apiField ∈ d.readerLines := by
  rw [readerLines, block, braces, callLine]
  apply List.mem_append_left
  apply List.mem_cons_of_mem
  simp only [List.mem_append, List.mem_cons, true_or, or_true]

/-- A data source is for an operation of the model, and names the field for its owner. -/
theorem operation_ofModel {s : Settings} {m : Model} {method : String} {package : Option String}
    {d : DataSource} (h : ofModel s m method package = .ok d) :
    ∃ o, m.operation? method = some o ∧ d.method = o.method.name ∧
      d.apiField = apiFieldFor m o.method.owner := by
  unfold ofModel at h
  split at h
  · next o ho =>
    split at h
    · -- whichever package it is in, the operation stays the same
      dsimp only at h
      split at h
      · cases h
        exact ⟨o, ho, rfl, rfl⟩
      · obtain ⟨package, -, hsource⟩ := exists_of_bind_eq_ok h
        cases hsource
        exact ⟨o, ho, rfl, rfl⟩
    · exact nomatch h
  · exact nomatch h

/-- The name for an offered owner is that of its field. -/
theorem apiFieldFor_mem {m : Model} {owner : String} (howner : owner ∈ m.owners)
    (hoffered : isOffered owner = true) :
    ⟨apiFieldFor m owner, owner⟩ ∈ clientFields m.owners := by
  rw [apiFieldFor]
  cases hfind : (clientFields m.owners).find? (·.type = owner) with
  | some f =>
    have htype : f.type = owner := by simpa using List.find?_some hfind
    subst htype
    exact List.mem_of_find?_eq_some hfind
  | none =>
    -- an offered owner has a field, so the search cannot fail
    obtain ⟨f, hf, htype⟩ := List.mem_map.1 (mem_types_clientFields_iff.2 ⟨howner, hoffered⟩)
    have hne := List.find?_eq_none.1 hfind f hf
    exact absurd htype (by simpa using hne)

/-- An owner that is not offered has no field, and goes by the rule for names of fields. -/
theorem apiFieldFor_of_not_offered {m : Model} {owner : String} (h : isOffered owner = false) :
    owner ∉ (clientFields m.owners).map (·.type) ∧ apiFieldFor m owner = fieldNameFor owner := by
  have howner : owner ∉ (clientFields m.owners).map (·.type) := by
    rw [mem_types_clientFields_iff, h]
    exact fun hoffered => Bool.false_ne_true hoffered.2
  have hfind : (clientFields m.owners).find? (·.type = owner) = none :=
    List.find?_eq_none.2 fun f hf htype => howner (List.mem_map.2 ⟨f, hf, of_decide_eq_true htype⟩)
  exact ⟨howner, by rw [apiFieldFor, hfind]⟩

/-- **Data sources call fields that clients declare**: if a client and a data source are made from
one model, the client declares the field that the data source calls, with the type that owns the
operation, exactly if it offers that type.  Any other type it leaves out, and the data source falls
back on the rule for names. -/
theorem apiField_declared {s s' : Settings} {m : Model} {method : String} {package : Option String}
    {c : Client} {d : DataSource} (hc : Client.ofModel s m = .ok c)
    (hd : DataSource.ofModel s' m method package = .ok d) :
    ∃ o ∈ m.operations, o.method.name = method ∧ d.method = o.method.name ∧
      d.callLine d.apiField ∈ d.readerLines ∧
      (c.Declares d.apiField o.method.owner ↔ isOffered o.method.owner = true) ∧
      (isOffered o.method.owner = false →
        o.method.owner ∉ c.fields.map (·.type) ∧ d.apiField = fieldNameFor o.method.owner) := by
  obtain ⟨o, ho, hmethod, hfield⟩ := operation_ofModel hd
  have hfields := Client.fields_ofModel hc
  have hmem : o ∈ m.operations := List.mem_of_find?_eq_some ho
  have hname : o.method.name = method := by simpa using List.find?_some ho
  refine ⟨o, hmem, hname, hmethod, d.callLine_mem, ⟨fun hdeclares => ?_, fun hoffered => ?_⟩,
    fun hother => ?_⟩
  · -- only offered types have fields at all
    have hfield := hdeclares.field
    rw [hfields] at hfield
    exact (mem_types_clientFields_iff.1 (List.mem_map_of_mem hfield)).2
  · have howner : o.method.owner ∈ m.owners := List.mem_map_of_mem hmem
    have hdeclared := apiFieldFor_mem howner hoffered
    rw [← hfield, ← hfields] at hdeclared
    exact Client.declares_of_mem hfields hdeclared
  · rw [hfields, hfield]
    exact apiFieldFor_of_not_offered hother

/-- A struct with a name. -/
def namedShape (name : String) : Shape where
  name := name
  type := name
  fields := [{ name := "Name", type := "*string" }]

/-- An operation that answers with such a struct. -/
def namedOperation (method owner shape : String) : ApiOperation where
  method := { name := method, owner := owner, file := "" }
  response := some (namedShape shape)

/-- Operations of an API, of one whose name ends in capitals, and of the transport. -/
def mixedModel : Model where
  package := "acme/widgets-go-client/v4@v4.0.1"
  packagePath := "acme/widgets-go-client/v4"
  operations := [namedOperation "GetWidget" "WidgetsApi" "Widget",
    namedOperation "GetTask" "TasksAPI" "Task", namedOperation "CallApi" "ApiClient" "Answer"]

/-- The client for that model. -/
def mixedClient : Client where
  token := "widgets"
  fields := [⟨"WidgetAPIInstance", "WidgetsApi"⟩]
  packagePath := mixedModel.packagePath
  providerModule := ({} : Settings).providerModule
  tcpPort := 9440

/-- The data source for one of its operations, which calls a field. -/
def mixedSource (method shape field : String) : DataSource where
  names := .ofOperation "nutanix" "widgetsv2" method
  plan := .build (namedShape shape) [] [lookupKey]
  apiField := field
  method := method
  providerModule := ({} : Settings).providerModule
  timeLayout := ({} : Settings).timeLayout

theorem namespaceToken_mixedModel : namespaceToken mixedModel.packagePath = .ok "widgets" := rfl

theorem ofModel_mixedClient : Client.ofModel {} mixedModel = .ok mixedClient := by
  have hfields : clientFields mixedModel.owners = mixedClient.fields := by decide +kernel
  rw [Client.ofModel, namespaceToken_mixedModel, hfields]
  rfl

theorem ofModel_mixedSource {method owner shape field : String}
    (ho : mixedModel.operation? method = some (namedOperation method owner shape))
    (hfield : apiFieldFor mixedModel owner = field) :
    DataSource.ofModel {} mixedModel method none = .ok (mixedSource method shape field) := by
  have hpackage : defaultPackage mixedModel = .ok "widgetsv2" := by
    rw [defaultPackage, namespaceToken_mixedModel]
    rfl
  subst hfield
  unfold ofModel
  rw [ho, hpackage]
  rfl

/-- The API has a field, which its data source calls. -/
theorem apiField_declared_mixedModel :
    Client.ofModel {} mixedModel = .ok mixedClient ∧
      DataSource.ofModel {} mixedModel "GetWidget" none =
        .ok (mixedSource "GetWidget" "Widget" "WidgetAPIInstance") ∧
      ∃ o ∈ mixedModel.operations, o.method.name = "GetWidget" ∧
        (mixedSource "GetWidget" "Widget" "WidgetAPIInstance").method = o.method.name ∧
        (mixedSource "GetWidget" "Widget" "WidgetAPIInstance").callLine "WidgetAPIInstance" ∈
          (mixedSource "GetWidget" "Widget" "WidgetAPIInstance").readerLines ∧
        (mixedClient.Declares "WidgetAPIInstance" o.method.owner ↔
          isOffered o.method.owner = true) ∧
        (isOffered o.method.owner = false → o.method.owner ∉ mixedClient.fields.map (·.type) ∧
          "WidgetAPIInstance" = fieldNameFor o.method.owner) := by
  have hd : DataSource.ofModel {} mixedModel "GetWidget" none =
      .ok (mixedSource "GetWidget" "Widget" "WidgetAPIInstance") :=
    ofModel_mixedSource rfl (by decide +kernel)
  exact ⟨ofModel_mixedClient, hd, apiField_declared ofModel_mixedClient hd⟩

/-- The others have none, so their data sources call fields that the client does not declare. -/
theorem not_declares_mixedModel :
    Client.ofModel {} mixedModel = .ok mixedClient ∧
    DataSource.ofModel {} mixedModel "GetTask" none =
        .ok (mixedSource "GetTask" "Task" "TasksAPIAPI") ∧
      ¬ mixedClient.Declares "TasksAPIAPI" "TasksAPI" ∧
    DataSource.ofModel {} mixedModel "CallApi" none =
        .ok (mixedSource "CallApi" "Answer" "ApiClientAPI") ∧
      ¬ mixedClient.Declares "ApiClientAPI" "ApiClient" :=
  ⟨ofModel_mixedClient, ofModel_mixedSource rfl (by decide +kernel), fun h => absurd h.field (by decide),
    ofModel_mixedSource rfl (by decide +kernel), fun h => absurd h.field (by decide)⟩

end DataSource

end ProviderGlue
