import Mathlib.Data.Set.Function
import ProviderGlue.Proofs.Client

/-!
# Names of client fields

The name of a field is made from the name of its type: an API in the plural is named in the singular,
as an instance.  Names of the two forms end differently, so offered types never share one, and no
field needs a number.  Neither do they share the name of the field for the transport.

## Key results

- `fieldNameFor_cases`: the two forms of names
- `fieldNameFor_injective`: different offered types have different names
- `nameFields_eq`: where the names of types differ, no field has a number
- `clientFields_exact`: the fields of a client, and what is written of them
-/

namespace ProviderGlue

open Text Go

/-! ## Two forms of names -/

theorem isOffered_iff {type : String} :
    isOffered type = true ↔ "Api".toList <:+ type.toList ∧ type ≠ transportType := by
  rw [isOffered, Bool.and_eq_true, bne_iff_ne, endsWith, Option.isSome_iff_exists, and_comm]
  refine and_congr_left' (exists_congr fun rest => ?_)
  rw [beforeSuffix?_eq_some_iff, eq_comm]

/-- An API in the plural is named in the singular, and every other one as it is. -/
theorem fieldNameFor_cases {type : String} (h : "Api".toList <:+ type.toList) :
    (∃ singular, type.toList = singular ++ "sApi".toList ∧
      (fieldNameFor type).toList = singular ++ "APIInstance".toList) ∨
    (∃ base, type.toList = base ++ "Api".toList ∧
      (fieldNameFor type).toList = base ++ "API".toList) := by
  obtain ⟨base, hbase⟩ := h
  have hbefore : beforeSuffix? "Api".toList type.toList = some base :=
    beforeSuffix?_eq_some_iff.2 hbase.symm
  cases hplural : beforeSuffix? ['s'] base with
  | none =>
    refine .inr ⟨base, hbase.symm, ?_⟩
    simp only [fieldNameFor, hbefore, hplural, String.toList_append, String.toList_ofList]
  | some singular =>
    refine .inl ⟨singular, ?_, ?_⟩
    · rw [← hbase, beforeSuffix?_eq_some_iff.1 hplural, List.append_assoc]
      rfl
    · simp only [fieldNameFor, hbefore, hplural, String.toList_append, String.toList_ofList]

/-- Names of different forms end differently. -/
theorem instance_ne_plain (singular base : List Char) :
    singular ++ "APIInstance".toList ≠ base ++ "API".toList := by
  intro h
  have hlast := congrArg List.getLast? h
  rw [List.getLast?_append_of_ne_nil _ (by decide), List.getLast?_append_of_ne_nil _ (by decide)]
    at hlast
  exact absurd hlast (by decide)

/-- Types whose names end in `Api` have names of their own. -/
theorem fieldNameFor_injective {a b : String} (ha : "Api".toList <:+ a.toList)
    (hb : "Api".toList <:+ b.toList) (h : fieldNameFor a = fieldNameFor b) : a = b := by
  have hname := congrArg String.toList h
  apply String.toList_inj.1
  -- one form for each of them; only names of the same form can be equal
  rcases fieldNameFor_cases ha with ⟨s, hs, hsname⟩ | ⟨s, hs, hsname⟩ <;>
    rcases fieldNameFor_cases hb with ⟨t, ht, htname⟩ | ⟨t, ht, htname⟩ <;>
    rw [hsname, htname] at hname
  case inl.inl => rw [hs, ht, List.append_cancel_right hname]
  case inl.inr => exact absurd hname (instance_ne_plain s t)
  case inr.inl => exact absurd hname.symm (instance_ne_plain t s)
  case inr.inr => rw [hs, ht, List.append_cancel_right hname]

/-- The name of the field for the transport. -/
def transportField : String := "APIClientInstance"

/-- No other field is named like the transport's. -/
theorem fieldNameFor_ne_transportField {type : String} (h : "Api".toList <:+ type.toList) :
    fieldNameFor type ≠ transportField := by
  intro heq
  rcases fieldNameFor_cases h with ⟨s, -, hname⟩ | ⟨s, -, hname⟩ <;> rw [heq] at hname
  case inl =>
    have hends : "APIInstance".toList <:+ transportField.toList := ⟨s, hname.symm⟩
    exact absurd hends (by decide)
  case inr =>
    have hends : "API".toList <:+ transportField.toList := ⟨s, hname.symm⟩
    exact absurd hends (by decide)

/-! ## Fields without numbers -/

/-- A name that is free is taken as it is. -/
theorem firstFree_of_not_mem {names : Nat → String} {n : Nat} {taken : List String}
    (h : names n ∉ taken) : firstFree names n taken = names n := by
  rw [firstFree, if_neg h]

/-- Where the names for types differ from each other and from those that are taken, each type has a
field under its own name. -/
theorem nameFields_eq {taken types : List String} (hnodup : (types.map fieldNameFor).Nodup)
    (hfree : ∀ type ∈ types, fieldNameFor type ∉ taken) :
    nameFields taken types = types.map fun type => ⟨fieldNameFor type, type⟩ := by
  induction types generalizing taken with
  | nil => rfl
  | cons type types ih =>
    obtain ⟨hfirst, hnodup⟩ := List.nodup_cons.1 hnodup
    obtain ⟨htype, hfree⟩ := List.forall_mem_cons.1 hfree
    have hname : firstFree (numbered 1 "" (fieldNameFor type)) 0 taken = fieldNameFor type :=
      firstFree_of_not_mem htype
    rw [nameFields, hname, List.map_cons]
    refine congrArg _ (ih hnodup fun later hlater => ?_)
    -- the name that was just given is that of no later type
    refine List.not_mem_cons_of_ne_of_not_mem (fun heq => hfirst ?_) (hfree later hlater)
    exact heq ▸ List.mem_map_of_mem hlater

/-- Every field of a client is named for its type. -/
theorem clientFields_eq (owners : List String) :
    clientFields owners =
      ((clientFields owners).map (·.type)).map fun type => ⟨fieldNameFor type, type⟩ := by
  have htypes : ∀ type ∈ (clientFields owners).map (·.type), "Api".toList <:+ type.toList :=
    fun type h => (isOffered_iff.1 (mem_types_clientFields_iff.1 h).2).1
  rw [clientFields, types_nameFields] at htypes ⊢
  refine nameFields_eq ?_ fun type _ => List.not_mem_nil
  refine List.Nodup.map_on (fun a ha b hb h => ?_) (Table.nodup_keys _)
  exact fieldNameFor_injective (htypes a ha) (htypes b hb) h

/-! ## Declared fields -/

/-- The names and types that the declaration of a client's type lists. -/
def Client.members (c : Client) : List (String × String) :=
  c.fields.map (fun f => (f.name, "*api." ++ f.type)) ++
    [(transportField, "*" ++ c.transportAlias ++ "." ++ transportType)]

/-- The declaration has one line for each of them. -/
theorem Client.typeLines_eq (c : Client) :
    c.typeLines =
      block 0 "type Client struct " (c.members.map fun m => ⟨1, m.1 ++ " " ++ m.2⟩) := by
  have hline : ∀ f : ClientField, f.name ++ " *api." ++ f.type =
      f.name ++ " " ++ ("*api." ++ f.type) := by
    intro f
    show f.name ++ (" " ++ "*api.") ++ f.type = _
    simp only [String.append_assoc]
  rw [typeLines, members, List.map_append, List.map_map]
  simp only [hline]
  rfl

/-- The fields of a client for the types that own some operations. -/
structure FieldsFor (owners : List String) (fields : List ClientField) : Prop where
  /-- A type has a field if it is an API other than the transport. -/
  offered : ∀ type, type ∈ fields.map (·.type) ↔
    type ∈ owners ∧ "Api".toList <:+ type.toList ∧ type ≠ transportType
  /-- The fields stand in the order of their types, of which none has two. -/
  sorted : (fields.map (·.type)).Pairwise (· < ·)
  /-- Each is named for its type, without a number. -/
  named : ∀ f ∈ fields, f.name = fieldNameFor f.type
  /-- The names differ. -/
  nodup : (fields.map (·.name)).Nodup
  /-- None of them is the name of the field for the transport. -/
  reserved : transportField ∉ fields.map (·.name)

/-- A client with such fields declares none of its members twice. -/
theorem FieldsFor.nodup_members {owners : List String} {c : Client} (h : FieldsFor owners c.fields) :
    (c.members.map (·.1)).Nodup := by
  rw [Client.members, List.map_append, List.map_map]
  refine List.Nodup.append h.nodup (List.nodup_singleton transportField) ?_
  exact List.disjoint_singleton.2 h.reserved

/-- Every offered owner has one field. -/
theorem fieldsFor_clientFields (owners : List String) : FieldsFor owners (clientFields owners) := by
  have hnamed : ∀ f ∈ clientFields owners, f.name = fieldNameFor f.type := by
    intro f hf
    rw [clientFields_eq] at hf
    obtain ⟨type, -, rfl⟩ := List.mem_map.1 hf
    rfl
  constructor
  case offered => exact fun type => by rw [mem_types_clientFields_iff, isOffered_iff]
  case sorted =>
    rw [clientFields, types_nameFields]
    exact List.pairwise_map.2 (Table.sorted _)
  case named => exact hnamed
  case nodup => exact nodup_names_nameFields _ _
  case reserved =>
    intro hmem
    obtain ⟨f, hf, hname⟩ := List.mem_map.1 hmem
    have htype := mem_types_clientFields_iff.1 (List.mem_map_of_mem (f := (·.type)) hf)
    rw [hnamed f hf] at hname
    exact fieldNameFor_ne_transportField (isOffered_iff.1 htype.2).1 hname

/-- The client with the fields for some owners in place of its own. -/
def Client.serving (c : Client) (owners : List String) : Client :=
  { c with fields := clientFields owners }

/-- **The fields of a client**: different offered types have different names, so whatever types own
the operations, in any order and however often, each offered one has one field under its own name, and
the type that is written for the client declares no name twice. -/
theorem clientFields_exact :
    Set.InjOn fieldNameFor {type | isOffered type = true} ∧
    ∀ owners, FieldsFor owners (clientFields owners) ∧
      ∀ c : Client,
        (c.serving owners).typeLines = block 0 "type Client struct "
          ((c.serving owners).members.map fun m => ⟨1, m.1 ++ " " ++ m.2⟩) ∧
        ((c.serving owners).members.map (·.1)).Nodup := by
  constructor
  · intro a ha b hb
    exact fieldNameFor_injective (isOffered_iff.1 ha).1 (isOffered_iff.1 hb).1
  · intro owners
    have hfields := fieldsFor_clientFields owners
    exact ⟨hfields, fun c => ⟨(c.serving owners).typeLines_eq, hfields.nodup_members⟩⟩

end ProviderGlue
