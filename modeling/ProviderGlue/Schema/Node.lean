/-!
# Nodes of a schema

The schema of a data source is a forest of `Node`s.  A node says under which key a value is kept,
which field it is read from, and how the field holds it.
-/

namespace ProviderGlue.Schema

/-- The types of values in a schema. -/
inductive ValueType where
  | string | int | bool | float | list | map
deriving DecidableEq

namespace ValueType

/-- The name of a type of values. -/
def name : ValueType → String
  | string => "TypeString"
  | int => "TypeInt"
  | bool => "TypeBool"
  | float => "TypeFloat"
  | list => "TypeList"
  | map => "TypeMap"

/-- The type of the values of a basic type. -/
def ofBasic? (type : String) : Option ValueType :=
  if type = "string" then some string
  else if type = "bool" then some bool
  else if ["int", "int8", "int16", "int32", "int64", "uint", "uint8", "uint16", "uint32",
      "uint64"].contains type then some int
  else if ["float32", "float64"].contains type then some float
  else none

end ValueType

/-- How a struct is held by a field. -/
inductive Access where
  | pointer
  | value
  | slice (elementPointer : Bool)
deriving DecidableEq

/-- What a field holds, and how. -/
inductive NodeKind where
  /-- A value of a basic type. -/
  | scalar (type : ValueType) (pointer : Bool)
  /-- A slice of values of a basic type. -/
  | scalarList (element : ValueType) (elementPointer : Bool)
  /-- A map. -/
  | map (pointer : Bool)
  /-- A point in time. -/
  | time (pointer : Bool)
  /-- A value of an enumeration, which a function flattens. -/
  | enum (flatten : String) (pointer : Bool)
  /-- A slice of values of an enumeration, which a function flattens one by one. -/
  | enumList (flatten : String) (elementPointer : Bool)
  /-- A struct, which a function flattens. -/
  | object (flatten : String) (access : Access)
  /-- Anything else: it has a place in the schema, but is not flattened. -/
  | unfilled
deriving DecidableEq

/-- Where a field is found. -/
inductive Source where
  /-- In the struct at hand. -/
  | receiver
  /-- In the value of the union at hand. -/
  | union
deriving DecidableEq

/-- A place in a schema. -/
structure Node where
  /-- The key of the value. -/
  key : String
  /-- The name of the field. -/
  field : String
  /-- Where the field is found. -/
  source : Source
  /-- What the field holds. -/
  kind : NodeKind
  /-- The nodes below this one. -/
  children : List Node := []

namespace Node

mutual

/-- Decides equality of nodes. -/
def decEq : (a b : Node) → Decidable (a = b)
  | ⟨k, f, s, c, ns⟩, ⟨k', f', s', c', ns'⟩ =>
    if h : k = k' ∧ f = f' ∧ s = s' ∧ c = c' then
      match decEqList ns ns' with
      | isTrue hns => isTrue (by obtain ⟨rfl, rfl, rfl, rfl⟩ := h; subst hns; rfl)
      | isFalse hns => isFalse fun heq => hns (Node.mk.inj heq).2.2.2.2
    else isFalse fun heq => by
      obtain ⟨hk, hf, hs, hc, -⟩ := Node.mk.inj heq
      exact h ⟨hk, hf, hs, hc⟩

/-- Decides equality of lists of nodes. -/
def decEqList : (as bs : List Node) → Decidable (as = bs)
  | [], [] => isTrue rfl
  | [], _ :: _ => isFalse (by simp)
  | _ :: _, [] => isFalse (by simp)
  | a :: as, b :: bs =>
    match decEq a b, decEqList as bs with
    | isTrue h, isTrue hs => isTrue (by rw [h, hs])
    | isFalse h, _ => isFalse fun heq => h (List.cons.inj heq).1
    | _, isFalse hs => isFalse fun heq => hs (List.cons.inj heq).2

end

instance : DecidableEq Node := decEq

instance : Inhabited Node := ⟨⟨"", "", .receiver, .unfilled, []⟩⟩

/-- The type of the values under a node. -/
def type (n : Node) : ValueType :=
  match n.kind with
  | .scalar type _ => type
  | .time _ | .enum _ _ => .string
  | .map _ => .map
  | .scalarList _ _ | .enumList _ _ | .object _ _ | .unfilled => .list

end Node

end ProviderGlue.Schema
