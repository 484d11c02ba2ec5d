import ProviderGlue.Go.Code
import ProviderGlue.Schema.Node

/-!
# The text of a schema

A schema is written as the entries of a map from keys to schemas, in the order of its nodes.  The
entries below a node stand three levels deeper than the entry of the node itself.
-/

namespace ProviderGlue.Schema

open Go

/-- The line for the elements of a list of basic values. -/
def elementLine (depth : Nat) (type : ValueType) : Line :=
  ⟨depth, "Elem: &schema.Schema\x7bType: schema." ++ type.name ++ "\x7d,"⟩

/-- The lines for the elements of the list under a node, if it holds a list.  `below` are the
entries of the nodes below it. -/
def elementLines (depth : Nat) (kind : NodeKind) (below : List Line) : List Line :=
  match kind with
  | .object _ _ =>
    entry depth "Elem: &schema.Resource"
      (entry (depth + 1) "Schema: map[string]*schema.Schema" below)
  | .scalarList element _ => [elementLine depth element]
  | .enumList _ _ | .unfilled => [elementLine depth .string]
  | .scalar _ _ | .map _ | .time _ | .enum _ _ => []

mutual

/-- The entry of a node. -/
def entryLines (depth : Nat) : Node → List Line
  | n@⟨key, _, _, kind, children⟩ =>
    entry depth (inQuotes key ++ ": ")
      ([⟨depth + 1, "Type:     schema." ++ n.type.name ++ ","⟩, ⟨depth + 1, "Computed: true,"⟩] ++
        elementLines (depth + 1) kind (schemaLines (depth + 3) children))

/-- The entries of some nodes. -/
def schemaLines (depth : Nat) : List Node → List Line
  | [] => []
  | n :: ns => entryLines depth n ++ schemaLines depth ns

end

/-- The text of a schema. -/
def schemaText (depth : Nat) (nodes : List Node) : String := render (schemaLines depth nodes)

end ProviderGlue.Schema
