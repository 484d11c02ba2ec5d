import ProviderGlue.Go.Code
import ProviderGlue.Schema.Node
import ProviderGlue.Text.Basic

/-!
# Statements that flatten fields

For each node there is a statement that puts the value of its field under its key.  Values behind
pointers are put only if they are there, and failures of flatten functions are handed on.
-/

namespace ProviderGlue.Schema

open Go

/-- The variable that fields are read from. -/
def Source.variable : Source → String
  | receiver => "pr"
  | union => "v"

/-- Hands an error on. -/
def returnError (depth : Nat) : List Line :=
  block depth "if err != nil " [⟨depth + 1, "return nil, err"⟩]

/-- Does something only if a value is there. -/
def ifPresent (depth : Nat) (value : String) (body : List Line) : List Line :=
  block depth ("if " ++ value ++ " != nil ") body

/-- An empty slice with room for the elements of another one. -/
def makeSlice (depth : Nat) (name element other : String) : Line :=
  ⟨depth, name ++ " := make([]" ++ element ++ ", 0, len(" ++ other ++ "))"⟩

/-- Puts a value under the key of a node. -/
def Node.put (n : Node) (depth : Nat) (value : String) : Line :=
  ⟨depth, "item[" ++ inQuotes n.key ++ "] = " ++ value⟩

/-- The field of a node. -/
def Node.access (n : Node) : String := n.source.variable ++ "." ++ n.field

/-- Flattens a value by a function and puts what comes out under the key of a node. -/
def Node.putFlattened (n : Node) (flatten argument result : String) : List Line :=
  ⟨1, result ++ ", err := " ++ flatten ++ "(" ++ argument ++ ")"⟩ :: returnError 1 ++
    [n.put 1 result]

/-- The statement for a node. -/
def Node.statement (timeLayout : String) (n : Node) : List Line :=
  let a := n.access
  let formatted := a ++ ".Format(" ++ inQuotes timeLayout ++ ")"
  match n.kind with
  | .scalar _ true | .map true => ifPresent 0 a [n.put 1 ("*" ++ a)]
  | .scalar _ false | .map false | .scalarList _ false => [n.put 0 a]
  | .scalarList _ true =>
    ifPresent 0 a ([makeSlice 1 "values" anyType a] ++
      block 1 ("for _, e := range " ++ a ++ " ")
        (ifPresent 2 "e" [⟨3, "values = append(values, *e)"⟩]) ++
      [n.put 1 "values"])
  | .time true => ifPresent 0 a [n.put 1 formatted]
  | .time false => [n.put 0 formatted]
  | .enum flatten true => ifPresent 0 a (n.putFlattened flatten ("*" ++ a) "name")
  | .enum flatten false => block 0 "" (n.putFlattened flatten a "name")
  | .enumList flatten elementPointer =>
    let skip := if elementPointer then block 2 "if e == nil " [⟨3, "continue"⟩] else []
    let argument := if elementPointer then "*e" else "e"
    ifPresent 0 a ([makeSlice 1 "names" "string" a] ++
      block 1 ("for _, e := range " ++ a ++ " ")
        (skip ++ [⟨2, "name, err := " ++ flatten ++ "(" ++ argument ++ ")"⟩] ++ returnError 2 ++
          [⟨2, "names = append(names, name)"⟩]) ++
      [n.put 1 "names"])
  | .object flatten .pointer => ifPresent 0 a (n.putFlattened flatten a "nested")
  | .object flatten .value => block 0 "" (n.putFlattened flatten ("&" ++ a) "nested")
  | .object flatten (.slice elementPointer) =>
    let argument := (if elementPointer then "" else "&") ++ a ++ "[i]"
    ifPresent 0 a ([makeSlice 1 "nested" recordType a] ++
      block 1 ("for i := range " ++ a ++ " ")
        ([⟨2, "flat, err := " ++ flatten ++ "(" ++ argument ++ ")"⟩] ++ returnError 2 ++
          [⟨2, "nested = append(nested, flat...)"⟩]) ++
      [n.put 1 "nested"])
  | .unfilled => [⟨0, "// " ++ n.key ++ ": not flattened"⟩]

/-- The lines of a statement at some depth.  Line breaks in names count as such. -/
def Node.statementLines (timeLayout : String) (depth : Nat) (n : Node) : List Line :=
  let body := "\n".intercalate ((n.statement timeLayout).map Line.written)
  (Text.lines body.toList).map fun line => ⟨depth, String.ofList line⟩

/-- The text of a statement, without a line break at its end. -/
def Node.statementText (timeLayout : String) (depth : Nat) (n : Node) : String :=
  "\n".intercalate ((n.statementLines timeLayout depth).map Line.written)

end ProviderGlue.Schema
