import ProviderGlue.Surface

/-!
# Narrowing of an extraction

A `Narrowing` keeps the operations of one type, or those whose names mention a keyword.  What they
need is the `closure`: the types of their requests and responses, with everything that the fields of
these types lead to.
-/

namespace ProviderGlue

open Text

/-- Which operations are kept. -/
inductive Narrowing where
  | all
  /-- Those of the type of that name, in any case. -/
  | owner (name : String)
  /-- Those whose names mention the word, in any case. -/
  | keyword (word : String)
deriving DecidableEq

namespace Narrowing

/-- The narrowing to an owner, or else to a keyword.  Empty texts do not count. -/
def ofOptions (owner keyword : Option String) : Narrowing :=
  match owner.filter (! ·.isEmpty), keyword.filter (! ·.isEmpty) with
  | some name, _ => .owner (onChars lowercase name)
  | none, some word => .keyword (onChars lowercase word)
  | none, none => .all

/-- Whether a method is kept. -/
def keeps : Narrowing → MethodTest
  | all, _ => true
  | owner name, m => lowercase (m.owner.toList.dropWhile (· = '*')) == name.toList
  | keyword word, m => occursIn word.toList (lowercase m.name.toList)

end Narrowing

/-- The types of the request and of the response of a method. -/
def mentioned (m : Go.Method) : List String :=
  ((requestType? m.params).toList ++ (responseType? m.returns).toList).map Go.baseName

namespace Structs

/-- The types that the fields of a struct lead to. -/
def fieldTypes (s : Go.Struct) : List String :=
  (s.fields.map fun f => Go.baseName f.type).filter (! ·.isEmpty)

/-- The known structs that are reached from `pending` without passing through those of `seen`,
together with the latter. -/
def reach (types : Structs) (seen : List String) : (pending : List String) → List String
  | [] => seen
  | name :: pending =>
    match _h : types.get? name with
    | none => reach types seen pending
    | some s =>
      if _hs : name ∈ seen then reach types seen pending
      else reach types (name :: seen) (fieldTypes s ++ pending)
termination_by pending => ((unvisited types seen).length, pending.length)
decreasing_by
  · exact .right _ (by simp)
  · exact .right _ (by simp)
  · exact .left _ _ (length_unvisited_cons (mem_keys_of_get? _h) _hs)

/-- The names of the structs that some methods need, in order. -/
def closure (types : Structs) (methods : List Go.Method) : List String :=
  let reached := reach types [] (methods.flatMap mentioned)
  types.keys.filter fun name => reached.contains name

end Structs

end ProviderGlue
