import ProviderGlue.Model
import ProviderGlue.Shape.Expansion
import ProviderGlue.Text.Case

/-!
# The interface of a module

Which methods are operations of a module's interface, and what their requests and responses are.
-/

namespace ProviderGlue

open Text

/-- Decides whether a method is an operation. -/
abbrev MethodTest := Go.Method → Bool

/-- Methods of the types whose names mention a token, in any case. -/
def ownerMentions (token : String) : MethodTest := fun m =>
  occursIn (lowercase token.toList) (lowercase m.owner.toList)

/-- The first parameter type that is neither a context nor variadic. -/
def requestType? (params : List Go.Parameter) : Option String :=
  (params.map fun p => trim p.type.toList).find? (fun type =>
      ! occursIn "context.Context".toList type && ! "...".toList.isPrefixOf type)
    |>.map String.ofList

/-- The first result type that is not `error`. -/
def responseType? (returns : List String) : Option String :=
  (returns.map fun type => onChars trim type).find? (· != "error")

namespace Structs

/-- The shape that a type of a method leads to, with the package that the method's file imports it
from. -/
def shapeOf? (types : Structs) (imports : Go.Imports) (type : String) : Option Shape :=
  (types.expand? (Go.baseName type)).map fun shape =>
    match Go.importAlias? type with
    | none => shape
    | some name =>
      match imports.get? name with
      | none => shape
      | some path => { shape with importAlias := some name, importPath := some path }

/-- The operation of a method. -/
def operation (types : Structs) (m : Go.Method) : ApiOperation where
  method := ⟨m.name, m.owner, m.file, m.params⟩
  request := (requestType? m.params).bind (types.shapeOf? m.imports)
  response := (responseType? m.returns).bind (types.shapeOf? m.imports)

end Structs

end ProviderGlue
