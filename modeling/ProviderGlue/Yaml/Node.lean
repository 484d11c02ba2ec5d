import ProviderGlue.Yaml.Token

/-!
# Nodes of YAML

`Node.document?` puts the tokens of a text together: scalars, sequences and mappings.  A text holds
one document at most; a text without any token is none.
-/

namespace ProviderGlue.Yaml

/-- A node of a document. -/
inductive Node where
  /-- A scalar; `plain` says whether it stands without quotes. -/
  | scalar (plain : Bool) (text : List Char)
  | sequence (items : List Node)
  | mapping (members : List (Node × Node))
deriving Inhabited

namespace Node

/-- The node of nothing. -/
def empty : Node := scalar true []

/-- The nodes with anchors. -/
abbrev Anchors := List (List Char × Node)

/-- The anchors so far, and the tokens that are left. -/
abbrev Rest := Anchors × List Token

/-- Whether one of the given tokens is next, or none at all. -/
def nextIs (among : List Token) : (ts : List Token) → Bool
  | [] => true
  | t :: _ => among.contains t

/-- Passes over an anchor and a tag, in either order. -/
def properties : (ts : List Token) → Option (List Char) × Bool × List Token
  | .anchor name :: .tag :: ts => (some name, true, ts)
  | .tag :: .anchor name :: ts => (some name, true, ts)
  | .anchor name :: ts => (some name, true, ts)
  | .tag :: ts => (none, true, ts)
  | ts => (none, false, ts)

/-- Notes the node of an anchor. -/
def note (name : Option (List Char)) (n : Node) (as : Anchors) : Anchors :=
  match name with
  | none => as
  | some name => (name, n) :: as

section

variable (node : Bool → Anchors → List Token → Option (Node × Rest))

/-- A node, or the empty one before one of the given tokens. -/
def nodeUnless (ends : List Token) (block : Bool) (as : Anchors) (ts : List Token) :
    Option (Node × Rest) :=
  if nextIs ends ts then some (empty, as, ts) else node block as ts

/-- The items of a sequence by indentation; `closed` says whether a token closes it. -/
def blockItems (closed : Bool) : (fuel : Nat) → Anchors → List Token → Option ((List Node) × Rest)
  | 0, _, _ => none
  | fuel + 1, as, ts =>
    match ts with
    | .item :: ts => do
      let ends := if closed then [.item, .blockEnd] else [.item, .key, .value, .blockEnd]
      let (n, as, ts) ← nodeUnless node ends true as ts
      let (ns, as, ts) ← blockItems closed fuel as ts
      some (n :: ns, as, ts)
    | ts =>
      if ! closed then some ([], as, ts)
      else match ts with
        | .blockEnd :: ts => some ([], as, ts)
        | _ => none

/-- The value behind a key, if there is one. -/
def valueUnless (ends : List Token) (block : Bool) (as : Anchors) (ts : List Token) :
    Option (Node × Rest) :=
  match ts with
  | .value :: ts => nodeUnless node ends block as ts
  | ts => some (empty, as, ts)

/-- The members of a mapping by indentation. -/
def blockMembers : (fuel : Nat) → Anchors → List Token → Option ((List (Node × Node)) × Rest)
  | 0, _, _ => none
  | fuel + 1, as, ts =>
    match ts with
    | .key :: ts => do
      let ends := [.key, .value, .blockEnd]
      let (k, as, ts) ← nodeUnless node ends true as ts
      let (v, as, ts) ← valueUnless node ends true as ts
      let (ms, as, ts) ← blockMembers fuel as ts
      some ((k, v) :: ms, as, ts)
    | .blockEnd :: ts => some ([], as, ts)
    | _ => none

/-- One item of a sequence in brackets: a node, or a mapping of one member. -/
def flowItem (as : Anchors) (ts : List Token) : Option (Node × Rest) :=
  match ts with
  | .key :: ts => do
    let (k, as, ts) ← nodeUnless node [.value, .comma, .closeSequence] false as ts
    let (v, as, ts) ← valueUnless node [.comma, .closeSequence] false as ts
    some (mapping [(k, v)], as, ts)
  | ts => node false as ts

/-- One member of a mapping in brackets. -/
def flowMember (as : Anchors) (ts : List Token) : Option ((Node × Node) × Rest) :=
  match ts with
  | .key :: ts => do
    let (k, as, ts) ← nodeUnless node [.value, .comma, .closeMapping] false as ts
    let (v, as, ts) ← valueUnless node [.comma, .closeMapping] false as ts
    some ((k, v), as, ts)
  | ts => do
    let (k, as, ts) ← node false as ts
    some ((k, empty), as, ts)

/-- What stands in brackets, with commas between and perhaps one at the end. -/
def flowList {α : Type} (entry : Anchors → List Token → Option (α × Rest)) (close : Token) :
    (fuel : Nat) → (first : Bool) → Anchors → List Token → Option ((List α) × Rest)
  | 0, _, _, _ => none
  | fuel + 1, first, as, ts =>
    match ts with
    | [] => none
    | t :: rest =>
      if t = close then some ([], as, rest)
      else do
        let ts ← if first then some ts else if t = .comma then some rest else none
        match ts with
        | [] => none
        | t :: rest =>
          if t = close then some ([], as, rest)
          else
            let (x, as, ts) ← entry as ts
            let (xs, as, ts) ← flowList entry close fuel false as ts
            some (x :: xs, as, ts)

end

/-- A node; `block` says whether indentation may start one, and nodes are read `fuel` deep.  Inside a
collection its own anchor stands for an empty one. -/
def read : (fuel : Nat) → (block : Bool) → Anchors → List Token → Option (Node × Rest)
  | 0, _, _, _ => none
  | fuel + 1, block, as, ts =>
    match ts with
    | .reference name :: ts => (as.lookup name).map fun n => (n, as, ts)
    | ts =>
      let (name, any, ts) := properties ts
      let limit := ts.length + 1
      let content : Option (Node × Rest) := match ts with
        | .scalar plain text :: ts => some (scalar plain text, as, ts)
        | .openSequence :: ts =>
          let as := note name (sequence []) as
          (flowList (flowItem (read fuel)) .closeSequence limit true as ts).map
            fun (ns, r) => (sequence ns, r)
        | .openMapping :: ts =>
          let as := note name (mapping []) as
          (flowList (flowMember (read fuel)) .closeMapping limit true as ts).map
            fun (ms, r) => (mapping ms, r)
        | ts =>
          let plainly := if any then some (empty, as, ts) else none
          if ! block then plainly
          else match ts with
            | .blockSequence :: ts =>
              let as := note name (sequence []) as
              (blockItems (read fuel) true limit as ts).map fun (ns, r) => (sequence ns, r)
            | .blockMapping :: ts =>
              let as := note name (mapping []) as
              (blockMembers (read fuel) limit as ts).map fun (ms, r) => (mapping ms, r)
            | .item :: _ =>
              let as := note name (sequence []) as
              (blockItems (read fuel) false limit as ts).map fun (ns, r) => (sequence ns, r)
            | _ => plainly
      content.map fun (n, as, ts) => (n, note name n as, ts)

/-- The content of a document; behind the mark of its start it may be missing. -/
def content? (marked : Bool) (ts : List Token) : Option (Node × List Token) :=
  if marked && nextIs [.directive, .documentStart, .documentEnd] ts then some (empty, ts)
  else (read (2 * ts.length + 2) true [] ts).map fun (n, _, ts) => (n, ts)

/-- The only document of a text, if there is one; nothing if the text is no YAML or holds more than
one document. -/
def document? (text : List Char) : Option (Option Node) := do
  let ts ← tokens? text
  if ts.isEmpty then some none
  else
    let (marked, ts) ← match ts with
      | .directive :: _ | .documentStart :: _ =>
        match ts.dropWhile (· = .directive) with
        | .documentStart :: ts => some (true, ts)
        | _ => none
      | ts => some (false, ts)
    let (n, ts) ← content? marked ts
    if (ts.dropWhile (· = .documentEnd)).isEmpty then some (some n) else none

end Node

end ProviderGlue.Yaml
