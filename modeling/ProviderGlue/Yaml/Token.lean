import ProviderGlue.Yaml.Scalar

/-!
# Tokens of YAML

`tokens?` cuts a text into tokens, with tokens for what indentation opens and closes.  A scalar turns
out to be a key only when a colon follows it on its line; its `key` token is put in front of it then.
-/

namespace ProviderGlue.Yaml

/-- A token. -/
inductive Token where
  | directive
  | documentStart | documentEnd
  /-- The start of a sequence by indentation. -/
  | blockSequence
  /-- The start of a mapping by indentation. -/
  | blockMapping
  /-- The end of what indentation started. -/
  | blockEnd
  | openSequence | closeSequence
  | openMapping | closeMapping
  /-- A dash in front of an item. -/
  | item
  | comma | key | value
  | reference (name : List Char)
  | anchor (name : List Char)
  | tag
  | scalar (plain : Bool) (text : List Char)
deriving DecidableEq

/-- A place where a key may have started. -/
structure KeyStart where
  /-- How many tokens were before it. -/
  index : Nat
  /-- Its line. -/
  line : Nat
  /-- Its column. -/
  column : Nat
  /-- Whether something must turn out to be a key there. -/
  required : Bool

/-- The tokens read so far and what the next ones depend on. -/
structure Scan where
  /-- The place. -/
  spot : Spot
  /-- The tokens. -/
  tokens : List Token := []
  /-- The columns of the open blocks, the innermost first. -/
  blocks : List Nat := []
  /-- Whether a key may start here. -/
  keyAllowed : Bool := true
  /-- Where a key may have started outside all brackets, or in each open pair of brackets, the
  innermost first. -/
  keys : List (Option KeyStart) := [none]

namespace Scan

/-- Whether the place is between brackets. -/
def inFlow (s : Scan) : Bool := s.keys.length > 1

/-- Appends a token. -/
def push (s : Scan) (t : Token) : Scan := { s with tokens := s.tokens ++ [t] }

/-- Moves on in the line. -/
def skip (s : Scan) (n : Nat) : Scan := { s with spot := s.spot.skip n }

/-- Sets whether a key may start. -/
def allowKey (s : Scan) (b : Bool) : Scan := { s with keyAllowed := b }

/-! ## Space, comments and indentation -/

/-- Passes over space and comments. -/
def skipSpace : (fuel : Nat) → Scan → Scan
  | 0, s => s
  | fuel + 1, s =>
    match s.spot.rest with
    | [] => s
    | c :: _ =>
      if c = ' ' ∨ (c = '\t' ∧ (s.inFlow ∨ ! s.keyAllowed)) then skipSpace fuel (s.skip 1)
      else if c = '#' then
        skipSpace fuel (s.skip (s.spot.rest.takeWhile (! isBreak ·)).length)
      else if isBreak c then
        skipSpace fuel
          { s with spot := s.spot.breakLine.1, keyAllowed := s.keyAllowed || ! s.inFlow }
      else s

/-- Closes the blocks whose columns satisfy `p`. -/
def closeBlocks (p : Nat → Bool) : (blocks : List Nat) → Scan → Scan
  | [], s => s
  | b :: bs, s => if p b then closeBlocks p bs { s.push .blockEnd with blocks := bs } else s

/-- Closes the blocks that start right of the place. -/
def unindent (s : Scan) : Scan :=
  if s.inFlow then s else s.closeBlocks (s.spot.column < ·) s.blocks

/-- Closes all blocks. -/
def closeAll (s : Scan) : Scan :=
  if s.inFlow then s else s.closeBlocks (fun _ => true) s.blocks

/-- Opens a block at a column, with its token before the token `index`, unless one is open there. -/
def indent (s : Scan) (column index : Nat) (t : Token) : Scan :=
  if s.inFlow || s.blocks.head?.any (column ≤ ·) then s
  else { s with blocks := column :: s.blocks, tokens := s.tokens.insertIdx index t }

/-! ## Keys -/

/-- Gives up the place where a key may have started in the innermost brackets. -/
def dropKey (s : Scan) : Option Scan :=
  match s.keys with
  | some k :: ks => if k.required then none else some { s with keys := none :: ks }
  | _ => some s

/-- Notes that a key may start here. -/
def noteKey (s : Scan) : Option Scan :=
  if s.keyAllowed then do
    let s ← s.dropKey
    let required := ! s.inFlow && s.blocks.head? == some s.spot.column
    some { s with
      keys := some ⟨s.tokens.length, s.spot.line, s.spot.column, required⟩ :: s.keys.tail }
  else some s

/-- Gives up all places of earlier lines where a key may have started. -/
def dropStale (s : Scan) : Option Scan :=
  let isStale (k : KeyStart) := k.line < s.spot.line
  if s.keys.any fun k => k.any fun k => isStale k && k.required then none
  else some { s with keys := s.keys.map (·.filter (! isStale ·)) }

/-! ## Tokens -/

/-- A token of one or more characters behind which a key may start or not. -/
def simple (s : Scan) (t : Token) (length : Nat) (keyAllowed : Bool) : Scan :=
  ((s.push t).skip length).allowKey keyAllowed

/-- An opening bracket. -/
def openBracket (s : Scan) (t : Token) : Option Scan := do
  let s ← s.noteKey
  some ({ s with keys := none :: s.keys }.simple t 1 true)

/-- A closing bracket. -/
def closeBracket (s : Scan) (t : Token) : Option Scan := do
  let s ← s.dropKey
  let s := if s.inFlow then { s with keys := s.keys.tail } else s
  some (s.simple t 1 false)

/-- A dash in front of an item. -/
def itemMark (s : Scan) : Option Scan := do
  if ! s.inFlow && ! s.keyAllowed then none
  else
    let s ← (s.indent s.spot.column s.tokens.length .blockSequence).dropKey
    some (s.simple .item 1 true)

/-- A question mark in front of a key. -/
def keyMark (s : Scan) : Option Scan := do
  if ! s.inFlow && ! s.keyAllowed then none
  else
    let s ← (s.indent s.spot.column s.tokens.length .blockMapping).dropKey
    some (s.simple .key 1 (! s.inFlow))

/-- A colon in front of a value. -/
def valueMark (s : Scan) : Option Scan :=
  match s.keys with
  | some k :: ks =>
    let s := { s with keys := none :: ks, tokens := s.tokens.insertIdx k.index .key }
    some ((s.indent k.column k.index .blockMapping).simple .value 1 false)
  | _ =>
    if s.inFlow then some (s.simple .value 1 false)
    else if ! s.keyAllowed then none
    else some ((s.indent s.spot.column s.tokens.length .blockMapping).simple .value 1 true)

/-- Whether a character may stand in the name of an anchor. -/
def isAnchorChar (c : Char) : Bool := c.isAlphanum || c == '_' || c == '-'

/-- An anchor or a reference to one. -/
def anchorMark (s : Scan) (token : List Char → Token) : Option Scan := do
  let s ← s.noteKey
  let name := (s.spot.rest.drop 1).takeWhile isAnchorChar
  let rest := s.spot.rest.drop (name.length + 1)
  let ends := atSpace rest || startsOrEnds ("?:,]\x7d%@".toList ++ [Char.ofNat 0x60]).contains rest
  if name.isEmpty || ! ends then none
  else some (s.simple (token name) (name.length + 1) false)

/-- Whether a tag has a handle with a name, as in `!name!suffix`. -/
def hasNamedHandle (tag : List Char) : Bool :=
  match (tag.drop 1).span isAnchorChar with
  | (_ :: _, '!' :: _) => true
  | _ => false

/-- A tag.  Handles with names must be declared by a directive. -/
def tagMark (s : Scan) : Option Scan := do
  let s ← s.noteKey
  let isPart (c : Char) := ! isBlank c && ! isBreak c && ! (s.inFlow && ",[]\x7b\x7d".toList.contains c)
  let tag := s.spot.rest.takeWhile isPart
  if hasNamedHandle tag && ! s.tokens.contains .directive then none
  else some (s.simple .tag tag.length false)

/-- A quoted scalar. -/
def quoted (s : Scan) (single : Bool) : Option Scan := do
  let s ← s.noteKey
  let (text, spot) ← quotedScalar single s.spot
  some { s.push (.scalar false text) with spot, keyAllowed := false }

/-- A block scalar. -/
def block (s : Scan) (literal : Bool) : Option Scan := do
  let s ← s.dropKey
  let (text, spot) ← blockScalar literal s.blocks.head? s.spot
  some { s.push (.scalar false text) with spot, keyAllowed := true }

/-- A plain scalar. -/
def plain (s : Scan) : Option Scan := do
  let s ← s.noteKey
  let indent := (s.blocks.head?.map (· + 1)).getD 0
  let (text, broken, spot) ← plainScalar s.inFlow indent s.spot
  some { s.push (.scalar true text) with spot, keyAllowed := broken }

/-- The mark of a document, or a line of directives. -/
def documentMark (s : Scan) (t : Token) (length : Nat) : Option Scan := do
  let s ← s.closeAll.dropKey
  some (s.simple t length false)

/-- Whether a directive is one that can be obeyed: a known version, or a handle for tags. -/
def directiveOk (line : List Char) : Bool :=
  let parts := (Text.words line).takeWhile (! ['#'].isPrefixOf ·)
  match parts.map String.ofList with
  | ["%YAML", version] => version = "1.1" || version = "1.2"
  | ["%TAG", handle, _] => ['!'].isPrefixOf handle.toList
  | _ => false

/-- The characters that cannot start a plain scalar. -/
def indicators : List Char :=
  "-?:,[]\x7b\x7d#&*!|>\"%@".toList ++ [Char.ofNat 0x27, Char.ofNat 0x60]

/-- Reads the token that starts with `c` at the place. -/
def token (s : Scan) (c : Char) (cs : List Char) : Option Scan :=
  let flow := s.inFlow
  if s.spot.column = 0 ∧ c = '%' then
    let line := s.spot.rest.takeWhile (! isBreak ·)
    if directiveOk line then s.documentMark .directive line.length else none
  else if s.spot.atDocumentMark then
    s.documentMark (if c = '-' then .documentStart else .documentEnd) 3
  else if c = '[' then s.openBracket .openSequence
  else if c = '\x7b' then s.openBracket .openMapping
  else if c = ']' then s.closeBracket .closeSequence
  else if c = '\x7d' then s.closeBracket .closeMapping
  else if c = ',' then s.dropKey.map (·.simple .comma 1 true)
  else if c = '-' ∧ atSpace cs then s.itemMark
  else if c = '?' ∧ (flow ∨ atSpace cs) then s.keyMark
  else if c = ':' ∧ (flow ∨ atSpace cs) then s.valueMark
  else if c = '*' then s.anchorMark .reference
  else if c = '&' then s.anchorMark .anchor
  else if c = '!' then s.tagMark
  else if c = '|' ∧ ! flow then s.block true
  else if c = '>' ∧ ! flow then s.block false
  else if c.toNat = 0x27 then s.quoted true
  else if c = '"' then s.quoted false
  else if ! indicators.contains c || (c == '-' && ! startsOrEnds isBlank cs) ||
      (! flow && (c == '?' || c == ':') && ! atSpace cs) then
    if isBlank c then none else s.plain
  else none

/-- Reads all tokens. -/
def run : (fuel : Nat) → Scan → Option (List Token)
  | 0, _ => none
  | fuel + 1, s => do
    let s ← (skipSpace (s.spot.rest.length + 1) s).dropStale
    let s := s.unindent
    match s.spot.rest with
    | [] => some (← s.closeAll.dropKey).tokens
    | c :: cs => run fuel (← s.token c cs)

end Scan

/-- Whether a character may stand in a document. -/
def isAllowed (c : Char) : Bool :=
  let n := c.toNat
  n == 0x09 || n == 0x0A || n == 0x0D || (0x20 ≤ n && n ≤ 0x7E) || n == 0x85 ||
    (0xA0 ≤ n && n ≤ 0xFFFD) || 0x10000 ≤ n

/-- The tokens of a text.  A byte order mark at its start is passed over. -/
def tokens? (text : List Char) : Option (List Token) :=
  let text := match text with
    | c :: cs => if c.toNat = 0xFEFF then cs else c :: cs
    | [] => []
  if text.all isAllowed then Scan.run (text.length + 2) { spot := ⟨text, 0, 0⟩ } else none

end ProviderGlue.Yaml
