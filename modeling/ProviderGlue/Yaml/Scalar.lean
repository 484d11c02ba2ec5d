import ProviderGlue.Text.Basic

/-!
# Scalars of YAML

The texts of the five styles of scalars.  Inside a scalar a single line break counts as a blank, and
of several line breaks the first one is dropped; a literal block keeps all of them.
-/

namespace ProviderGlue.Yaml

/-! ## Places -/

/-- A place in a text. -/
structure Spot where
  /-- The text from there on. -/
  rest : List Char
  /-- The number of the line. -/
  line : Nat := 0
  /-- The number of characters before the place in its line. -/
  column : Nat := 0

/-- Whether a character breaks the line. -/
def isBreak (c : Char) : Bool :=
  c == '\n' || c == '\r' || c.toNat == 0x85 || c.toNat == 0x2028 || c.toNat == 0x2029

/-- Whether a character is a blank within a line. -/
def isBlank (c : Char) : Bool := c == ' ' || c == '\t'

/-- Whether the text starts with a character of a class, or ends. -/
def startsOrEnds (p : Char → Bool) : (text : List Char) → Bool
  | [] => true
  | c :: _ => p c

/-- Whether the text starts with a blank or a line break, or ends. -/
def atSpace (text : List Char) : Bool := startsOrEnds (fun c => isBlank c || isBreak c) text

/-- Whether the text starts with a line break, or ends. -/
def atLineEnd (text : List Char) : Bool := startsOrEnds isBreak text

namespace Spot

/-- Whether the next character is in a class. -/
def at? (s : Spot) (p : Char → Bool) : Bool :=
  match s.rest with
  | [] => false
  | c :: _ => p c

/-- The place some characters further in the line. -/
def skip (s : Spot) (n : Nat) : Spot := { s with rest := s.rest.drop n, column := s.column + n }

/-- The start of the next line, and the line break before it as a text. -/
def breakLine (s : Spot) : Spot × List Char :=
  match s.rest with
  | '\r' :: '\n' :: cs => (⟨cs, s.line + 1, 0⟩, ['\n'])
  | c :: cs =>
    (⟨cs, s.line + 1, 0⟩, [if c.toNat = 0x2028 ∨ c.toNat = 0x2029 then c else '\n'])
  | [] => (s, [])

/-- Whether a line that marks the start or the end of a document is next. -/
def atDocumentMark (s : Spot) : Bool :=
  s.column == 0 && (["---", "..."].any fun mark =>
    mark.toList.isPrefixOf s.rest && atSpace (s.rest.drop 3))

end Spot

/-! ## Space inside scalars -/

/-- The space between two words of a scalar. -/
structure Gap where
  /-- The blanks, if no line breaks. -/
  blanks : List Char := []
  /-- The first line break. -/
  first : List Char := []
  /-- The other line breaks. -/
  others : List Char := []
  /-- Whether the line breaks. -/
  broken : Bool := false

/-- What a gap stands for. -/
def Gap.fold (g : Gap) : List Char :=
  if ! g.broken then g.blanks
  else if g.first = ['\n'] then (if g.others.isEmpty then [' '] else g.others)
  else g.first ++ g.others

/-- Reads blanks and line breaks.  A tab before the column `indent` of a further line is refused. -/
def readGap (indent : Nat) : (fuel : Nat) → Gap → Spot → Option (Gap × Spot)
  | 0, _, _ => none
  | fuel + 1, g, s =>
    match s.rest with
    | [] => some (g, s)
    | c :: _ =>
      if isBlank c then
        if g.broken then
          if c = '\t' ∧ s.column < indent then none else readGap indent fuel g (s.skip 1)
        else readGap indent fuel { g with blanks := g.blanks ++ [c] } (s.skip 1)
      else if isBreak c then
        let (next, text) := s.breakLine
        if g.broken then readGap indent fuel { g with others := g.others ++ text } next
        else readGap indent fuel { g with blanks := [], first := text, broken := true } next
      else some (g, s)

/-! ## Plain scalars -/

/-- Whether a plain scalar ends before the text; `flow` says whether it stands in brackets. -/
def endsPlain (flow : Bool) : (text : List Char) → Bool
  | [] => true
  | c :: cs =>
    isBlank c || isBreak c || (c == ':' && atSpace cs) || (flow && ",[]\x7b\x7d".toList.contains c)

/-- A word of a plain scalar.  In brackets a colon before a bracket or comma is refused. -/
def plainWord (flow : Bool) : (fuel : Nat) → Spot → Option (List Char × Spot)
  | 0, _ => none
  | fuel + 1, s =>
    match s.rest with
    | [] => some ([], s)
    | c :: cs =>
      if endsPlain flow (c :: cs) then some ([], s)
      else if flow && c == ':' && ! startsOrEnds (fun d => ! ",?[]\x7b\x7d".toList.contains d) cs then
        none
      else (plainWord flow fuel (s.skip 1)).map fun (word, s) => (c :: word, s)

/-- The words of a plain scalar, with the gap before the first one.  Gives also whether the scalar
is followed by a line break. -/
def plainWords (flow : Bool) (indent : Nat) :
    (fuel : Nat) → Gap → Spot → Option (List Char × Bool × Spot)
  | 0, _, _ => none
  | fuel + 1, g, s =>
    if s.atDocumentMark || s.at? (· == '#') then some ([], g.broken, s)
    else do
      let (word, s) ← plainWord flow fuel s
      if word.isEmpty then some ([], g.broken, s)
      else
        let text := g.fold ++ word
        let (g, s) ← readGap indent (s.rest.length + 1) {} s
        if ! g.broken && g.blanks.isEmpty then some (text, false, s)
        else if ! flow && s.column < indent then some (text, g.broken, s)
        else
          let (more, broken, s) ← plainWords flow indent fuel g s
          some (text ++ more, broken, s)

/-- A plain scalar.  Further lines start at the column `indent` at least. -/
def plainScalar (flow : Bool) (indent : Nat) (s : Spot) : Option (List Char × Bool × Spot) :=
  plainWords flow indent (s.rest.length + 2) {} s

/-! ## Quoted scalars -/

/-- The value of a hexadecimal digit. -/
def hexValue? (c : Char) : Option Nat :=
  if '0' ≤ c ∧ c ≤ '9' then some (c.toNat - '0'.toNat)
  else if 'a' ≤ c ∧ c ≤ 'f' then some (c.toNat - 'a'.toNat + 10)
  else if 'A' ≤ c ∧ c ≤ 'F' then some (c.toNat - 'A'.toNat + 10)
  else none

/-- The number that some hexadecimal digits write. -/
def hexNumber? (digits : List Char) : Option Nat :=
  digits.foldlM (fun n c => (hexValue? c).map (n * 16 + ·)) 0

/-- The characters that a letter behind a backslash stands for. -/
def escapes : List (Char × Nat) :=
  [('0', 0), ('a', 7), ('b', 8), ('t', 9), ('\t', 9), ('n', 10), ('v', 11), ('f', 12), ('r', 13),
    ('e', 27), (' ', 32), ('"', 34), ('/', 47), ('\\', 92), ('N', 0x85), ('_', 0xA0),
    ('L', 0x2028), ('P', 0x2029)]

/-- How many hexadecimal digits follow a letter behind a backslash. -/
def escapeLengths : List (Char × Nat) := [('x', 2), ('u', 4), ('U', 8)]

/-- The character that is written behind a backslash. -/
def escape? (s : Spot) : Option (Char × Spot) :=
  match s.rest with
  | [] => none
  | c :: cs =>
    match escapes.lookup c, escapeLengths.lookup c with
    | some code, _ => some (Char.ofNat code, s.skip 1)
    | none, some n => do
      let digits := cs.take n
      let code ← if digits.length = n then hexNumber? digits else none
      if code.isValidChar then some (Char.ofNat code, s.skip (n + 1)) else none
    | none, none => none

/-- The quote of a quoted scalar. -/
def quoteOf (single : Bool) : Char := if single then Char.ofNat 0x27 else '"'

/-- The characters of a quoted scalar up to the next space or the quote, and whether they end in an
escaped line break. -/
def quotedWord (single : Bool) : (fuel : Nat) → Spot → Option (List Char × Bool × Spot)
  | 0, _ => none
  | fuel + 1, s =>
    let quote := quoteOf single
    match s.rest with
    | [] => some ([], false, s)
    | c :: cs =>
      if isBlank c || isBreak c then some ([], false, s)
      else if c = quote then
        if single && cs.head? == some quote then
          (quotedWord single fuel (s.skip 2)).map fun (word, b, s) => (quote :: word, b, s)
        else some ([], false, s)
      else if ! single && c == '\\' then
        if (s.skip 1).at? isBreak then some ([], true, ((s.skip 1).breakLine).1)
        else do
          let (d, s) ← escape? (s.skip 1)
          let (word, b, s) ← quotedWord single fuel s
          some (d :: word, b, s)
      else (quotedWord single fuel (s.skip 1)).map fun (word, b, s) => (c :: word, b, s)

/-- The rest of a quoted scalar. -/
def quotedWords (single : Bool) : (fuel : Nat) → Spot → Option (List Char × Spot)
  | 0, _ => none
  | fuel + 1, s =>
    if s.atDocumentMark || s.rest.isEmpty then none
    else do
      let (word, escapedBreak, s) ← quotedWord single (s.rest.length + 1) s
      if ! escapedBreak && s.at? (· == quoteOf single) then some (word, s.skip 1)
      else
        let (g, s) ← readGap 0 (s.rest.length + 1) { broken := escapedBreak } s
        let (more, s) ← quotedWords single fuel s
        some (word ++ g.fold ++ more, s)

/-- A quoted scalar. -/
def quotedScalar (single : Bool) (s : Spot) : Option (List Char × Spot) :=
  quotedWords single (s.rest.length + 1) (s.skip 1)

/-! ## Block scalars -/

/-- What becomes of the line breaks at the end of a block. -/
inductive Chomping where
  | strip | clip | keep
deriving DecidableEq

/-- The indicators behind the mark of a block: chomping and indentation, in either order. -/
def blockHeader (text : List Char) : Option (Chomping × Nat × Nat) :=
  let chomping? (c : Char) : Option Chomping :=
    if c = '+' then some .keep else if c = '-' then some .strip else none
  let digit? (c : Char) : Option Nat := if c.isDigit then some (c.toNat - '0'.toNat) else none
  match text with
  | [] => some (.clip, 0, 0)
  | c :: cs =>
    match chomping? c, digit? c with
    | some chomping, _ =>
      match cs.head?.bind digit? with
      | some 0 => none
      | some n => some (chomping, n, 2)
      | none => some (chomping, 0, 1)
    | none, some 0 => none
    | none, some n =>
      match cs.head?.bind chomping? with
      | some chomping => some (chomping, n, 2)
      | none => some (.clip, n, 1)
    | none, none => some (.clip, 0, 0)

/-- Passes over blank lines and indentation up to the column `indent`, or as far as it goes if that
is zero.  Gives the line breaks and the greatest column. -/
def blockBreaks (indent : Nat) : (fuel : Nat) → (greatest : Nat) → Spot →
    Option (List Char × Nat × Spot)
  | 0, _, _ => none
  | fuel + 1, greatest, s =>
    let before := indent = 0 ∨ s.column < indent
    if before ∧ s.at? (· == ' ') then blockBreaks indent fuel greatest (s.skip 1)
    else
      let greatest := max greatest s.column
      if before ∧ s.at? (· == '\t') then none
      else if s.at? isBreak then
        let (next, text) := s.breakLine
        (blockBreaks indent fuel greatest next).map fun (more, g, s) => (text ++ more, g, s)
      else some ([], greatest, s)

/-- The lines of a block that starts at the column `indent`.  `first` and `others` are the line
breaks before the line at hand, and `blank` says whether the line before starts with a blank. -/
def blockLines (literal : Bool) (chomping : Chomping) (indent : Nat) : (fuel : Nat) →
    (first others : List Char) → (blank : Bool) → Spot → Option (List Char × Spot)
  | 0, _, _, _, _ => none
  | fuel + 1, first, others, blank, s =>
    if s.column = indent ∧ ! s.rest.isEmpty then do
      let blankNow := s.at? isBlank
      let joint :=
        if ! literal && first == ['\n'] && ! blank && ! blankNow then
          (if others.isEmpty then [' '] else [])
        else first
      let line := s.rest.takeWhile (! isBreak ·)
      let (next, text) := (s.skip line.length).breakLine
      let (breaks, _, next) ← blockBreaks indent (next.rest.length + 1) 0 next
      let (more, last) ← blockLines literal chomping indent fuel text breaks blankNow next
      some (joint ++ others ++ line ++ more, last)
    else
      some ((if chomping = .strip then [] else first) ++
        (if chomping = .keep then others else []), s)

/-- A block scalar inside a block that starts at the column `parent`, or at the top if there is
none. -/
def blockScalar (literal : Bool) (parent : Option Nat) (s : Spot) : Option (List Char × Spot) := do
  let s := s.skip 1
  let (chomping, increment, length) ← blockHeader s.rest
  let s := s.skip length
  let s := s.skip (s.rest.takeWhile isBlank).length
  let s := if s.at? (· == '#') then s.skip (s.rest.takeWhile (! isBreak ·)).length else s
  if ! atLineEnd s.rest then none
  else
    let start := s.breakLine.1
    let least := (parent.map (· + 1)).getD 0
    let given := if increment = 0 then 0 else (parent.getD 0) + increment
    let (breaks, greatest, start) ← blockBreaks given (start.rest.length + 1) 0 start
    let indent := if given = 0 then max 1 (max least greatest) else given
    blockLines literal chomping indent (start.rest.length + 1) [] breaks false start

end ProviderGlue.Yaml
