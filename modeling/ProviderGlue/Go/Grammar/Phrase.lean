import ProviderGlue.Go.Grammar.Lexeme

/-!
# Phrases and their recognition

A `Phrase` describes a piece of source text: words, symbols and lexemes put together by sequence,
ordered choice and repetition, with named rules for what contains itself.  `recognize` reads a
phrase from a text and gives the nodes that the phrase marks, with their text as written.

Between two tokens there may be white space and comments.  A comment becomes a node of its own
where the next token is read, outside the nodes that start with that token.  Line breaks are
remembered, because in some places they end a declaration.
-/

namespace ProviderGlue.Go.Grammar

/-- A node of recognized text. -/
inductive Tree (κ : Type) where
  /-- A marked piece of the text, with the nodes inside it. -/
  | node (kind : κ) (text : List Char) (children : List (Tree κ))
  /-- A comment. -/
  | comment (text : List Char)

namespace Tree

variable {κ : Type}

/-- The text of a node as written. -/
def text : Tree κ → List Char
  | node _ text _ => text
  | comment text => text

/-- The nodes inside a node. -/
def children : Tree κ → List (Tree κ)
  | node _ _ children => children
  | comment _ => []

/-- Whether the tree is a node of the given kind. -/
def is [BEq κ] (kind : κ) : Tree κ → Bool
  | node k _ _ => k == kind
  | comment _ => false

/-- The nodes of the given kind directly inside a node. -/
def all [BEq κ] (kind : κ) (tree : Tree κ) : List (Tree κ) :=
  tree.children.filter (is kind)

/-- The first node of the given kind directly inside a node. -/
def first? [BEq κ] (kind : κ) (tree : Tree κ) : Option (Tree κ) :=
  tree.children.find? (is kind)

end Tree

/-! ## Phrases -/

/-- The groups of lexemes other than words and symbols. -/
inductive Literal where
  | number | string | rune

/-- A description of source text, with named rules `ρ` and kinds of nodes `κ`. -/
inductive Phrase (ρ κ : Type) where
  /-- No text at all. -/
  | nothing
  /-- The given word. -/
  | word (w : String)
  /-- Any word but the given ones. -/
  | name (reserved : List String)
  /-- The given symbol. -/
  | symbol (s : String)
  /-- A literal of the group. -/
  | literal (group : Literal)
  /-- One phrase after the other. -/
  | seq (first second : Phrase ρ κ)
  /-- The first phrase, or else the second. -/
  | alt (first second : Phrase ρ κ)
  /-- The phrase as often as it can be read. -/
  | many (p : Phrase ρ κ)
  /-- Reads nothing, where the phrase could be read. -/
  | ahead (p : Phrase ρ κ)
  /-- Reads nothing, where the phrase could not be read. -/
  | notAhead (p : Phrase ρ κ)
  /-- Reads nothing, where no line break precedes the next token. -/
  | sameLine
  /-- The line break before the next token. -/
  | lineBreak
  /-- The end of the text. -/
  | endOfText
  /-- A node with the text of the phrase. -/
  | node (kind : κ) (p : Phrase ρ κ)
  /-- The phrase without its nodes. -/
  | unmarked (p : Phrase ρ κ)
  /-- A named rule. -/
  | call (rule : ρ)

namespace Phrase

variable {ρ κ : Type}

instance : Append (Phrase ρ κ) := ⟨seq⟩

instance : OrElse (Phrase ρ κ) := ⟨fun p q => alt p (q ())⟩

/-- The phrase, or nothing. -/
def maybe (p : Phrase ρ κ) : Phrase ρ κ := alt p nothing

/-- One or more of the phrase with `sep` between them. -/
def sepBy1 (p sep : Phrase ρ κ) : Phrase ρ κ := p ++ many (sep ++ p)

/-- The first of the phrases that can be read. -/
def oneOf : List (Phrase ρ κ) → Phrase ρ κ
  | [] => notAhead nothing
  | [p] => p
  | p :: ps => alt p (oneOf ps)

/-- One of the symbols, the first that can be read. -/
def symbols (ss : List String) : Phrase ρ κ := oneOf (ss.map symbol)

end Phrase

/-! ## Places in the text -/

/-- A place before a token. -/
structure Cursor where
  /-- The text from the token on. -/
  rest : List Char
  /-- The number of characters before the token. -/
  position : Nat
  /-- The number of characters up to the end of the token before. -/
  ended : Nat
  /-- Whether a line break precedes the token. -/
  lineBreak : Bool
  /-- The comments before the token. -/
  comments : List (List Char)

namespace Cursor

/-- The place at the next token of `text`, in front of which `ended` characters have been read and
of which `position` characters are known to be passed over. -/
def skip (ended position : Nat) (lineBreak : Bool) (comments : List (List Char)) :
    (text : List Char) → Cursor
  | [] => ⟨[], position, ended, lineBreak, comments⟩
  | c :: cs =>
    if Lexeme.isSpace c then skip ended (position + 1) (lineBreak || c == '\n') comments cs
    else match _h : Lexeme.comment? (c :: cs) with
      | some (body, rest) =>
        skip ended (position + body.length) lineBreak (comments ++ [body]) rest
      | none => ⟨c :: cs, position, ended, lineBreak, comments⟩
termination_by text => text.length
decreasing_by
  · simp
  · exact Lexeme.length_comment? _h

/-- The place at the first token of a text.  A byte order mark at its start is passed over. -/
def start : (text : List Char) → Cursor
  | c :: cs => if c.toNat = 0xFEFF then skip 0 1 false [] cs else skip 0 0 false [] (c :: cs)
  | [] => skip 0 0 false [] []

/-- The place behind a token of `length` characters that is followed by `rest`. -/
def behind (c : Cursor) (length : Nat) (rest : List Char) : Cursor :=
  skip (c.position + length) (c.position + length) false [] rest

/-- The text from `first` up to the end of the token before `last`. -/
def textUpTo (first last : Cursor) : List Char :=
  first.rest.take (last.ended - first.position)

end Cursor

/-! ## Recognition -/

/-- The nodes that were read and the place behind them. -/
abbrev Outcome (κ : Type) := Option (List (Tree κ) × Cursor)

namespace Phrase

variable {ρ κ : Type}

/-- Reads a token that `lexeme` finds at the place. -/
def token (c : Cursor) (lexeme : Read) : Outcome κ :=
  lexeme.map fun (length, rest) => (c.comments.map .comment, c.behind length rest)

/-- Reads a word that satisfies `p`. -/
def wordWhere (p : List Char → Bool) (c : Cursor) : Outcome κ :=
  token c <| (Lexeme.identifier? c.rest).bind fun (w, rest) =>
    if p w then some (w.length, rest) else none

/-- Reads a literal of the group. -/
def readLiteral (group : Literal) (c : Cursor) : Outcome κ :=
  token c <| match group with
    | .number => Lexeme.number? c.rest
    | .string => Lexeme.string? c.rest
    | .rune => Lexeme.rune? c.rest

/-- Takes steps as long as they succeed and get ahead, at most `limit` of them. -/
def readMany (step : Cursor → Outcome κ) : (limit : Nat) → (c : Cursor) →
    List (Tree κ) × Cursor
  | 0, c => ([], c)
  | limit + 1, c =>
    match step c with
    | none => ([], c)
    | some (trees, c') =>
      if c'.ended = c.ended ∧ c'.lineBreak = c.lineBreak then ([], c) else
        let (more, c'') := readMany step limit c'
        (trees ++ more, c'')

/-- Reads a phrase whose rules are read by `rule`. -/
def read (rule : ρ → Cursor → Outcome κ) : Phrase ρ κ → Cursor → Outcome κ
  | nothing, c => some ([], c)
  | word w, c => wordWhere (· == w.toList) c
  | name reserved, c => wordWhere (fun w => ! reserved.contains (String.ofList w)) c
  | symbol s, c =>
    token c ((Text.afterPrefix? s.toList c.rest).map fun rest => (s.length, rest))
  | literal group, c => readLiteral group c
  | seq p q, c =>
    match p.read rule c with
    | none => none
    | some (before, c) => (q.read rule c).map fun (after, c) => (before ++ after, c)
  | alt p q, c => (p.read rule c).orElse fun _ => q.read rule c
  | many p, c => some (readMany (p.read rule) (2 * c.rest.length + 1) c)
  | ahead p, c => (p.read rule c).map fun _ => ([], c)
  | notAhead p, c => if (p.read rule c).isSome then none else some ([], c)
  | sameLine, c => if c.lineBreak then none else some ([], c)
  | lineBreak, c => if c.lineBreak then some ([], { c with lineBreak := false }) else none
  | endOfText, c => if c.rest.isEmpty then some (c.comments.map .comment, c) else none
  | node kind p, c =>
    (p.read rule { c with comments := [] }).map fun (inside, c') =>
      (c.comments.map .comment ++ [.node kind (c.textUpTo c') inside], c')
  | unmarked p, c => (p.read rule c).map fun (_, c) => ([], c)
  | call r, c => rule r c

/-- Reads a rule that may call rules `fuel` deep. -/
def readRule (rules : ρ → Phrase ρ κ) : (fuel : Nat) → ρ → Cursor → Outcome κ
  | 0, _, _ => none
  | fuel + 1, r, c => (rules r).read (readRule rules fuel) c

end Phrase

/-- The nodes of a text that a rule describes.  Rules that read a token after at most `depth` calls
never run out of calls. -/
def recognize {ρ κ : Type} (rules : ρ → Phrase ρ κ) (depth : Nat) (rule : ρ) (text : List Char) :
    Option (List (Tree κ)) :=
  (Phrase.readRule rules (depth * (text.length + 2)) rule (Cursor.start text)).map (·.1)

end ProviderGlue.Go.Grammar
