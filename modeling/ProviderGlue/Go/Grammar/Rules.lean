import ProviderGlue.Go.Grammar.Phrase

/-!
# The grammar of Go source files

The rules cover whole files, function bodies included, so that a text is a source file or is
refused as a whole.  Nodes are marked where later stages look: imports, type declarations with the
fields of structs, methods with their parameters, and constants.

Three things depend on where an expression stands (`Position`): whether a line break ends it,
whether a brace behind a type name opens a literal or a block, and whether an assignment may follow.
-/

namespace ProviderGlue.Go.Grammar

/-- The kinds of nodes that are marked. -/
inductive Kind where
  | importSpec | name | path
  | typeSpec | structType | typeName | pointerType | genericType | otherType
  | field | embedded | tag
  | method | receiver | parameters | results | result | parameter | variadic
  | constants | constSpec | separator | values | value
deriving DecidableEq

/-- Where an expression stands. -/
inductive Position where
  /-- Between brackets, where line breaks are blanks. -/
  | inner
  /-- In a statement or declaration, which a line break ends. -/
  | statement
  /-- In the communication of a `select` clause. -/
  | clause
  /-- Before the block of an `if`, `for` or `switch`. -/
  | header
  /-- Before the semicolon in front of a header. -/
  | initializer
  /-- In a header that may be a type switch. -/
  | guard
deriving DecidableEq

namespace Position

/-- Whether a line break ends what stands here. -/
def endsAtLine : Position → Bool
  | statement => true
  | _ => false

/-- Whether a brace may open a block behind what stands here. -/
def beforeBlock : Position → Bool
  | header | initializer | guard => true
  | _ => false

/-- Whether an assignment may follow what stands here. -/
def mayAssign : Position → Bool
  | inner => false
  | _ => true

end Position

/-- The rules that contain themselves. -/
inductive Rule where
  | file
  | type (endsAtLine : Bool)
  | typeArguments
  | parameters
  | expression (p : Position)
  | operand (p : Position)
  | literalValue
  | statement
  | statements
  | block
  | conditional
deriving DecidableEq

/-- A phrase of the grammar. -/
abbrev Rule.Phrase := Grammar.Phrase Rule Kind

namespace Rule

open Grammar.Phrase

/-- A word or symbol as it stands. -/
def tok (s : String) : Rule.Phrase :=
  if (s.toList.all Char.isAlpha) then word s else symbol s

/-- The phrase, which stands on the same line if a line break would end what is before it. -/
def inLine (endsAtLine : Bool) (p : Rule.Phrase) : Rule.Phrase :=
  if endsAtLine then sameLine ++ p else p

/-- The end of a declaration or statement.  A null character counts as one. -/
def terminator : Rule.Phrase := oneOf [tok ";", lineBreak, tok "\x00"]

/-- Items between brackets, each ended but the last, which need not be. -/
def terminated (item : Rule.Phrase) : Rule.Phrase :=
  maybe (sepBy1 item terminator ++ maybe terminator)

/-- Items between brackets, each ended. -/
def allTerminated (item : Rule.Phrase) : Rule.Phrase :=
  many (item ++ terminator)

/-- Items with commas between them and perhaps one behind the last. -/
def commaList (item : Rule.Phrase) : Rule.Phrase :=
  sepBy1 item (tok ",") ++ maybe (tok ",")

/-- A phrase in round brackets. -/
def inParens (p : Rule.Phrase) : Rule.Phrase := tok "(" ++ p ++ tok ")"

/-- A phrase in square brackets. -/
def inBrackets (p : Rule.Phrase) : Rule.Phrase := tok "[" ++ p ++ tok "]"

/-- The opening brace. -/
def openBrace : Rule.Phrase := tok "\x7b"

/-- The closing brace. -/
def closeBrace : Rule.Phrase := tok "\x7d"

/-- A phrase in braces. -/
def inBraces (p : Rule.Phrase) : Rule.Phrase := openBrace ++ p ++ closeBrace

/-! ## Words -/

/-- The words that start a type. -/
def typeWords : List String := ["func", "struct", "map", "chan", "interface"]

/-- The words that start a statement. -/
def statementWords : List String :=
  ["const", "type", "var", "return", "go", "defer", "if", "for", "switch", "select",
    "fallthrough", "break", "continue", "goto"]

/-- The words that start a clause of a `switch` or `select`. -/
def clauseWords : List String := ["case", "default"]

/-- Any word. -/
def anyName : Rule.Phrase := Phrase.name []

/-- A word that may stand for a type. -/
def typeIdentifier : Rule.Phrase := Phrase.name typeWords

/-! ## Types -/

/-- The name of a type, with its package if it has one. -/
def namedType (endsAtLine : Bool) : Rule.Phrase :=
  node .otherType (typeIdentifier ++ inLine endsAtLine (tok ".") ++ anyName) <|>
  node .typeName typeIdentifier

/-- A name of a type with type arguments. -/
def genericType (endsAtLine : Bool) : Rule.Phrase :=
  node .genericType (namedType endsAtLine ++ unmarked (inLine endsAtLine (call typeArguments)))

/-- Types joined by bars, as they constrain type parameters. -/
def constraint (endsAtLine : Bool) : Rule.Phrase :=
  sepBy1 (call (type endsAtLine)) (inLine endsAtLine (tok "|"))

/-- The type parameters of a declaration. -/
def typeParameters : Rule.Phrase :=
  unmarked <| inBrackets <| commaList <|
    sepBy1 anyName (tok ",") ++ constraint false

/-- The result of a function, when it is a type. -/
def plainResult (endsAtLine : Bool) : Rule.Phrase :=
  notAhead (tok "(") ++ call (type endsAtLine)

/-- The parameters and the result of a function. -/
def signature (endsAtLine : Bool) : Rule.Phrase :=
  call parameters ++ maybe (inLine endsAtLine (call parameters <|> plainResult endsAtLine))

/-- One field declaration of a struct. -/
def structField : Rule.Phrase :=
  let embedded := node .embedded (maybe (tok "*") ++ (genericType true <|> namedType true)) ++
    maybe (sameLine ++ literal .string) ++ ahead (terminator <|> closeBrace)
  let names := node .name anyName ++
    ((tok "," ++ sepBy1 (node .name anyName) (tok ",")) <|> sameLine)
  let named := names ++ call (type true) ++ maybe (sameLine ++ node .tag (literal .string))
  node .field (embedded <|> named)

/-- One element of an interface. -/
def interfaceElement : Rule.Phrase :=
  (anyName ++ signature true) <|> constraint true

/-- The types that may be written out in front of a literal. -/
def structType : Rule.Phrase :=
  node .structType (tok "struct" ++ inBraces (terminated structField))

/-- A map type. -/
def mapType (endsAtLine : Bool) : Rule.Phrase :=
  tok "map" ++ inBrackets (call (type false)) ++ call (type endsAtLine)

/-- A slice type or an array type. -/
def arrayType (endsAtLine : Bool) : Rule.Phrase :=
  inBrackets (maybe (call (expression .inner))) ++ call (type endsAtLine)

/-- An interface type. -/
def interfaceType : Rule.Phrase :=
  tok "interface" ++ inBraces (terminated interfaceElement)

/-- A channel type. -/
def channelType (endsAtLine : Bool) : Rule.Phrase :=
  ((tok "chan" ++ maybe (tok "<-")) <|> (tok "<-" ++ tok "chan")) ++ call (type endsAtLine)

/-- Any type. -/
def anyType (endsAtLine : Bool) : Rule.Phrase :=
  oneOf [
    structType,
    node .pointerType (tok "*" ++ call (type endsAtLine)),
    node .otherType <| oneOf [
      inParens (call (type false)),
      arrayType endsAtLine,
      mapType endsAtLine,
      interfaceType,
      channelType endsAtLine,
      tok "func" ++ signature endsAtLine,
      tok "~" ++ call (type endsAtLine)],
    genericType endsAtLine,
    namedType endsAtLine]

/-- One entry of a parameter list. -/
def parameterEntry : Rule.Phrase :=
  oneOf [
    node .variadic (maybe (node .name typeIdentifier) ++ tok "..." ++ call (type false)),
    node .parameter (node .name typeIdentifier ++ call (type false)),
    node .parameter (call (type false))]

/-- The entries of a parameter list. -/
def parameterList : Rule.Phrase :=
  inParens (maybe (sepBy1 parameterEntry (tok ",")) ++ maybe (tok ","))

/-! ## Expressions -/

/-- Expressions with commas between them. -/
def expressions (p : Position) : Rule.Phrase :=
  sepBy1 (call (expression p)) (inLine p.endsAtLine (tok ","))

/-- The operators that assign. -/
def assignments : List String :=
  ["=", "+=", "-=", "*=", "/=", "%=", "<<=", ">>=", "&=", "|=", "^=", "&^="]

/-- What assigns and might be taken for the start of an operator. -/
def assigning : List String :=
  ["++", "--", "<-"] ++ assignments.drop 1

/-- An operator between two expressions. -/
def binaryOperator (p : Position) : Rule.Phrase :=
  inLine p.endsAtLine <|
    (if p.mayAssign then notAhead (symbols assigning) else nothing) ++
    symbols ["<<", ">>", "&^", "&&", "||", "==", "!=", "<=", ">=", "+", "-", "*", "/", "%", "&",
      "|", "^", "<", ">"]

/-- An expression: operands joined by operators. -/
def operation (p : Position) : Rule.Phrase :=
  let signs := symbols ["<-", "+", "-", "!", "^", "*", "&"]
  sepBy1 (many signs ++ call (operand p)) (binaryOperator p)

/-- What stands between the brackets behind an operand: an index, the bounds of a slice, or types. -/
def index : Rule.Phrase :=
  let bound := call (expression .inner)
  let bounds := tok ":" ++ maybe (bound ++ maybe (tok ":" ++ bound))
  oneOf [
    inBrackets (bound ++ maybe bounds),
    inBrackets bounds,
    inBrackets (commaList (call (type false)))]

/-- The arguments of a call. -/
def arguments : Rule.Phrase :=
  inParens (maybe (commaList (call (expression .inner) ++ maybe (tok "..."))))

/-- The end of a type switch guard. -/
def typeGuard : Rule.Phrase := tok "." ++ inParens (tok "type")

/-- What may follow an operand. -/
def suffix (p : Position) : Rule.Phrase :=
  inLine p.endsAtLine <| oneOf [
    tok "." ++ anyName,
    (if p = .guard then notAhead typeGuard else nothing) ++
      tok "." ++ inParens (call (type false)),
    index,
    arguments]

/-- What shows, before a block, that the braces just read belong to a literal. -/
def afterLiteral (p : Position) : Rule.Phrase :=
  if p.beforeBlock then
    ahead (sameLine ++ oneOf ([openBrace, binaryOperator p, tok ".", tok "(", tok "[", tok ","] ++
      if p = .initializer then [tok ";"] else []))
  else nothing

/-- A literal of a named type. -/
def namedLiteral (p : Position) : Rule.Phrase :=
  let line := inLine p.endsAtLine
  typeIdentifier ++ maybe (line (tok ".") ++ anyName) ++ maybe (line (call typeArguments)) ++
    line (call literalValue) ++ afterLiteral p

/-- A type that is written out, with the value that is made of it. -/
def typeOperand : Rule.Phrase :=
  let converted := inParens (call (expression .inner) ++ maybe (tok ","))
  oneOf [
    inBrackets (tok "...") ++ call (type false) ++ call literalValue,
    oneOf [arrayType false, mapType false, structType] ++ (call literalValue <|> converted),
    (interfaceType <|> channelType false) ++ converted]

/-- The first part of an operand. -/
def operandHead (p : Position) : Rule.Phrase :=
  oneOf [
    literal .number, literal .string, literal .rune,
    inParens (call (expression .inner)),
    inParens (call (type false)) ++ ahead (tok "("),
    tok "func" ++ signature false ++ call block,
    typeOperand,
    (tok "new" <|> tok "make") ++
      inParens (maybe (call (type false) ++ many (tok "," ++ call (expression .inner)) ++
        maybe (tok ","))),
    namedLiteral p,
    typeIdentifier]

/-- The braces of a literal. -/
def braces : Rule.Phrase :=
  let value := call literalValue <|> call (expression .inner)
  inBraces (maybe (sepBy1 (value ++ maybe (tok ":" ++ value)) (tok ",")) ++ maybe (tok ","))

/-! ## Declarations -/

/-- One specification of constants; `valued` says that it must have values. -/
def constSpec (valued : Bool) : Rule.Phrase :=
  let names := node .name anyName ++ many (sameLine ++ node .separator (tok ",") ++ node .name anyName)
  let value := node .value (unmarked (call (expression .statement)))
  let values := node .values (sepBy1 value (sameLine ++ tok ","))
  let given := sameLine ++ maybe (call (type false)) ++ tok "=" ++ values
  node .constSpec (names ++ if valued then given else maybe given)

/-- A declaration of constants. -/
def constDeclaration : Rule.Phrase :=
  node .constants (tok "const" ++
    (inParens (allTerminated (constSpec false)) <|> constSpec false))

/-- One specification of variables; `valued` says that it must have values. -/
def varSpec (valued : Bool) : Rule.Phrase :=
  let values := tok "=" ++ expressions .statement
  let given := sameLine ++ values
  sepBy1 anyName (tok ",") ++
    ((call (type true) ++ if valued then given else maybe given) <|> values)

/-- A declaration of variables. -/
def varDeclaration : Rule.Phrase :=
  unmarked (tok "var" ++ (inParens (allTerminated (varSpec false)) <|> varSpec false))

/-- One specification of a type. -/
def typeSpec : Rule.Phrase :=
  let name := node .name typeIdentifier
  oneOf [
    unmarked (name ++ maybe typeParameters ++ tok "=" ++ call (type true)),
    node .typeSpec (name ++ call (type true)),
    node .typeSpec (name ++ typeParameters ++ call (type true))]

/-- A declaration of types. -/
def typeDeclaration : Rule.Phrase :=
  tok "type" ++ (inParens (allTerminated typeSpec) <|> typeSpec)

/-- The declarations that may also stand in a block. -/
def declaration : Rule.Phrase :=
  oneOf [constDeclaration, varDeclaration, typeDeclaration]

/-- One import. -/
def importSpec : Rule.Phrase :=
  node .importSpec (maybe (node .name (tok "." <|> anyName)) ++ node .path (literal .string))

/-- The body of a function, if it has one. -/
def body : Rule.Phrase := maybe (sameLine ++ unmarked (call block))

/-- A method. -/
def method : Rule.Phrase :=
  let result := node .results (call parameters) <|> node .result (plainResult true)
  node .method (tok "func" ++ node .receiver (call parameters) ++ node .name anyName ++
    node .parameters (call parameters) ++ maybe (sameLine ++ result) ++ body)

/-- The declarations that stand only at the top. -/
def topLevel : Rule.Phrase :=
  oneOf [
    tok "package" ++ anyName,
    tok "import" ++ (inParens (terminated importSpec) <|> importSpec),
    method,
    unmarked (tok "func" ++ anyName ++ maybe typeParameters ++ signature true ++ body)]

/-! ## Statements -/

/-- A statement without words of its own. -/
def simple (p : Position) : Rule.Phrase :=
  let line := inLine p.endsAtLine
  call (expression p) ++ maybe (oneOf [
    line (tok "<-") ++ call (expression p),
    line (tok "++" <|> tok "--"),
    many (line (tok ",") ++ call (expression p)) ++
      line (tok ":=" <|> symbols assignments) ++ expressions p])

/-- Clauses in braces, which `head` starts. -/
def clauses (head : Rule.Phrase) : Rule.Phrase :=
  inBraces (many (((tok "case" ++ head) <|> tok "default") ++ tok ":" ++ maybe (call statements)))

/-- What a clause of a `select` statement waits for. -/
def communication : Rule.Phrase :=
  let one := call (expression .clause)
  oneOf [
    expressions .clause ++ (tok ":=" <|> tok "=") ++ one,
    one ++ maybe (tok "<-" ++ one)]

/-- A header with its block, and perhaps a statement in front of it.  Where a semicolon follows the
block, the block may look like a literal at the end of such a statement. -/
def withInitial (header : Rule.Phrase) : Rule.Phrase :=
  (simple .initializer ++ tok ";" ++ header) <|> header

/-- An `if` statement. -/
def ifStatement : Rule.Phrase :=
  tok "if" ++ withInitial (call (expression .header) ++ call block) ++
    maybe (sameLine ++ tok "else" ++ (call block <|> call conditional))

/-- A `for` statement. -/
def forStatement : Rule.Phrase :=
  let header := call (expression .header)
  let range := maybe (expressions .header ++ (tok ":=" <|> tok "=")) ++ tok "range" ++ header
  let counting := maybe (simple .initializer) ++ tok ";" ++ maybe header ++ tok ";" ++
    maybe (simple .header)
  tok "for" ++ oneOf [
    call block, range ++ call block, counting ++ call block, header ++ call block]

/-- A `switch` statement. -/
def switchStatement : Rule.Phrase :=
  let types := maybe (expressions .header ++ tok ":=") ++ call (expression .guard) ++ typeGuard ++
    clauses (sepBy1 (call (type false)) (tok ","))
  let values := maybe (call (expression .header)) ++ clauses (expressions .inner)
  tok "switch" ++ withInitial (types <|> values)

/-- The words that start no statement at the top of a file. -/
def topWords : List String := ["package", "import"]

/-- Any statement. -/
def anyStatement : Rule.Phrase :=
  let reserved := statementWords ++ clauseWords
  let label := Phrase.name (reserved ++ typeWords)
  oneOf [
    call block,
    declaration,
    tok "return" ++ maybe (sameLine ++ expressions .statement),
    (tok "go" <|> tok "defer") ++ call (expression .statement),
    call conditional,
    forStatement,
    switchStatement,
    tok "select" ++ clauses communication,
    tok "fallthrough",
    (tok "break" <|> tok "continue") ++ maybe (sameLine ++ label),
    tok "goto" ++ label,
    label ++ tok ":" ++ notAhead (tok "=") ++ call statement,
    notAhead (oneOf (reserved.map tok)) ++ simple .statement ++ notAhead (tok ":"),
    tok ";"]

/-- The statements of a block or clause.  A label may stand at the end. -/
def statementList : Rule.Phrase :=
  let label := Phrase.name (statementWords ++ clauseWords ++ typeWords) ++ tok ":"
  (sepBy1 (call statement) terminator ++ maybe (terminator ++ maybe label)) <|> label

/-- A statement at the top of a file.  What is declared inside of it is no declaration of the file. -/
def topStatement : Rule.Phrase :=
  unmarked (notAhead (oneOf (topWords.map tok)) ++ call statement)

/-- What may stand at the end of a file without a line break behind it. -/
def closing : Rule.Phrase :=
  oneOf [
    topLevel,
    node .constants (tok "const" ++ constSpec true),
    unmarked <| oneOf [
      tok "var" ++ varSpec true,
      tok "return" ++ maybe (sameLine ++ expressions .statement),
      (tok "go" <|> tok "defer") ++ call (expression .statement),
      notAhead (oneOf ((statementWords ++ topWords).map tok)) ++ simple .statement]]

/-- A source file.  Declarations and statements may come in any order. -/
def sourceFile : Rule.Phrase :=
  many (oneOf [topLevel, declaration, topStatement] ++ terminator) ++ maybe closing ++ endOfText

/-! ## The grammar -/

/-- What each rule reads. -/
def phrase : Rule → Rule.Phrase
  | file => sourceFile
  | type endsAtLine => anyType endsAtLine
  | typeArguments => inBrackets (commaList (constraint false))
  | parameters => parameterList
  | expression p => operation p
  | operand p => operandHead p ++ many (suffix p)
  | literalValue => braces
  | statement => anyStatement
  | statements => statementList
  | block => inBraces (maybe (call statements))
  | conditional => ifStatement

end Rule

/-- The marked nodes of a source file, if the text is one. -/
def sourceFile? (text : List Char) : Option (List (Tree Kind)) :=
  recognize Rule.phrase 16 .file text

end ProviderGlue.Go.Grammar
