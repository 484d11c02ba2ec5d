import ProviderGlue.Json.Scan
import ProviderGlue.Json.Value

/-!
# Documents of a known layout

A `Layout` lists the members that each kind of record has.  `Layout.read` reads a document from left
to right, so that of several faults the first one counts, and gives its value with the members that
the document has.  A record may also be written as a list, with its members in the order of the
layout.  Members that the layout does not know are passed over, whatever they hold.  Brackets may
nest 127 deep.
-/

namespace ProviderGlue.Json

/-- What stands under a key, with records of the kinds `κ`. -/
inductive Content (κ : Type) where
  | text
  | flag
  | word
  /-- A list of records. -/
  | list (item : κ)
  /-- A record. -/
  | record (kind : κ)

/-- A member of a record. -/
structure Member (κ : Type) where
  /-- The key. -/
  key : String
  /-- What stands under it. -/
  content : Content κ
  /-- Whether a record must have the member. -/
  required : Bool := false
  /-- Whether `null` may stand in place of the content. -/
  nullable : Bool := false

/-- The kinds of records in a document. -/
structure Layout (κ : Type) where
  /-- The name of a kind in messages. -/
  name : κ → String
  /-- The members of a kind in order. -/
  members : κ → List (Member κ)

/-- Reads a value from the start of a text. -/
abbrev Reader := List Char → Reading (Value × List Char)

/-! ## Unexpected values -/

/-- The fault of a value, at the start of the text, that should be as `expected` says. -/
def unexpected (expected : String) (text : List Char) : Fault :=
  let complain (found : Found) (rest : List Char) : Fault :=
    .here (.wrongType found expected) rest
  let known (found : Found) : Reading (List Char) → Fault
    | .ok rest => complain found rest
    | .error f => f
  match text with
  | [] => .next .expectedValue []
  | c :: cs =>
    if c = 'n' then known .null (word "ull".toList cs)
    else if c = 't' then known (.flag true) (word "rue".toList cs)
    else if c = 'f' then known (.flag false) (word "alse".toList cs)
    else if c = '-' ∨ c.isDigit then
      match readNumber (c :: cs) with
      | .ok (n, rest) => complain (.number n) rest
      | .error f => f
    else if c = '"' then
      match readString cs with
      | .ok (s, rest) => complain (.text s) rest
      | .error f => f
    else if c = '[' then complain .list (c :: cs)
    else if c = '\x7b' then complain .object (c :: cs)
    else .next .expectedValue (c :: cs)

/-! ## Values without brackets -/

/-- Reads a string. -/
def readText : Reader
  | '"' :: cs => do
    let (s, rest) ← readString cs
    .ok (.text (String.ofList s), rest)
  | text => .error (unexpected "a string" text)

/-- Reads a truth value. -/
def readFlag : Reader
  | 't' :: cs => do .ok (.flag true, ← word "rue".toList cs)
  | 'f' :: cs => do .ok (.flag false, ← word "alse".toList cs)
  | text => .error (unexpected "a boolean" text)

/-- The word that a number is. -/
def wordOf (n : Number) (rest : List Char) : Reading Int64 :=
  match n with
  | .natural k =>
    if k < 0x8000000000000000 then .ok (Int64.ofNat k)
    else .error (.here (.wrongValue (.number n) "i64") rest)
  | .negative i => .ok (Int64.ofInt i)
  | .floating _ => .error (.here (.wrongType (.number n) "i64") rest)

/-- Reads an integer. -/
def readWord (text : List Char) : Reading (Value × List Char) :=
  match text with
  | [] => .error (unexpected "i64" [])
  | c :: cs =>
    if c = '-' ∨ c.isDigit then do
      let (n, rest) ← readNumber (c :: cs)
      .ok (.word (← wordOf n rest), rest)
    else .error (unexpected "i64" (c :: cs))

/-! ## Lists -/

/-- Whether a list has another element, and the text from there on. -/
def nextElement (first : Bool) (text : List Char) : Reading (Bool × List Char) :=
  match skipSpace text with
  | [] => .error (.next .endOfList [])
  | c :: cs =>
    if c = ']' then .ok (false, c :: cs)
    else if first then .ok (true, c :: cs)
    else if c = ',' then
      match skipSpace cs with
      | [] => .error (.next .endOfValue [])
      | d :: ds => if d = ']' then .error (.next .trailingComma (d :: ds)) else .ok (true, d :: ds)
    else .error (.next .expectedListEnd (c :: cs))

/-- The elements of a list up to its closing bracket. -/
def readElements (read : Reader) : (fuel : Nat) → (first : Bool) → (text : List Char) →
    Reading (List Value × List Char)
  | 0, _, text => .error (.next .endOfList text)
  | fuel + 1, first, text => do
    let (another, rest) ← nextElement first text
    if another then
      let (v, rest) ← read rest
      let (vs, rest) ← readElements read fuel false rest
      .ok (v :: vs, rest)
    else .ok ([], rest)

/-- What is wrong with the end of a list, if anything, and the text behind what was looked at. -/
def closeList (text : List Char) : Option Fault × List Char :=
  match skipSpace text with
  | [] => (some (.next .endOfList []), [])
  | c :: cs =>
    if c = ']' then (none, cs)
    else if c = ',' then
      match skipSpace cs with
      | [] => (some (.next .trailingCharacters []), [])
      | d :: ds =>
        (some (.next (if d = ']' then .trailingComma else .trailingCharacters) (d :: ds)), d :: ds)
    else (some (.next .trailingCharacters (c :: cs)), c :: cs)

/-- What is wrong with the end of an object, if anything, and the text behind what was looked at. -/
def closeObject (text : List Char) : Option Fault × List Char :=
  match skipSpace text with
  | [] => (some (.next .endOfObject []), [])
  | c :: cs =>
    if c = '\x7d' then (none, cs)
    else (some (.next (if c = ',' then .trailingComma else .trailingCharacters) (c :: cs)), c :: cs)

/-! ## Records -/

/-- The members read so far, or what is wrong with them. -/
abbrev Members := Except Cause (List (String × Value))

/-- Whether another key follows in an object, and the text behind its opening quote. -/
def nextKey (first : Bool) (text : List Char) : Reading (Bool × List Char) :=
  match skipSpace text with
  | [] => .error (.next .endOfObject [])
  | c :: cs =>
    if c = '\x7d' then .ok (false, c :: cs)
    else if first then
      if c = '"' then .ok (true, cs) else .error (.next .keyNotString (c :: cs))
    else if c = ',' then
      match skipSpace cs with
      | [] => .error (.next .endOfValue [])
      | d :: ds =>
        if d = '"' then .ok (true, ds)
        else .error (.next (if d = '\x7d' then .trailingComma else .keyNotString) (d :: ds))
    else .error (.next .expectedObjectEnd (c :: cs))

/-- The text behind the colon. -/
def colon (text : List Char) : Reading (List Char) :=
  match skipSpace text with
  | [] => .error (.next .endOfObject [])
  | c :: cs => if c = ':' then .ok cs else .error (.next .expectedColon (c :: cs))

variable {κ : Type}

/-- The members, if none that is required is missing. -/
def complete (spec : List (Member κ)) (read : List (String × Value)) : Members :=
  match spec.find? fun m => m.required && (read.lookup m.key).isNone with
  | some m => .error (.missing m.key)
  | none => .ok read

/-- The members of an object up to its closing brace. -/
def readMembers (spec : List (Member κ)) (readMember : Member κ → Reader) :
    (fuel : Nat) → (first : Bool) → (read : List (String × Value)) → (text : List Char) →
    Reading (Members × List Char)
  | 0, _, _, text => .error (.next .endOfObject text)
  | fuel + 1, first, read, text => do
    let (another, rest) ← nextKey first text
    if another then
      let (key, rest) ← readString rest
      let key := String.ofList key
      match spec.find? (·.key == key) with
      | none =>
        let rest ← skipValue (← colon rest)
        readMembers spec readMember fuel false read rest
      | some m =>
        if (read.lookup key).isSome then .ok (.error (.duplicate key), rest)
        else
          let (v, rest) ← readMember m (← colon rest)
          readMembers spec readMember fuel false (read ++ [(key, v)]) rest
    else .ok (complete spec read, rest)

/-- The members of a record that is written as a list; `index` of them are passed. -/
def readPositions (expected : String) (readMember : Member κ → Reader) :
    (spec : List (Member κ)) → (index : Nat) → (first : Bool) → (text : List Char) →
    Reading (Members × List Char)
  | [], _, _, text => .ok (.ok [], text)
  | m :: ms, index, first, text => do
    let (another, rest) ← nextElement first text
    if another then
      let (v, rest) ← readMember m rest
      let (more, rest) ← readPositions expected readMember ms (index + 1) false rest
      .ok (more.map ((m.key, v) :: ·), rest)
    else if m.required then .ok (.error (.tooShort index expected), rest)
    else readPositions expected readMember ms (index + 1) first rest

/-- The record with the members that were read, if its brackets close. -/
def closeRecord (members : Members) (close : Option Fault × List Char) :
    Reading (Value × List Char) :=
  match members, close with
  | .error cause, (_, rest) => .error (.here cause rest)
  | .ok _, (some fault, _) => .error fault
  | .ok members, (none, rest) => .ok (.object members, rest)

namespace Layout

/-- What a record of the kind should be, in messages. -/
def expectation (layout : Layout κ) (kind : κ) : String :=
  "struct " ++ layout.name kind

/-- How many elements a record of the kind should have, in messages. -/
def lengthExpectation (layout : Layout κ) (kind : κ) : String :=
  layout.expectation kind ++ " with " ++ toString (layout.members kind).length ++ " elements"

/-- Reads a member with a reader for contents. -/
def readMember (read : Content κ → Reader) (m : Member κ) (text : List Char) :
    Reading (Value × List Char) :=
  match m.nullable, skipSpace text with
  | true, 'n' :: cs => do .ok (.null, ← word "ull".toList cs)
  | _, _ => read m.content text

/-- Reads a record, given a reader for what its brackets hold. -/
def readRecord (layout : Layout κ) (kind : κ) (inside : Option (Content κ → Reader)) : Reader
  | [] => .error (unexpected (layout.expectation kind) [])
  | c :: cs =>
    let spec := layout.members kind
    if c = '[' then
      match inside with
      | none => .error (.next .tooDeep (c :: cs))
      | some read => do
        let (members, rest) ←
          readPositions (layout.lengthExpectation kind) (readMember read) spec 0 true cs
        closeRecord members (closeList rest)
    else if c = '\x7b' then
      match inside with
      | none => .error (.next .tooDeep (c :: cs))
      | some read => do
        let (members, rest) ← readMembers spec (readMember read) (cs.length + 1) true [] cs
        closeRecord members (closeObject rest)
    else .error (unexpected (layout.expectation kind) (c :: cs))

/-- Reads a list of records, given a reader for what its brackets hold. -/
def readList (item : κ) (inside : Option (Content κ → Reader)) : Reader
  | [] => .error (unexpected "a sequence" [])
  | c :: cs =>
    if c = '[' then
      match inside with
      | none => .error (.next .tooDeep (c :: cs))
      | some read => do
        let (vs, rest) ← readElements (read (.record item)) (cs.length + 1) true cs
        match closeList rest with
        | (some fault, _) => .error fault
        | (none, rest) => .ok (.list vs, rest)
    else .error (unexpected "a sequence" (c :: cs))

/-- Reads a content, given a reader for what its brackets hold. -/
def readOuter (layout : Layout κ) (inside : Option (Content κ → Reader)) (content : Content κ) :
    Reader := fun text =>
  match skipSpace text with
  | [] => .error (.next .endOfValue [])
  | c :: cs =>
    match content with
    | .text => readText (c :: cs)
    | .flag => readFlag (c :: cs)
    | .word => readWord (c :: cs)
    | .list item => readList item inside (c :: cs)
    | .record kind => layout.readRecord kind inside (c :: cs)

/-- Reads a content whose brackets nest at most `room` deep. -/
def readContent (layout : Layout κ) : (room : Nat) → Content κ → Reader
  | 0 => layout.readOuter none
  | room + 1 => layout.readOuter (some (readContent layout room))

/-- How deep the brackets of a document may nest. -/
def depthLimit : Nat := 127

/-- The value of a document that holds a record of the kind. -/
def read (layout : Layout κ) (kind : κ) (text : List Char) : Reading Value := do
  let (v, rest) ← layout.readContent depthLimit (.record kind) text
  let rest := skipSpace rest
  if rest.isEmpty then .ok v else .error (.next .trailingCharacters rest)

end Layout

end ProviderGlue.Json
