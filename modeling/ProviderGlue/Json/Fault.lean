import ProviderGlue.Text.Quoted
import ProviderGlue.Text.ShortestDecimal

/-!
# Faults of JSON documents

Why a text is no document of the expected layout, and where that shows.
-/

namespace ProviderGlue.Json

/-! ## Numbers -/

/-- A number as it is read from a document. -/
inductive Number where
  /-- A natural number below `2^64`. -/
  | natural (n : Nat)
  /-- A negative integer that fits a 64-bit word. -/
  | negative (i : Int)
  /-- Any other number. -/
  | floating (x : Float)

/-- The text of a floating point number in a message: positional for magnitudes from `10^-5` to
below `10^16`, with an exponent otherwise. -/
def floatText (x : Float) : String :=
  let bits := x.toBits.toNat
  let sign := if bits / 0x8000000000000000 = 0 then "" else "-"
  let magnitude := bits % 0x8000000000000000
  if magnitude = 0 then sign ++ "0.0" else
    let d := (Text.Binary.ofBits magnitude).shortest
    let digits := Nat.toDigits 10 d.digits
    let point := digits.length + d.exponent
    let zeros (n : Int) := List.replicate n.toNat '0'
    let text :=
      if 0 ≤ d.exponent ∧ point ≤ 16 then digits ++ zeros d.exponent ++ ['.', '0']
      else if 0 < point ∧ point ≤ 16 then
        digits.take point.toNat ++ ['.'] ++ digits.drop point.toNat
      else if -5 < point ∧ point ≤ 0 then ['0', '.'] ++ zeros (-point) ++ digits
      else
        let exponent := point - 1
        digits.take 1 ++ (if digits.length = 1 then [] else '.' :: digits.drop 1) ++
          ['e', if exponent < 0 then '-' else '+'] ++ Nat.toDigits 10 exponent.natAbs
    sign ++ String.ofList text

/-! ## Causes -/

/-- What a document holds where something else is expected. -/
inductive Found where
  | null
  | flag (value : Bool)
  | number (value : Number)
  | text (value : List Char)
  | list
  | object

/-- The name of what was found, as messages write it. -/
def Found.describe : Found → String
  | null => "null"
  | flag value => "boolean " ++ tick ++ (if value then "true" else "false") ++ tick
  | number (.natural n) => "integer " ++ tick ++ toString n ++ tick
  | number (.negative i) => "integer " ++ tick ++ toString i ++ tick
  | number (.floating x) => "floating point " ++ tick ++ floatText x ++ tick
  | text value => "string " ++ String.ofList (Text.quoted value)
  | list => "sequence"
  | object => "map"
where
  /-- The quote around values and names. -/
  tick : String := String.singleton (Char.ofNat 0x60)

/-- Why a text is refused. -/
inductive Cause where
  | endOfList | endOfObject | endOfString | endOfValue
  | expectedColon | expectedListEnd | expectedObjectEnd | expectedWord | expectedValue
  | invalidEscape | invalidNumber | numberOutOfRange
  | controlCharacter | keyNotString | loneSurrogate | endOfEscape
  | trailingComma | trailingCharacters | tooDeep
  /-- A value of another type. -/
  | wrongType (found : Found) (expected : String)
  /-- A number that does not fit. -/
  | wrongValue (found : Found) (expected : String)
  /-- A list with too few elements for a record. -/
  | tooShort (length : Nat) (expected : String)
  /-- A record without a required member. -/
  | missing (key : String)
  /-- A record with two members of one name. -/
  | duplicate (key : String)

/-- The text of a cause. -/
def Cause.message : Cause → String
  | endOfList => "EOF while parsing a list"
  | endOfObject => "EOF while parsing an object"
  | endOfString => "EOF while parsing a string"
  | endOfValue => "EOF while parsing a value"
  | expectedColon => "expected " ++ named ":"
  | expectedListEnd => "expected " ++ named "," ++ " or " ++ named "]"
  | expectedObjectEnd => "expected " ++ named "," ++ " or " ++ named "\x7d"
  | expectedWord => "expected ident"
  | expectedValue => "expected value"
  | invalidEscape => "invalid escape"
  | invalidNumber => "invalid number"
  | numberOutOfRange => "number out of range"
  | controlCharacter => "control character (\\u0000-\\u001F) found while parsing a string"
  | keyNotString => "key must be a string"
  | loneSurrogate => "lone leading surrogate in hex escape"
  | endOfEscape => "unexpected end of hex escape"
  | trailingComma => "trailing comma"
  | trailingCharacters => "trailing characters"
  | tooDeep => "recursion limit exceeded"
  | wrongType found expected => "invalid type: " ++ found.describe ++ ", expected " ++ expected
  | wrongValue found expected => "invalid value: " ++ found.describe ++ ", expected " ++ expected
  | tooShort length expected => "invalid length " ++ toString length ++ ", expected " ++ expected
  | missing key => "missing field " ++ named key
  | duplicate key => "duplicate field " ++ named key
where
  /-- A name between its quotes. -/
  named (s : String) : String := Found.describe.tick ++ s ++ Found.describe.tick

/-! ## Places -/

/-- A place in a text: so many bytes behind the start of what is left of it. -/
structure Place where
  /-- What is left of the text. -/
  rest : List Char
  /-- Bytes behind its start. -/
  bytes : Nat := 0

/-- The bytes that a character takes. -/
def width (c : Char) : Nat := c.utf8Size

/-- The bytes that some characters take. -/
def totalWidth (cs : List Char) : Nat := cs.foldr (fun c bytes => width c + bytes) 0

namespace Place

/-- The place some bytes further, or the end of the text. -/
def after : (bytes : Nat) → (rest : List Char) → Place
  | _, [] => ⟨[], 0⟩
  | bytes, c :: cs => if bytes < width c then ⟨c :: cs, bytes⟩ else after (bytes - width c) cs

/-- The line, and the bytes from its start on, of a place in `text`. -/
def lineAndColumn (text : List Char) (place : Place) : Nat × Nat :=
  let before := text.take (text.length - place.rest.length)
  let line := before.reverse.takeWhile (· ≠ '\n')
  (before.count '\n' + 1, totalWidth line + place.bytes)

end Place

/-- A cause and the place where it shows. -/
structure Fault where
  /-- The cause. -/
  cause : Cause
  /-- The place. -/
  place : Place

namespace Fault

/-- A fault behind what has been read. -/
def here (cause : Cause) (rest : List Char) : Fault := ⟨cause, ⟨rest, 0⟩⟩

/-- A fault in the first byte of what is left. -/
def next (cause : Cause) (rest : List Char) : Fault := ⟨cause, .after 1 rest⟩

/-- The place of a fault in `text`, as reports write it. -/
def position (text : List Char) (f : Fault) : String :=
  let (line, column) := f.place.lineAndColumn text
  " at line " ++ toString line ++ " column " ++ toString column

end Fault

/-- What a reader gives: often what has been read together with what is left of the text. -/
abbrev Reading := Except Fault

end ProviderGlue.Json
