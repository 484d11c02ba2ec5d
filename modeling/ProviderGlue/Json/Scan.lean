import ProviderGlue.Json.Fault
import ProviderGlue.Text.Basic

/-!
# The lexical level of JSON

Reading of white space, strings, numbers and the three words from the start of a text, and passing
over a value whose content does not matter.
-/

namespace ProviderGlue.Json

/-! ## White space and words -/

/-- White space between lexemes. -/
def isSpace (c : Char) : Bool := c == ' ' || c == '\n' || c == '\t' || c == '\r'

/-- The text from its first lexeme on. -/
def skipSpace (text : List Char) : List Char := text.dropWhile isSpace

/-- The text behind the given letters. -/
def word : (letters text : List Char) → Reading (List Char)
  | [], text => .ok text
  | _ :: _, [] => .error (.here .endOfValue [])
  | l :: ls, c :: cs => if l = c then word ls cs else .error (.next .expectedWord (c :: cs))

/-! ## Strings -/

/-- The value of a hexadecimal digit. -/
def hexValue? (c : Char) : Option Nat :=
  if '0' ≤ c ∧ c ≤ '9' then some (c.toNat - '0'.toNat)
  else if 'a' ≤ c ∧ c ≤ 'f' then some (c.toNat - 'a'.toNat + 10)
  else if 'A' ≤ c ∧ c ≤ 'F' then some (c.toNat - 'A'.toNat + 10)
  else none

/-- The number that four hexadecimal digits write. -/
def hexNumber? (a b c d : Char) : Option Nat := do
  some ((((← hexValue? a) * 16 + (← hexValue? b)) * 16 + (← hexValue? c)) * 16 + (← hexValue? d))

/-- The number that the four hexadecimal digits of an escape write. -/
def hexEscape (text : List Char) : Reading (Nat × List Char) :=
  if totalWidth (text.take 4) < 4 then .error (.here .endOfString [])
  else match text with
    | a :: b :: c :: d :: rest =>
      match hexNumber? a b c d with
      | some n => .ok (n, rest)
      | none => .error ⟨.invalidEscape, .after 4 text⟩
    | _ => .error ⟨.invalidEscape, .after 4 text⟩

/-- The second half of a character that is written as two escapes. -/
def secondHalf (text : List Char) : Reading (Nat × List Char) :=
  match text with
  | [] => .error (.here .endOfString [])
  | '\\' :: [] => .error (.here .endOfString [])
  | '\\' :: 'u' :: rest => do
    let (n, rest) ← hexEscape rest
    if 0xDC00 ≤ n ∧ n ≤ 0xDFFF then .ok (n, rest) else .error (.here .loneSurrogate rest)
  | '\\' :: rest => .error (.next .endOfEscape rest)
  | rest => .error (.next .endOfEscape rest)

/-- The character that an escape behind `\u` writes. -/
def unicodeEscape (text : List Char) : Reading (Char × List Char) := do
  let (n, rest) ← hexEscape text
  if 0xDC00 ≤ n ∧ n ≤ 0xDFFF then .error (.here .loneSurrogate rest)
  else if 0xD800 ≤ n ∧ n ≤ 0xDBFF then do
    let (m, rest) ← secondHalf rest
    .ok (Char.ofNat ((n - 0xD800) * 0x400 + (m - 0xDC00) + 0x10000), rest)
  else .ok (Char.ofNat n, rest)

/-- The character that a letter behind a backslash writes. -/
def escapeLetter? : Char → Option Char
  | '"' => some '"'
  | '\\' => some '\\'
  | '/' => some '/'
  | 'b' => some (Char.ofNat 0x08)
  | 'f' => some (Char.ofNat 0x0C)
  | 'n' => some '\n'
  | 'r' => some '\r'
  | 't' => some '\t'
  | _ => none

/-- The character that is written behind a backslash. -/
def escape : (text : List Char) → Reading (Char × List Char)
  | [] => .error (.here .endOfString [])
  | 'u' :: rest => unicodeEscape rest
  | c :: rest =>
    match escapeLetter? c with
    | some x => .ok (x, rest)
    | none => .error (.next .invalidEscape (c :: rest))

/-- Whether a character may not stand in a string. -/
def isControl (c : Char) : Bool := c.toNat < 0x20

/-- The characters of a string up to its closing quote. -/
def stringBody : (fuel : Nat) → (text : List Char) → Reading (List Char × List Char)
  | 0, text => .error (.here .endOfString text)
  | _, [] => .error (.here .endOfString [])
  | _, '"' :: rest => .ok ([], rest)
  | fuel + 1, '\\' :: rest => do
    let (c, rest) ← escape rest
    let (cs, rest) ← stringBody fuel rest
    .ok (c :: cs, rest)
  | fuel + 1, c :: rest =>
    if isControl c then .error (.here .controlCharacter rest)
    else do
      let (cs, rest) ← stringBody fuel rest
      .ok (c :: cs, rest)

/-- The string whose opening quote has been read. -/
def readString (text : List Char) : Reading (List Char × List Char) := stringBody (text.length + 1) text

/-! ## Numbers -/

/-- The number after one more character, if that is a digit and the number is below `2^64`. -/
def appendDigit? (n : Nat) (c : Char) : Option Nat :=
  let m := n * 10 + (c.toNat - '0'.toNat)
  if c.isDigit ∧ m < 0x10000000000000000 then some m else none

/-- Appends digits to a number as long as it stays below `2^64`: the number, how many digits were
appended, and what follows. -/
def appendDigits (n : Nat) : (text : List Char) → Nat × Nat × List Char
  | [] => (n, 0, [])
  | c :: cs =>
    match appendDigit? n c with
    | some m => let (m, count, rest) := appendDigits m cs; (m, count + 1, rest)
    | none => (n, 0, c :: cs)

/-- Whether the text starts with a digit. -/
def digitNext : (text : List Char) → Bool
  | c :: _ => c.isDigit
  | [] => false

/-- Multiplies or divides by powers of ten until the exponent is used up. -/
def scale (rest : List Char) : (fuel : Nat) → (x : Float) → (exponent : Int) → Reading Float
  | 0, x, _ => .ok x
  | fuel + 1, x, exponent =>
    if exponent.natAbs ≤ 308 then
      let power := Float.ofScientific 1 false exponent.natAbs
      if 0 ≤ exponent then
        if (x * power).isInf then .error (.here .numberOutOfRange rest) else .ok (x * power)
      else .ok (x / power)
    else if x == 0 then .ok x
    else if 0 ≤ exponent then .error (.here .numberOutOfRange rest)
    else scale rest fuel (x / Float.ofScientific 1 false 308) (exponent + 308)

/-- The number `significand · 10^exponent`, with a sign. -/
def floating (positive : Bool) (significand : Nat) (exponent : Int) (rest : List Char) :
    Reading (Number × List Char) := do
  let x ← scale rest (exponent.natAbs + 1) (Float.ofNat significand) exponent
  .ok (.floating (if positive then x else -x), rest)

/-- The value of the digits of an exponent, if it is below `2^31`, and the text from the digit on
that makes it greater. -/
def exponentDigits (e : Nat) : (text : List Char) → Except (List Char) (Nat × List Char)
  | [] => .ok (e, [])
  | c :: cs =>
    if c.isDigit then
      let e' := e * 10 + (c.toNat - '0'.toNat)
      if e' < 0x80000000 then exponentDigits e' cs else .error cs
    else .ok (e, c :: cs)

/-- The sign of an exponent and the text behind it. -/
def exponentSign : (text : List Char) → Bool × List Char
  | '+' :: cs => (true, cs)
  | '-' :: cs => (false, cs)
  | cs => (true, cs)

/-- The number whose exponent stands behind the mark that has been read. -/
def withExponent (positive : Bool) (significand : Nat) (exponent : Int) (text : List Char) :
    Reading (Number × List Char) :=
  let (up, text) := exponentSign text
  match text with
  | [] => .error (.here .endOfValue [])
  | c :: cs =>
    if ! c.isDigit then .error (.next .invalidNumber (c :: cs))
    else match exponentDigits (c.toNat - '0'.toNat) cs with
      | .ok (e, rest) =>
        let limit : Int := 0x80000000
        let sum := if up then exponent + e else exponent - e
        floating positive significand (max (-limit) (min (limit - 1) sum)) rest
      | .error rest =>
        if significand ≠ 0 ∧ up then .error (.here .numberOutOfRange rest)
        else .ok (.floating (if positive then 0 else -0.0), rest.dropWhile Char.isDigit)

/-- The number whose exponent, if it has one, is next. -/
def maybeExponent (positive : Bool) (significand : Nat) (exponent : Int) :
    (text : List Char) → Reading (Number × List Char)
  | 'e' :: cs => withExponent positive significand exponent cs
  | 'E' :: cs => withExponent positive significand exponent cs
  | rest => floating positive significand exponent rest

/-- The number whose digits behind the point are next.  Digits that do not fit are dropped. -/
def withFraction (positive : Bool) (significand : Nat) (exponent : Int) (text : List Char) :
    Reading (Number × List Char) :=
  let (m, count, rest) := appendDigits significand text
  if digitNext rest then
    maybeExponent positive m (exponent - count) (rest.dropWhile Char.isDigit)
  else if count = 0 then
    .error (.next (if rest.isEmpty then .endOfValue else .invalidNumber) rest)
  else maybeExponent positive m (exponent - count) rest

/-- The number whose whole digits, all of which fit, have been read. -/
def afterWhole (positive : Bool) (significand : Nat) : (text : List Char) → Reading (Number × List Char)
  | '.' :: cs => withFraction positive significand 0 cs
  | 'e' :: cs => withExponent positive significand 0 cs
  | 'E' :: cs => withExponent positive significand 0 cs
  | rest =>
    if positive then .ok (.natural significand, rest)
    else if 0 < significand ∧ significand ≤ 0x8000000000000000 then .ok (.negative (-significand), rest)
    else .ok (.floating (-Float.ofNat significand), rest)

/-- The number of which some whole digits do not fit. -/
def afterOverflow (positive : Bool) (significand : Nat) (text : List Char) : Reading (Number × List Char) :=
  let dropped := (text.takeWhile Char.isDigit).length
  match text.dropWhile Char.isDigit with
  | '.' :: cs => withFraction positive significand dropped cs
  | rest => maybeExponent positive significand dropped rest

/-- The number whose sign, if it has one, has been read. -/
def readMagnitude (positive : Bool) : (text : List Char) → Reading (Number × List Char)
  | [] => .error (.here .endOfValue [])
  | '0' :: cs =>
    if digitNext cs then .error (.next .invalidNumber cs) else afterWhole positive 0 cs
  | c :: cs =>
    if ! c.isDigit then .error (.next .invalidNumber (c :: cs))
    else
      let (n, _, rest) := appendDigits 0 (c :: cs)
      if digitNext rest then afterOverflow positive n rest else afterWhole positive n rest

/-- The number at the start of the text, which is a minus sign or a digit. -/
def readNumber : (text : List Char) → Reading (Number × List Char)
  | '-' :: cs => readMagnitude false cs
  | cs => readMagnitude true cs

/-! ## Passing over -/

/-- The text behind the string whose opening quote has been read. -/
def skipString : (fuel : Nat) → (text : List Char) → Reading (List Char)
  | 0, text => .error (.here .endOfString text)
  | _, [] => .error (.here .endOfString [])
  | _, '"' :: rest => .ok rest
  | _, '\\' :: [] => .error (.here .endOfString [])
  | fuel + 1, '\\' :: 'u' :: rest => do
    let (_, rest) ← hexEscape rest
    skipString fuel rest
  | fuel + 1, '\\' :: c :: rest =>
    if (escapeLetter? c).isSome then skipString fuel rest
    else .error (.next .invalidEscape (c :: rest))
  | fuel + 1, c :: rest =>
    if isControl c then .error (.here .controlCharacter (c :: rest)) else skipString fuel rest

/-- The text behind an exponent whose mark has been read. -/
def skipExponent (text : List Char) : Reading (List Char) :=
  match (exponentSign text).2 with
  | c :: cs =>
    if c.isDigit then .ok (cs.dropWhile Char.isDigit) else .error (.next .invalidNumber (c :: cs))
  | [] => .error (.here .invalidNumber [])

/-- The text behind the exponent, if there is one. -/
def skipMaybeExponent : (text : List Char) → Reading (List Char)
  | 'e' :: cs => skipExponent cs
  | 'E' :: cs => skipExponent cs
  | rest => .ok rest

/-- The text behind a number whose whole digits have been read. -/
def skipAfterWhole : (text : List Char) → Reading (List Char)
  | '.' :: cs =>
    if digitNext cs then skipMaybeExponent (cs.dropWhile Char.isDigit)
    else .error (.next .invalidNumber cs)
  | rest => skipMaybeExponent rest

/-- The text behind a number whose sign, if it has one, has been read. -/
def skipMagnitude : (text : List Char) → Reading (List Char)
  | '0' :: cs => if digitNext cs then .error (.next .invalidNumber cs) else skipAfterWhole cs
  | c :: cs =>
    if c.isDigit then skipAfterWhole (cs.dropWhile Char.isDigit)
    else .error (.next .invalidNumber (c :: cs))
  | [] => .error (.here .invalidNumber [])

/-- The two kinds of brackets. -/
inductive Bracket where
  | list | object
deriving DecidableEq

/-- The closing bracket. -/
def Bracket.close : Bracket → Char
  | list => ']'
  | object => '\x7d'

/-- What is wrong where a comma or the closing bracket is expected. -/
def Bracket.expectedEnd : Bracket → Cause
  | list => .expectedListEnd
  | object => .expectedObjectEnd

/-- What is wrong where the text ends inside the brackets. -/
def Bracket.endOfText : Bracket → Cause
  | list => .endOfList
  | object => .endOfObject

/-- The text behind a value that is no list or object, or the bracket that opens one. -/
def skipScalar (text : List Char) : Reading (List Char ⊕ Bracket × List Char) :=
  match text with
  | [] => .error (.next .endOfValue [])
  | c :: cs =>
    if c = 'n' then .inl <$> word "ull".toList cs
    else if c = 't' then .inl <$> word "rue".toList cs
    else if c = 'f' then .inl <$> word "alse".toList cs
    else if c = '-' then .inl <$> skipMagnitude cs
    else if c.isDigit then .inl <$> skipMagnitude (c :: cs)
    else if c = '"' then .inl <$> skipString (cs.length + 1) cs
    else if c = '[' then .ok (.inr (.list, cs))
    else if c = '\x7b' then .ok (.inr (.object, cs))
    else .error (.next .expectedValue (c :: cs))

/-- The text behind a key and its colon. -/
def skipKey (text : List Char) : Reading (List Char) :=
  match skipSpace text with
  | '"' :: cs => do
    let rest := skipSpace (← skipString (cs.length + 1) cs)
    match rest with
    | ':' :: rest => .ok rest
    | [] => .error (.next .endOfObject [])
    | _ => .error (.next .expectedColon rest)
  | [] => .error (.next .endOfObject [])
  | rest => .error (.next .keyNotString rest)

/-- Closes brackets until another value has to follow.  `comma` says whether a value has been read
inside the innermost bracket. -/
def closeBrackets (comma : Bool) : (opened : List Bracket) → (text : List Char) →
    Reading (List Bracket × List Char)
  | [], text => .ok ([], text)
  | b :: bs, text =>
    match skipSpace text with
    | [] => .error (.next b.endOfText [])
    | c :: cs =>
      if comma ∧ c = ',' then .ok (b :: bs, cs)
      else if c = b.close then closeBrackets true bs cs
      else if comma then .error (.next b.expectedEnd (c :: cs))
      else .ok (b :: bs, c :: cs)

/-- The text behind values, the innermost of which stands in the opened brackets. -/
def skipInside : (fuel : Nat) → (opened : List Bracket) → (text : List Char) →
    Reading (List Char)
  | 0, _, text => .error (.here .expectedValue text)
  | fuel + 1, opened, text => do
    let (opened, rest) ← match ← skipScalar (skipSpace text) with
      | .inl rest => closeBrackets true opened rest
      | .inr (b, rest) => closeBrackets false (b :: opened) rest
    match opened with
    | [] => .ok rest
    | .list :: _ => skipInside fuel opened rest
    | .object :: _ => skipInside fuel opened (← skipKey rest)

/-- The text behind a value of any kind and depth. -/
def skipValue (text : List Char) : Reading (List Char) :=
  skipInside (text.length + 1) [] text

end ProviderGlue.Json
