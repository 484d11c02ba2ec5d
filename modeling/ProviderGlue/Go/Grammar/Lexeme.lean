import ProviderGlue.Text.Basic
import ProviderGlue.Text.Unicode.Word

/-!
# Lexemes of Go

Each class of lexemes is a function from the text at hand to the number of characters of the
lexeme and the text behind it, or nothing if the text does not start with such a lexeme.  Of
several spellings of a number the longest counts.
-/

namespace ProviderGlue.Go.Grammar

open Text Unicode

/-- The number of characters read and the text behind them. -/
abbrev Read := Option (Nat × List Char)

namespace Lexeme

/-! ## Identifiers -/

/-- Whether an identifier may start with `c`. -/
def startsIdentifier (c : Char) : Bool := c == '_' || isIdentifierStart c

/-- The identifier at the start of the text, and the text behind it. -/
def identifier? : (text : List Char) → Option (List Char × List Char)
  | [] => none
  | c :: cs =>
    if startsIdentifier c then
      some (c :: cs.takeWhile isIdentifierContinue, cs.dropWhile isIdentifierContinue)
    else none

/-! ## Numbers -/

/-- One character of the class. -/
def one (isIn : Char → Bool) : Nat × List Char → Read
  | (n, c :: cs) => if isIn c then some (n + 1, cs) else none
  | (_, []) => none

/-- A character of the class, if there is one. -/
def maybe (isIn : Char → Bool) (at_ : Nat × List Char) : Nat × List Char :=
  (one isIn at_).getD at_

/-- Further digits of the class, with single underscores between them. -/
def moreDigits (isIn : Char → Bool) : (n : Nat) → (text : List Char) → Nat × List Char
  | n, '_' :: c :: cs => if isIn c then moreDigits isIn (n + 2) cs else (n, '_' :: c :: cs)
  | n, c :: cs => if isIn c then moreDigits isIn (n + 1) cs else (n, c :: cs)
  | n, [] => (n, [])

/-- Digits of the class, with single underscores between them. -/
def digits (isIn : Char → Bool) (at_ : Nat × List Char) : Read :=
  (one isIn at_).map fun (n, rest) => moreDigits isIn n rest

/-- Whether `c` is a hexadecimal digit. -/
def isHex (c : Char) : Bool := c.isDigit || ('a' ≤ c && c ≤ 'f') || ('A' ≤ c && c ≤ 'F')

/-- Whether `c` is an octal digit. -/
def isOctal (c : Char) : Bool := '0' ≤ c && c ≤ '7'

/-- Whether `c` is one of the characters of `s`. -/
def isOneOf (s : String) (c : Char) : Bool := s.toList.contains c

/-- A number with the mark of a radix: `0x`, `0o` or `0b`. -/
def marked (marks : String) (isIn : Char → Bool) (at_ : Nat × List Char) : Read := do
  let at_ ← one (· == '0') at_
  let at_ ← one (isOneOf marks) at_
  digits isIn (maybe (· == '_') at_)

/-- An octal number without mark, such as `017`. -/
def plainOctal (at_ : Nat × List Char) : Read := do
  digits isOctal (maybe (· == '_') (← one (· == '0') at_))

/-- A decimal number, which starts with no zero. -/
def decimal (at_ : Nat × List Char) : Read := do
  let (n, rest) ← one (fun c => '1' ≤ c && c ≤ '9') at_
  moreDigits Char.isDigit n rest

/-- The spellings of an integer. -/
def integers (at_ : Nat × List Char) : List Read :=
  [marked "bB" (isOneOf "01") at_, marked "oO" isOctal at_, marked "xX" isHex at_,
    plainOctal at_, decimal at_, one (· == '0') at_]

/-- An exponent with one of the given marks. -/
def exponent (marks : String) (at_ : Nat × List Char) : Read := do
  digits Char.isDigit (maybe (isOneOf "+-") (← one (isOneOf marks) at_))

/-- The text behind an optional part. -/
def optional (part : Nat × List Char → Read) (at_ : Nat × List Char) : Nat × List Char :=
  (part at_).getD at_

/-- The mantissas of a hexadecimal number with an exponent. -/
def hexMantissas (at_ : Nat × List Char) : List Read :=
  let whole := digits isHex (maybe (· == '_') at_)
  [whole, (whole.bind (one (· == '.'))).map (optional (digits isHex)),
    (one (· == '.') at_).bind (digits isHex)]

/-- The spellings of a floating point number. -/
def floats (at_ : Nat × List Char) : List Read :=
  let whole := digits Char.isDigit at_
  let fraction := digits Char.isDigit
  let hexStart := (one (· == '0') at_).bind (one (isOneOf "xX"))
  [(whole.bind (one (· == '.'))).map (optional (exponent "eE") <| optional fraction ·),
    whole.bind (exponent "eE"),
    ((one (· == '.') at_).bind fraction).map (optional (exponent "eE"))] ++
  ((hexStart.map hexMantissas).getD []).map (·.bind (exponent "pP"))

/-- The longest of several readings. -/
def longest (readings : List Read) : Read :=
  readings.foldl (fun best r =>
    match best, r with
    | none, r => r
    | b, none => b
    | some b, some r => if b.1 < r.1 then some r else some b) none

/-- A number: an integer, a floating point or an imaginary number. -/
def number? (text : List Char) : Read :=
  let at_ := (0, text)
  let plain := integers at_ ++ floats at_
  longest (plain ++ (digits Char.isDigit at_ :: plain).map (·.bind (one (· == 'i'))))

/-! ## Strings and runes -/

/-- As many hexadecimal digits. -/
def hexDigits : (count : Nat) → Nat × List Char → Read
  | 0, at_ => some at_
  | count + 1, at_ => (one isHex at_).bind (hexDigits count)

/-- The escape sequence behind a backslash in a string. -/
def stringEscape : (text : List Char) → Read
  | [] => none
  | 'x' :: cs => hexDigits 2 (1, cs)
  | 'u' :: cs => hexDigits 4 (1, cs)
  | 'U' :: cs => hexDigits 8 (1, cs)
  | _ :: cs => some (1, cs)

/-- The rest of an interpreted string up to and with its closing quote. -/
def closeString : (fuel n : Nat) → (text : List Char) → Read
  | 0, _, _ => none
  | _, _, [] => none
  | _, n, '"' :: cs => some (n + 1, cs)
  | _, _, '\n' :: _ => none
  | fuel + 1, n, '\\' :: cs =>
    match stringEscape cs with
    | none => none
    | some (k, rest) => closeString fuel (n + 1 + k) rest
  | fuel + 1, n, _ :: cs => closeString fuel (n + 1) cs

/-- The quote of a raw string. -/
def rawQuote : Char := Char.ofNat 0x60

/-- The rest of a raw string up to and with its closing quote. -/
def closeRawString : (n : Nat) → (text : List Char) → Read
  | _, [] => none
  | n, c :: cs => if c = rawQuote then some (n + 1, cs) else closeRawString (n + 1) cs

/-- A string literal. -/
def string? : (text : List Char) → Read
  | [] => none
  | '"' :: cs => closeString (cs.length + 1) 1 cs
  | c :: cs => if c = rawQuote then closeRawString 1 cs else none

/-- The escape sequence behind a backslash in a rune literal. -/
def runeEscape : (text : List Char) → Read
  | [] => none
  | 'x' :: cs => hexDigits 2 (1, cs)
  | 'u' :: cs => hexDigits 4 (1, cs)
  | 'U' :: cs => hexDigits 8 (1, cs)
  | c :: cs =>
    if isOctal c then ((one isOctal (1, cs)).bind (one isOctal))
    else if isOneOf "abfnrtv\\'\"" c then some (1, cs)
    else none

/-- A rune literal. -/
def rune? : (text : List Char) → Read
  | q :: '\\' :: cs =>
    if q.toNat = 0x27 then
      (runeEscape cs).bind fun (n, rest) => one (·.toNat == 0x27) (n + 2, rest)
    else none
  | q :: c :: cs =>
    if q.toNat = 0x27 ∧ c.toNat ≠ 0x27 then one (·.toNat == 0x27) (2, cs) else none
  | _ => none

/-! ## Comments -/

/-- A comment, in either form. -/
def comment? : (text : List Char) → Option (List Char × List Char)
  | '/' :: '/' :: cs => some ('/' :: '/' :: cs.takeWhile (· ≠ '\n'), cs.dropWhile (· ≠ '\n'))
  | '/' :: '*' :: cs =>
    (splitOnce? ['*', '/'] cs).map fun (body, rest) => ('/' :: '*' :: body ++ ['*', '/'], rest)
  | _ => none

theorem length_comment? {text body rest : List Char} (h : comment? text = some (body, rest)) :
    rest.length < text.length := by
  unfold comment? at h
  split at h
  · next cs =>
    obtain ⟨rfl, rfl⟩ := Prod.mk.inj (Option.some.inj h)
    have := (List.dropWhile_sublist (l := cs) (fun c => decide (c ≠ '\n'))).length_le
    simp only [List.length_cons]
    omega
  · obtain ⟨⟨l, r⟩, hs, he⟩ := Option.map_eq_some_iff.1 h
    obtain ⟨rfl, rfl⟩ := Prod.mk.inj he
    simp [append_of_splitOnce? hs]
    omega
  · simp at h

/-- White space between lexemes. -/
def isSpace (c : Char) : Bool := c == ' ' || (0x09 ≤ c.toNat && c.toNat ≤ 0x0D)

end Lexeme

end ProviderGlue.Go.Grammar
