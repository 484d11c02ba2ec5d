import ProviderGlue.Text.Unicode.Printable

/-!
# Text in quotes for a reader

The form in which messages quote a text: between double quotes, with an escape for each character
that has no glyph of its own.
-/

namespace ProviderGlue.Text

open Unicode

/-- A number in hexadecimal digits, in lower case. -/
def hexadecimal (n : Nat) : List Char := Nat.toDigits 16 n

/-- How a character stands between double quotes. -/
def escaped (c : Char) : List Char :=
  if c = '"' then ['\\', '"']
  else if c = '\\' then ['\\', '\\']
  else if c.toNat = 0 then ['\\', '0']
  else if c = '\t' then ['\\', 't']
  else if c = '\n' then ['\\', 'n']
  else if c = '\r' then ['\\', 'r']
  else if isPrintable c then [c]
  else ['\\', 'u', '\x7b'] ++ hexadecimal c.toNat ++ ['\x7d']

/-- The text between double quotes. -/
def quoted (text : List Char) : List Char :=
  '"' :: text.flatMap escaped ++ ['"']

end ProviderGlue.Text
