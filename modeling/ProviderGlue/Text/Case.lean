import ProviderGlue.Text.Basic
import ProviderGlue.Text.Unicode.Letter
import ProviderGlue.Text.Unicode.CaseMap

/-!
# Letter case and the spelling of names

Case mapping of whole texts, and the three spellings that generated names use:

* `snakeCase`   `IPAddress` becomes `ip_address`, `monitoring-v2` becomes `monitoring_v2`
* `camelCase`   `data-protection` becomes `DataProtection`
* `capitalize`  `widget` becomes `Widget`
-/

namespace ProviderGlue.Text

open Unicode

/-- Applies a function on text to a string. -/
def onChars (f : List Char → List Char) (s : String) : String :=
  String.ofList (f s.toList)

/-! ## Whole texts -/

/-- Whether the first character that case mapping does not ignore is cased. -/
def startsCased (text : List Char) : Bool :=
  match text.dropWhile isCaseIgnorable with
  | [] => false
  | c :: _ => isCased c

/-- The lower case of a text of which `afterCased` says whether a cased letter precedes it.  A
capital sigma at the end of a word takes its final form. -/
def lowercaseFrom (afterCased : Bool) : List Char → List Char
  | [] => []
  | c :: cs =>
    let image :=
      if c = 'Σ' then (if afterCased && !startsCased cs then ['ς'] else ['σ']) else lowerChar c
    image ++ lowercaseFrom (if isCaseIgnorable c then afterCased else isCased c) cs

/-- The lower case of a text. -/
def lowercase (text : List Char) : List Char :=
  lowercaseFrom false text

/-- The upper case of a text. -/
def uppercase (text : List Char) : List Char :=
  text.flatMap upperChar

/-- The text with its first character in upper case. -/
def capitalize : List Char → List Char
  | [] => []
  | c :: cs => upperChar c ++ cs

/-- The text with its first character in lower case. -/
def lowerFirst : List Char → List Char
  | [] => []
  | c :: cs => lowerChar c ++ cs

/-! ## Snake case -/

/-- Whether an upper case letter between `previous` and `next` opens a new word: after a lower case
letter or a digit, and where a run of capitals passes into a capitalized word. -/
def opensWord (previous : Option Char) (next : List Char) : Bool :=
  match previous with
  | none => false
  | some p =>
    isLowercase p || p.isDigit ||
      (isUppercase p && match next with
        | [] => false
        | n :: _ => isLowercase n)

/-- The text in lower case, with `_` before each word and for each `-`, blank and dot. -/
def markWords (previous : Option Char) : List Char → List Char
  | [] => []
  | c :: cs =>
    (if isUppercase c then (if opensWord previous cs then ['_'] else []) ++ lowerChar c
      else if c = '-' ∨ c = ' ' ∨ c = '.' then ['_']
      else [c]) ++ markWords (some c) cs

/-- The non-empty pieces between underscores, joined by single underscores. -/
def joinWords (marked : List Char) : List Char :=
  ['_'].intercalate ((splitAt '_' marked).filter (! ·.isEmpty))

/-- The snake case of a name.  Runs of capitals stay together, as in `ip_address`. -/
def snakeCase (name : List Char) : List Char :=
  joinWords (markWords none name)

/-! ## Camel case -/

/-- The camel case of a name whose parts are separated by `-` or `_`.  Each part keeps the case of
all but its first letter. -/
def camelCase (name : List Char) : List Char :=
  (splitWhere (fun c => c = '-' ∨ c = '_') name).flatMap capitalize

end ProviderGlue.Text
