import ProviderGlue.Failure
import ProviderGlue.Text.Numeral
import ProviderGlue.Yaml.Node

/-!
# Settings

What can be tuned: a YAML mapping gives some of the settings, and the others keep their defaults.
A setting given twice is refused, and keys that are no settings are passed over.
-/

namespace ProviderGlue

open Text Yaml

/-- The settings of extraction and generation. -/
structure Settings where
  /-- The word that the name of a type with operations mentions. -/
  ownerToken : String := "api"
  /-- What the names of data sources start with. -/
  provider : String := "nutanix"
  /-- The module of the provider that the generated code belongs to. -/
  providerModule : String := "github.com/terraform-providers/terraform-provider-nutanix"
  /-- The TCP number that generated clients connect to. -/
  tcpPort : UInt16 := 9440
  /-- The layout of written times. -/
  timeLayout : String := "2006-01-02T15:04:05Z07:00"
  /-- The program that formats written files. -/
  formatter : String := "gofmt"
deriving DecidableEq, Inhabited

namespace Settings

/-! ## Values -/

/-- A text, which any scalar is. -/
def textOf? : Node → Option String
  | .scalar _ text => some (String.ofList text)
  | _ => none

/-- The marks of the radices other than ten. -/
def radices : List (List Char × Nat) :=
  [("0x".toList, 16), ("0o".toList, 8), ("0b".toList, 2)]

/-- A natural number of some radix, which one plus sign may precede where no mark does. -/
def naturalOf? (numeral : List Char) : Option Nat :=
  let digits := (afterPrefix? ['+'] numeral).getD numeral
  let marked := radices.findSome? fun (mark, radix) =>
    (afterPrefix? mark digits).bind (readNat? radix)
  let padded := match digits with
    | '0' :: d :: ds => (d :: ds).all Char.isDigit
    | _ => false
  marked.or (if padded then none else readNat? 10 digits)

/-- A TCP number: a plain scalar that is a natural number below `2^16`. -/
def tcpPortOf? : Node → Option UInt16
  | .scalar true text =>
    (naturalOf? text).bind fun n => if n < 0x10000 then some (UInt16.ofNat n) else none
  | _ => none

/-! ## Members -/

/-- The keys, each with what its value sets. -/
def setters : List (String × (Settings → Node → Option Settings)) := [
  ("api_suffix", fun s n => (textOf? n).map ({ s with ownerToken := · })),
  ("provider_prefix", fun s n => (textOf? n).map ({ s with provider := · })),
  ("provider_module", fun s n => (textOf? n).map ({ s with providerModule := · })),
  ("transport_port", fun s n => (tcpPortOf? n).map ({ s with tcpPort := · })),
  ("time_layout", fun s n => (textOf? n).map ({ s with timeLayout := · })),
  ("gofmt", fun s n => (textOf? n).map ({ s with formatter := · }))]

/-- The settings with the values of members over them; `seen` are the keys already given. -/
def apply (s : Settings) (seen : List String) : List (Node × Node) → Option Settings
  | [] => some s
  | (key, value) :: members =>
    match textOf? key with
    | none => none
    | some key =>
      match setters.lookup key with
      | none => apply s seen members
      | some set =>
        if seen.contains key then none
        else (set s value).bind fun s => apply s (key :: seen) members

/-- The settings of a document. -/
def ofNode? : Node → Option Settings
  | .mapping members => apply {} [] members
  | .scalar true [] => some {}
  | _ => none

/-- The settings that a text holds. -/
def read? (text : List Char) : Except Failure Settings :=
  if (trim text).isEmpty then .ok {}
  else match Node.document? text with
    | none => .error .settings
    | some none => .ok {}
    | some (some n) =>
      match ofNode? n with
      | some s => .ok s
      | none => .error .settings

end Settings

end ProviderGlue
