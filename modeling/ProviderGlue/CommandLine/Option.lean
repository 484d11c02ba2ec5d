import ProviderGlue.Text.Basic

/-!
# Options of a command line

Options have a long name, and most of them a short one.  A value follows as the next argument, or
behind the name: `--output-dir out`, `--output-dir=out`, `-o out`, `-o=out` and `-oout` say the same.
Short names without values can share an argument.  An option may be given once.
-/

namespace ProviderGlue.CommandLine

open Text

/-- What an option is for. -/
inductive OptionKind where
  /-- It is there or not. -/
  | flag
  /-- It has a value. -/
  | text
  /-- It has a value that is not empty. -/
  | path
  /-- It asks for help. -/
  | help
  /-- It asks for the version. -/
  | version
deriving DecidableEq

/-- Whether an option has a value. -/
def OptionKind.hasValue : OptionKind → Bool
  | text | path => true
  | flag | help | version => false

/-- An option. -/
structure OptionSpec where
  /-- The long name. -/
  name : String
  /-- The short name. -/
  short : Option Char
  /-- What the option is for. -/
  kind : OptionKind
deriving DecidableEq

/-- Why arguments do not lead to a run. -/
inductive Stop where
  /-- They make no sense. -/
  | misuse
  /-- They ask for help. -/
  | help
  /-- They ask for the version. -/
  | version
deriving DecidableEq

/-- What has been read: the options given, by their long names, and an option without its value. -/
structure Reading where
  /-- The options with their values, the latest first. -/
  given : List (String × String) := []
  /-- The option that the next argument is the value of. -/
  pending : Option OptionSpec := none
deriving DecidableEq

/-- The mention of an option in an argument; `option` is missing where there is no such option. -/
structure Mention where
  /-- The option. -/
  option : Option OptionSpec
  /-- The value behind its name. -/
  value : Option String

/-- The mention of an option by its long name. -/
def longMention (specs : List OptionSpec) (text : List Char) : Mention :=
  let named (name : List Char) := specs.find? (·.name = String.ofList name)
  match splitOnce? ['='] text with
  | some (name, value) => ⟨named name, some (String.ofList value)⟩
  | none => ⟨named text, none⟩

/-- The mentions of options by their short names. -/
def shortMentions (specs : List OptionSpec) : (text : List Char) → List Mention
  | [] => []
  | c :: cs =>
    match specs.find? (·.short = some c) with
    | none => [⟨none, none⟩]
    | some o =>
      if o.kind.hasValue then
        let value := (afterPrefix? ['='] cs).getD cs
        [⟨some o, if cs.isEmpty then none else some (String.ofList value)⟩]
      else ⟨some o, none⟩ :: shortMentions specs cs

/-- The options that an argument mentions. -/
def mentions (specs : List OptionSpec) (argument : String) : List Mention :=
  match argument.toList with
  | '-' :: '-' :: text => [longMention specs text]
  | '-' :: text => shortMentions specs text
  | _ => []

/-- Whether an argument mentions options, so that it is no value. -/
def mentionsOptions (argument : String) : Bool :=
  match argument.toList with
  | '-' :: _ :: _ => true
  | _ => false

namespace Reading

/-- Takes up an option with its value. -/
def give (r : Reading) (o : OptionSpec) (value : String) : Except Stop Reading :=
  if (r.given.lookup o.name).isSome ∨ (o.kind = .path ∧ value.isEmpty) then .error .misuse
  else .ok ⟨(o.name, value) :: r.given, none⟩

/-- Takes up the mention of an option. -/
def mention (r : Reading) (m : Mention) : Except Stop Reading :=
  match m.option, m.value with
  | none, _ => .error .misuse
  | some o, some value => if o.kind.hasValue then r.give o value else .error .misuse
  | some o, none =>
    match o.kind with
    | .flag => r.give o ""
    | .text | .path => .ok { r with pending := some o }
    | .help => .error .help
    | .version => .error .version

/-- Reads arguments up to the first that is one of some commands.  Gives the options, and the
command with the arguments after it. -/
def read (specs : List OptionSpec) (commands : List String) (r : Reading) :
    (arguments : List String) → Except Stop (List (String × String) × Option (String × List String))
  | [] => if r.pending.isSome then .error .misuse else .ok (r.given, none)
  | argument :: arguments =>
    match r.pending with
    | some o =>
      if mentionsOptions argument then .error .misuse
      else do read specs commands (← r.give o argument) arguments
    | none =>
      if argument ∈ commands then .ok (r.given, some (argument, arguments))
      else if argument = "--" then
        if arguments.isEmpty then .ok (r.given, none) else .error .misuse
      else
        match mentions specs argument with
        | [] => .error .misuse
        | m :: ms => do read specs commands (← (m :: ms).foldlM mention r) arguments

end Reading

end ProviderGlue.CommandLine
