/-!
# Lines of Go code

Generated code is a list of lines, each with the depth of its indentation.  What stands between
braces is a block, whose lines stand deeper than its head.
-/

namespace ProviderGlue.Go

/-- A line of code. -/
structure Line where
  /-- How many tabs precede the text. -/
  depth : Nat
  /-- The text. -/
  text : String
deriving DecidableEq

namespace Line

/-- The empty line. -/
def blank : Line := ⟨0, ""⟩

/-- The line with its indentation. -/
def written (l : Line) : String := String.ofList (List.replicate l.depth '\t') ++ l.text

end Line

/-- The text of some lines, each ended by a line feed. -/
def render (lines : List Line) : String :=
  String.join (lines.map fun l => l.written ++ "\n")

/-- A head, the lines between braces, and what follows the closing brace. -/
def braces (depth : Nat) (head : String) (body : List Line) (after : String) : List Line :=
  ⟨depth, head ++ "\x7b"⟩ :: body ++ [⟨depth, "\x7d" ++ after⟩]

/-- A block: a head and the lines between braces. -/
def block (depth : Nat) (head : String) (body : List Line) : List Line :=
  braces depth head body ""

/-- An entry of a literal: a block with a comma after it. -/
def entry (depth : Nat) (head : String) (body : List Line) : List Line :=
  braces depth head body ","

/-- A group in parentheses. -/
def group (depth : Nat) (head : String) (body : List Line) : List Line :=
  ⟨depth, head ++ "("⟩ :: body ++ [⟨depth, ")"⟩]

/-- A text between quotes. -/
def inQuotes (s : String) : String := "\"" ++ s ++ "\""

/-- The type of any value. -/
def anyType : String := "interface\x7b\x7d"

/-- The type of values under keys. -/
def recordType : String := "map[string]" ++ anyType

end ProviderGlue.Go
