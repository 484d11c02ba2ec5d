import ProviderGlue.Failure

/-!
# Formatters

Written files may be put into shape by another program.  Whatever that program does, the written
file stays: a formatter that is missing or gives up leaves it as it was.
-/

namespace ProviderGlue

/-- How a formatter ends. -/
inductive FormatterOutcome where
  | done
  /-- The program cannot be run. -/
  | missing (cause : AccessFault)
  /-- The program ends with a status other than zero. -/
  | gaveUp (status : Nat) (complaint : String)

/-- A program that formats the file at a path. -/
structure Formatter where
  /-- The name of the program. -/
  program : String
  /-- How the program ends for a path. -/
  run : (path : String) → FormatterOutcome

namespace Formatter

/-- Formats a file. -/
def format (f : Formatter) (path : String) : Except Failure Unit :=
  match f.run path with
  | .done => .ok ()
  | .missing cause => .error (.noFormatter f.program cause)
  | .gaveUp status complaint => .error (.formatter f.program status complaint)

/-- Whether a file could be formatted. -/
def succeeds (f : Formatter) (path : String) : Bool :=
  match f.format path with
  | .ok () => true
  | .error _ => false

end Formatter

end ProviderGlue
