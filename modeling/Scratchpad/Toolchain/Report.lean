import Scratchpad.Text.Blank
import Scratchpad.Text.Cut

/-!
# Compiler reports

The lines that a compiler writes, sorted into errors, warnings and the rest.
-/

namespace Scratchpad

/-- The lines of a compiler, by what they say. -/
structure Report where
  errors : List String := []
  warnings : List String := []
  other : List String := []
  deriving DecidableEq, Repr

namespace Report

/-- Whether a line is a diagnostic of the given severity. -/
def isDiagnostic (severity line : String) : Bool :=
  Text.contains (": " ++ severity ++ " ") line || Text.startsWith (severity ++ " ") line

/-- The lines of an output that say something, without blanks at their ends and without the
directory in front of file names. -/
def linesOf (dir output : String) : List String :=
  ((Text.lines output).map Text.trim).filter (· != "") |>.map (Text.delete (dir ++ "/"))

def ofLines (lines : List String) : Report where
  errors := lines.filter (isDiagnostic "error")
  warnings := lines.filter fun line => !isDiagnostic "error" line && isDiagnostic "warning" line
  other := lines.filter fun line => !isDiagnostic "error" line && !isDiagnostic "warning" line

/-- The report that a compiler working in a directory wrote. -/
def ofOutput (dir output : String) : Report :=
  ofLines (linesOf dir output)

end Report

end Scratchpad
