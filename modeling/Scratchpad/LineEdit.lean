import Scratchpad.Failure
import Scratchpad.Program
import Scratchpad.Text.Blank
import Scratchpad.Text.Numeral

/-!
# Line edits

A line whose first character other than a blank is a digit edits the program: the number up to the
first space names the line and what follows the space is its text. A number without a space after
it deletes the line.
-/

namespace Scratchpad

/-- A change of one line of the program. Without a text the line is deleted. -/
structure LineEdit where
  number : Int
  text : Option String
  deriving DecidableEq, Repr

namespace LineEdit

def applies (line : String) : Bool :=
  match (Text.trimStart line).toList with
  | [] => false
  | c :: _ => c.isDigit

/-- The number of an edit as it is written, and its text. -/
def split (line : String) : String × Option String :=
  let rest := Text.trimStart line
  match Text.splitFirst? ' ' rest with
  | some (number, text) => (number, some text)
  | none => (Text.trimEnd rest, none)

def parse (line : String) : Except Failure LineEdit :=
  let (token, text) := split line
  match Text.readInt32? token with
  | some number => .ok ⟨number, text⟩
  | none => .error (.rejected "LINE001" s!"Invalid line number '{token}'")

def apply (edit : LineEdit) (program : Program) : Program :=
  match edit.text with
  | some text => program.set edit.number text
  | none => program.remove edit.number

end LineEdit

end Scratchpad
