import Scratchpad.Console.Execute
import Scratchpad.LineEdit

/-!
# Lines of input

A line edits the program, goes on with the command that the lines before it began, or completes
that command. A backslash at the end of a line means that the command goes on.
-/

namespace Scratchpad

/-- What a line means, given the text of the command that the lines before it began. -/
inductive Intake where
  /-- The line is blank and means nothing. -/
  | ignored
  /-- The line edits the program, or fails to. -/
  | edit (parsed : Except Failure LineEdit)
  /-- The command goes on. -/
  | continued (draft : String)
  /-- The command is complete. -/
  | command (text : String)

def continuationMark : Char := '\\'

/-- The text of a command that goes on, without the marks at either end. -/
def stripContinuation (text : String) : String :=
  Text.trimChar continuationMark text

def Intake.ofLine (draft line : String) : Intake :=
  if Text.isBlankText line then .ignored
  else if LineEdit.applies line then .edit (LineEdit.parse line)
  else if Text.endsWithChar continuationMark line then
    .continued (stripContinuation (draft ++ line))
  else .command (draft ++ line)

/-- Gives the session a line after a draft, and gives the draft that is left. -/
def Desk.feed {E : Engine} (site : Site) (draft line : String) (desk : Desk E) : String × Turn E :=
  match Intake.ofLine draft line with
  | .ignored => (draft, .done (.ok ()) desk)
  | .edit (.error failure) => ("", .done (.error failure) desk)
  | .edit (.ok edit) =>
    ("", .done (.ok ())
      { desk with session := { desk.session with program := edit.apply desk.session.program } })
  | .continued draft => (draft, .done (.ok ()) desk)
  | .command text => ("", desk.submit site (.parse text))

end Scratchpad
