import Scratchpad.Text.Cut

/-!
# Snippets

What is done to the text of a snippet before it becomes the body of a function.
-/

namespace Scratchpad.Snippet

/-- Turns the short form `e (expression)` into code that returns the expression. Other texts stay
as they are. -/
def prepare (text : String) : String :=
  match Text.dropLead? "e " text with
  | some expression => "object __retobj = (" ++ expression ++ "); return __retobj;"
  | none => text

/-- Ends code in which nothing is returned by returning null. -/
def ensureReturn (text : String) : String :=
  if Text.contains "return " text then text else text ++ "; return null;"

def body (text : String) : String :=
  ensureReturn (prepare text)

/-- Code that runs the given code for each line of input until a line is empty. -/
def whileInput (code : String) : String :=
  "string input; Console.Write(\"while> \"); while ((input = Console.ReadLine()) != null && " ++
    "input != \"\") \x7b " ++ code ++ "; Console.Write(\"while> \"); \x7d"

end Scratchpad.Snippet
