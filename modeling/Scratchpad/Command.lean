import Scratchpad.Text.Blank
import Scratchpad.Text.Cut

/-!
# Commands

The commands of a session, and the texts that stand for them. Whatever is no other command is code
to be evaluated.
-/

namespace Scratchpad

/-- The commands that throw something away and therefore ask first. -/
inductive Reset where
  /-- Clears the program. -/
  | program
  /-- Switches to another framework and to its settings. -/
  | framework (tag : String)
  /-- Clears the usings. -/
  | usings
  /-- Clears the references. -/
  | references
  deriving DecidableEq, Repr

inductive Command where
  | help
  | verbose (on : Bool)
  | typeInfo (on : Bool)
  | list
  | run
  | addUsing (namespaceName : String)
  | listUsings
  | addReference (reference : String)
  | listReferences
  | time (code : String)
  | whileInput (code : String)
  | exit
  | evaluate (code : String)
  | reset (what : Reset)
  deriving DecidableEq, Repr

namespace Reset

/-- The question that is asked before anything is thrown away. -/
def question : Reset → String
  | .program => "Clear program [yN]? "
  | .framework tag => "Reset compiler settings and switch to framework " ++ tag ++ " [yN]? "
  | .usings => "Clear using [yN]? "
  | .references => "Clear ref [yN]? "

/-- What is said once it is done. -/
def acknowledgement : Reset → String
  | .program => "Program Cleared"
  | .framework tag => "Compiling using .Net Framework " ++ tag
  | .usings => "Using Cleared"
  | .references => "References Cleared"

end Reset

/-- An answer that lets a reset happen. Case does not matter; blanks do. -/
def isAffirmative (answer : String) : Bool :=
  answer.toList.map Char.toLower == ['y']

namespace Command

/-- The spellings that switch something on, in any case and between any blanks. -/
def isYes (s : String) : Bool :=
  let word := String.ofList ((Text.trim s).toList.map Char.toLower)
  word == "yes" || word == "true" || word == "on" || word == "1"

/-- The command that a text without blanks at its ends stands for. The forms are tried in this
order. -/
def parseTrimmed (s : String) : Command :=
  if s = "help" then .help
  else if let some rest := Text.dropLead? "verbose" s then .verbose (isYes rest)
  else if let some rest := Text.dropLead? "typeinfo" s then .typeInfo (isYes rest)
  else if s = "list" then .list
  else if s = "clear" then .reset .program
  else if s = "run" then .run
  else if let some rest := Text.dropLead? "framework " s then .reset (.framework (Text.trim rest))
  else if let some rest := Text.dropLead? "using " s then .addUsing (Text.trim rest)
  else if s = "listusing" then .listUsings
  else if s = "clearusing" then .reset .usings
  else if let some rest := Text.dropLead? "ref " s then .addReference (Text.trim rest)
  else if s = "listref" then .listReferences
  else if s = "clearref" then .reset .references
  else if let some rest := Text.dropLead? "time " s then .time rest
  else if let some rest := Text.dropLead? "whileinput " s then .whileInput rest
  else if s = "exit" then .exit
  else .evaluate s

def parse (text : String) : Command :=
  parseTrimmed (Text.trim text)

end Command

end Scratchpad
