import Scratchpad.Console.Loop
import Scratchpad.Console.OneShot
import Scratchpad.Startup.Messages

/-!
# What a start of the program does

The command line either is answered at once, or gives a command to carry out, or opens a console.
-/

namespace Scratchpad

/-- Sets up settings as options ask for. The framework is chosen first, since it brings its own usings
and references. What was changed before a failure stays changed. -/
def Options.apply (options : Options) : ExceptT Failure (StateM Settings) Unit := do
  match options.framework with
  | none => pure ()
  | some tag =>
    match (← get).switch tag with
    | .ok settings => set settings
    | .error failure => throw failure
  modify fun settings => { settings with references := settings.references ++ options.references }
  modify fun settings => { settings with usings := settings.usings ++ options.usings }
  modify fun settings => { settings with verbose := options.verbose, typeInfo := options.typeInfo }

/-- How setting up settings ends, and what the settings are then. -/
def Options.applyTo (options : Options) (settings : Settings) : Except Failure Unit × Settings :=
  options.apply.run.run settings

/-- What a start of the program does. -/
inductive Plan where
  /-- Shows a text and ends. -/
  | answer (exitCode : Nat) (stream : Stream) (text : String)
  /-- Carries out one command. -/
  | once (command : String) (settings : Settings)
  /-- Opens a console, which always shows warnings. -/
  | converse (settings : Settings)

namespace Plan

/-- What a command line asks for. -/
def ofWords (words : List String) : Plan :=
  match Options.parse words with
  | .error stop =>
    .answer stop.exitCode (if stop.isAnswer then .out else .err)
      (stop.text .stream Options.programName)
  | .ok options =>
    match options.applyTo .default with
    | (.error failure, _) => .answer 1 .err (failure.report ++ "\n")
    | (.ok (), settings) =>
      match options.command? with
      | some command => .once command settings
      | none => .converse { settings with verbose := true }

/-- The exit code of a console, and what is said about a failure of its own. -/
def closing : Except Failure Unit → Nat × Option String
  | .ok () => (0, none)
  | .error (.io why) => (1, some ("Input error: " ++ why ++ "\n"))
  | .error failure => (1, some ("Input error: " ++ failure.message ++ "\n"))

/-- Carries out a plan on a queue of replies, and gives the exit code. -/
def run {E : Engine} (site : Site) (engine : E.State) (replies : List Reply) :
    Plan → Nat × Desk E
  | .answer exitCode stream text => (exitCode, Desk.note { engine } (.wrote stream text))
  | .once command settings =>
    let (exitCode, _, desk) := Desk.runOnce site command replies { session := { settings }, engine }
    (exitCode, desk)
  | .converse settings =>
    let (console, _) :=
      (Console.start site { session := { settings }, engine }).run site replies
    match closing console.result with
    | (exitCode, none) => (exitCode, console.desk)
    | (exitCode, some text) => (exitCode, console.desk.note (.wrote .err text))

end Plan

end Scratchpad
