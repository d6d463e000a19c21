import Scratchpad.Console.Draft

/-!
# The interactive console

The console shows its prompt, hears a reply, and goes on until the session is left, the input ends
or cannot be read, or a failure cannot be reported. It hears one reply at a time, so it can be run
on a queue of replies as well as on a terminal.
-/

namespace Scratchpad

def mainPrompt : String := "# "

/-- What a console is waiting for. -/
inductive Phase where
  /-- For a line. -/
  | ready
  /-- For the reply to the question of a reset. -/
  | confirming (reset : Reset)
  /-- For nothing any more. -/
  | closed (result : Except Failure Unit)

/-- A desk with the text of an unfinished command. -/
structure Console (E : Engine) where
  desk : Desk E
  draft : String := ""
  phase : Phase := .ready

namespace Console

variable {E : Engine}

/-- The prompt that the next reply belongs to, if another one is wanted. -/
def prompt? (console : Console E) : Option String :=
  match console.phase with
  | .ready => some mainPrompt
  | .confirming reset => some reset.question
  | .closed _ => none

def isClosed (console : Console E) : Bool :=
  match console.phase with
  | .closed _ => true
  | _ => false

/-- Closes the console, flushing the output. -/
def close (site : Site) (console : Console E) : Console E :=
  let (result, desk) := (Action.flush site).perform console.desk
  { console with desk, phase := .closed result }

/-- Waits for the next line, unless the session has been left. -/
def proceed (site : Site) (console : Console E) : Console E :=
  if console.desk.session.exited then console.close site else { console with phase := .ready }

def start (site : Site) (desk : Desk E) : Console E :=
  proceed site { desk }

/-- Goes on after a command. A failure is reported, and the unfinished command is dropped. -/
def conclude (site : Site) (console : Console E) : Except Failure Unit → Console E
  | .ok () => console.proceed site
  | .error failure =>
    match (Action.writeLines site .err [failure.report]).perform console.desk with
    | (.ok (), desk) => proceed site { console with desk, draft := "" }
    | (.error refused, desk) => { console with desk, phase := .closed (.error refused) }

/-- Hears a reply at the main prompt, or the end of the input. -/
def hearLine (site : Site) (console : Console E) (reply : Option Reply) : Console E :=
  let desk := console.desk.note (.prompted mainPrompt)
  match reply with
  | none => close site { console with desk }
  | some (.failed why) =>
    match (Action.writeLines site .err ["Input error: " ++ why]).perform desk with
    | (.ok (), desk) => close site { console with desk }
    | (.error refused, desk) => { console with desk, phase := .closed (.error refused) }
  | some (.line text) =>
    match desk.feed site console.draft text with
    | (draft, .asking reset desk) => { desk, draft, phase := .confirming reset }
    | (draft, .done result desk) => conclude site { console with desk, draft } result

/-- Hears a reply, or the end of the input. -/
def hear (site : Site) (console : Console E) (reply : Option Reply) : Console E :=
  match console.phase with
  | .closed _ => console
  | .ready => console.hearLine site reply
  | .confirming reset =>
    let (result, desk) := console.desk.answer site reset reply
    conclude site { console with desk } result

/-- Hears the end of the input, first as the answer to a question that is still open. -/
def hearEnd (site : Site) (console : Console E) : Console E :=
  (console.hear site none).hear site none

/-- Hears replies until the console is closed, and gives those that are left. -/
def run (site : Site) (console : Console E) : List Reply → Console E × List Reply
  | [] => (console.hearEnd site, [])
  | reply :: replies =>
    if console.isClosed then (console, reply :: replies)
    else run site (console.hear site (some reply)) replies

/-- How the console ended. A console that is still open has not failed. -/
def result (console : Console E) : Except Failure Unit :=
  match console.phase with
  | .closed result => result
  | _ => .ok ()

end Console

end Scratchpad
