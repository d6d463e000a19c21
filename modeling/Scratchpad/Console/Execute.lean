import Scratchpad.Console.Evaluation
import Scratchpad.Console.Help
import Scratchpad.Elapsed
import Scratchpad.Input

/-!
# Carrying out commands

A command is carried out at once, unless it throws something away: then its question is asked
first, and it is carried out only if the answer agrees. The end of the input agrees to nothing.
-/

namespace Scratchpad

namespace Action

variable {E : Engine}

/-- Carries out a reset that has been agreed to. The session is changed before it is said. -/
def carryOut (site : Site) (reset : Reset) : Action E Unit := do
  let session ← session
  match reset.apply session with
  | .error failure => throw failure
  | .ok changed =>
    setSession changed
    writeLines site .out [reset.acknowledgement]

/-- Carries out a command. A reset is taken to be agreed to. -/
def execute (site : Site) : Command → Action E Unit
  | .help => write site .out helpText
  | .verbose on => do
    let session ← session
    setSettings { session.settings with verbose := on }
  | .typeInfo on => do
    let session ← session
    setSettings { session.settings with typeInfo := on }
  | .list => do
    let session ← session
    writeLines site .out session.program.listing
  | .run => do
    let session ← session
    runSnippet site session.program.source
  | .addUsing namespaceName => do
    writeLines site .out ["Using " ++ namespaceName]
    let session ← session
    setSettings (session.settings.addUsing namespaceName)
  | .listUsings => do
    let session ← session
    writeLines site .out session.settings.usings
  | .addReference reference => do
    writeLines site .out ["Referenced " ++ reference]
    let session ← session
    setSettings (session.settings.addReference reference)
  | .listReferences => do
    let session ← session
    writeLines site .out session.settings.references
  | .time code => do
    let start ← readClock site
    runSnippet site code
    let stop ← readClock site
    writeLines site .out ["Time " ++ (Elapsed.between start stop).render]
  | .whileInput code => runSnippet site (Snippet.whileInput code)
  | .exit => do
    let session ← session
    setSession { session with exited := true }
  | .evaluate code => runSnippet site code
  | .reset what => carryOut site what

end Action

/-- What comes of a command: it is done, or a question has to be answered first. -/
inductive Turn (E : Engine) where
  | done (result : Except Failure Unit) (desk : Desk E)
  | asking (reset : Reset) (desk : Desk E)

namespace Desk

variable {E : Engine}

def submit (site : Site) (command : Command) (desk : Desk E) : Turn E :=
  match command with
  | .reset what => .asking what desk
  | _ =>
    let (result, desk) := (Action.execute site command).perform desk
    .done result desk

/-- Gives the session the reply to the question of a reset, or the end of the input. -/
def answer (site : Site) (reset : Reset) (reply : Option Reply) (desk : Desk E) :
    Except Failure Unit × Desk E :=
  let asked := desk.note (.prompted reset.question)
  match reply with
  | none => (.ok (), asked)
  | some (.failed why) => (.error (.io why), asked)
  | some (.line text) =>
    if isAffirmative text then (Action.execute site (.reset reset)).perform asked
    else (.ok (), asked)

/-- What is left of the replies, and how a turn ends if its question is answered from them. -/
def settle (site : Site) (replies : List Reply) : Turn E → Except Failure Unit × List Reply × Desk E
  | .done result desk => (result, replies, desk)
  | .asking reset desk =>
    let (result, desk) := desk.answer site reset replies.head?
    (result, replies.tail, desk)

/-- Carries out a command, with the replies to answer its question from. -/
def carryOut (site : Site) (command : Command) (replies : List Reply) (desk : Desk E) :
    Except Failure Unit × List Reply × Desk E :=
  settle site replies (desk.submit site command)

end Desk

end Scratchpad
