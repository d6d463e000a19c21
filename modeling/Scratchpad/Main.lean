import Scratchpad.Console.Transcript
import Scratchpad.Identifier
import Scratchpad.Startup.Plan
import Scratchpad.Toolchain.Engine

/-!
# The program

Carries out what the command line asks for on the terminal. Everything that is decided is decided
elsewhere; here lines are read and texts are printed. No program can be started from here, so every
snippet is answered by the failure to start the compiler.
-/

namespace Scratchpad.Terminal

def readVariables : IO Variables := do
  let compiler ← IO.getEnv "CSCON_COMPILER"
  let runtime ← IO.getEnv "CSCON_RUNTIME"
  let frameworks ← IO.getEnv "CSCON_FRAMEWORK_DIR"
  let values := [("CSCON_COMPILER", compiler), ("CSCON_RUNTIME", runtime),
    ("CSCON_FRAMEWORK_DIR", frameworks)]
  return fun name => ((values.lookup name).getD none).map Utf8.encode

/-- What a session finds around it at the terminal. -/
def readSite (env : Variables) : IO Site := do
  let bits ← IO.rand 0 (Identifier.count - 1)
  let now ← IO.monoNanosNow
  return {
    frameworkDir := env.frameworkDir
    identifier := fun n => Identifier.ofBits (bits + n)
    clock := fun _ => now }

/-- Reads bytes up to and including a line feed, after those already read. -/
partial def readLine (stdin : IO.FS.Stream) (line : Bytes) : IO Bytes := do
  match (← stdin.read 1).data.toList with
  | [] => return line
  | read => if read = [Input.lineFeed] then return line ++ read else readLine stdin (line ++ read)

/-- Shows a prompt and reads a reply, or the end of the input. -/
def ask (prompt : String) : IO (Option Reply) := do
  let stdout ← IO.getStdout
  stdout.putStr prompt
  stdout.flush
  try
    let line ← readLine (← IO.getStdin) []
    return (Input.readLine line).1
  catch why =>
    return some (.failed (toString why))

def print (stream : Stream) (text : String) : IO Unit :=
  match stream with
  | .out => IO.print text
  | .err => IO.eprint text

/-- Prints what an event puts on the terminal, prompts apart, which have been shown already. -/
def printEvent : Event → IO Unit
  | .wrote stream text | .printed stream text => print stream text
  | .prompted _ | .compiled _ | .ran => return

variable {E : Engine}

/-- Hears replies from the terminal until the console is closed. -/
partial def converse (site : Site) (console : Console E) : IO (Except Failure Unit) := do
  match console.prompt? with
  | none => return console.result
  | some prompt =>
    let reply ← ask prompt
    let next := console.hear site reply
    (next.desk.transcript.drop console.desk.transcript.length).forM printEvent
    converse site next

def once (site : Site) (command : String) (desk : Desk E) : IO Nat := do
  let replies ← match Command.parse command with
    | .reset what => pure (← ask what.question).toList
    | _ => pure []
  let (exitCode, _, after) := desk.runOnce site command replies
  after.transcript.forM printEvent
  return exitCode

def carryOut (site : Site) (engine : E.State) : Plan → IO Nat
  | .answer exitCode stream text => do
    print stream text
    return exitCode
  | .once command settings => once site command ({ session := { settings }, engine } : Desk E)
  | .converse settings => do
    let result ← converse site (Console.start site ({ session := { settings }, engine } : Desk E))
    let (exitCode, said) := Plan.closing result
    said.forM (print .err)
    return exitCode

end Scratchpad.Terminal

open Scratchpad in
def main (args : List String) : IO UInt32 := do
  let env ← Terminal.readVariables
  let site ← Terminal.readSite env
  let engine := env.toolchain.engine Host.bare
  let exitCode ← Terminal.carryOut (E := engine) site () (Plan.ofWords args)
  return exitCode.toUInt32
