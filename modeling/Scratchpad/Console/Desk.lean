import Scratchpad.Engine
import Scratchpad.Session

/-!
# The desk a session works at

A session works at a desk: it has an engine at hand, writes to two streams that may refuse what is
written, draws identifiers, reads a clock, and everything that happens is noted in a transcript.
What the surroundings do is given by a site; what has happened so far is the state of the desk.
-/

namespace Scratchpad

/-- Something that happened during a session. -/
inductive Event where
  /-- A prompt was shown and a reply was read. -/
  | prompted (text : String)
  /-- The session wrote a text. -/
  | wrote (stream : Stream) (text : String)
  /-- Code that the session ran printed a text. -/
  | printed (stream : Stream) (text : String)
  /-- The engine was asked to compile. -/
  | compiled (job : Job)
  /-- The engine was asked to run what it had compiled last. -/
  | ran
  deriving DecidableEq, Repr

/-- What a session finds around it. -/
structure Site where
  /-- The directory below which the assemblies of the frameworks lie. -/
  frameworkDir : String
  /-- The identifiers that are drawn, one after the other. -/
  identifier : Nat → String
  /-- The readings of the clock in nanoseconds, one after the other. -/
  clock : Nat → Nat
  /-- Why a stream refuses the n-th text written to it, if it does. -/
  refusal : Stream → Nat → Option String := fun _ _ => none
  /-- Why the n-th flush of the output fails, if it does. -/
  flushRefusal : Nat → Option String := fun _ => none

/-- How often each part of a site has been used. -/
structure Tally where
  writesToOut : Nat := 0
  writesToErr : Nat := 0
  flushes : Nat := 0
  identifiers : Nat := 0
  readings : Nat := 0
  deriving DecidableEq, Repr

/-- How often a stream has been written to. -/
def Tally.writes (tally : Tally) : Stream → Nat
  | .out => tally.writesToOut
  | .err => tally.writesToErr

def Tally.countWrite (tally : Tally) : Stream → Tally
  | .out => { tally with writesToOut := tally.writesToOut + 1 }
  | .err => { tally with writesToErr := tally.writesToErr + 1 }

/-- A session with the engine it uses and what has happened so far. -/
structure Desk (E : Engine) where
  session : Session := {}
  engine : E.State
  tally : Tally := {}
  transcript : List Event := []

/-- Something done at a desk. It may fail, and what was done before it failed stays done. -/
abbrev Action (E : Engine) := ExceptT Failure (StateM (Desk E))

def Desk.note {E : Engine} (desk : Desk E) (event : Event) : Desk E :=
  { desk with transcript := desk.transcript ++ [event] }

namespace Action

variable {E : Engine}

/-- Carries out an action at a desk. -/
def perform {α : Type} (action : Action E α) (desk : Desk E) : Except Failure α × Desk E :=
  action.run.run desk

/-- The action that does to a desk what a function says. -/
def ofFun {α : Type} (f : Desk E → Except Failure α × Desk E) : Action E α :=
  ExceptT.mk f

/-- Carries out an action and gives its failure as a result. -/
def attempt {α : Type} (action : Action E α) : Action E (Except Failure α) :=
  ofFun fun desk =>
    let (result, desk) := action.perform desk
    (.ok result, desk)

def write (site : Site) (stream : Stream) (text : String) : Action E Unit :=
  ofFun fun desk =>
    let counted := { desk with tally := desk.tally.countWrite stream }
    match site.refusal stream (desk.tally.writes stream) with
    | some why => (.error (.io why), counted)
    | none => (.ok (), counted.note (.wrote stream text))

/-- Writes lines to a stream, one text for each. -/
def writeLines (site : Site) (stream : Stream) : List String → Action E Unit
  | [] => pure ()
  | line :: lines => do
    write site stream (line ++ "\n")
    writeLines site stream lines

def flush (site : Site) : Action E Unit :=
  ofFun fun desk =>
    let counted := { desk with tally := { desk.tally with flushes := desk.tally.flushes + 1 } }
    match site.flushRefusal desk.tally.flushes with
    | some why => (.error (.io why), counted)
    | none => (.ok (), counted)

def drawIdentifier (site : Site) : Action E String :=
  ofFun fun desk =>
    (.ok (site.identifier desk.tally.identifiers),
      { desk with tally := { desk.tally with identifiers := desk.tally.identifiers + 1 } })

def readClock (site : Site) : Action E Nat :=
  ofFun fun desk =>
    (.ok (site.clock desk.tally.readings),
      { desk with tally := { desk.tally with readings := desk.tally.readings + 1 } })

def session : Action E Session :=
  ofFun fun desk => (.ok desk.session, desk)

def setSession (session : Session) : Action E Unit :=
  ofFun fun desk => (.ok (), { desk with session })

def setSettings (settings : Settings) : Action E Unit :=
  ofFun fun desk => (.ok (), { desk with session := { desk.session with settings } })

def compile (job : Job) : Action E (Build E.Entry) :=
  ofFun fun desk =>
    let (result, engine) := E.compile job desk.engine
    (result, { desk with engine }.note (.compiled job))

def run (entry : E.Entry) : Action E Value :=
  ofFun fun desk =>
    let (run, engine) := E.run entry desk.engine
    (run.result,
      { desk with
        engine
        transcript := desk.transcript ++ .ran ::
          run.printed.map fun (stream, text) => .printed stream text })

end Action

end Scratchpad
