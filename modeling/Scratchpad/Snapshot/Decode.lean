import Scratchpad.Failure
import Scratchpad.Snapshot.Node

/-!
# Reading a snapshot

A snapshot tells how a run ended: with a value, or with the cause of an exception. It is an object
with the tag `status` and one field, or a list of both. The tag is looked at as soon as it is read,
so a wrong tag is found before a fault of the text behind it; any other fault of the text is found
before the fields are looked at; what follows the document is looked at last.
-/

namespace Scratchpad.Snapshot

open Json (TextFault skipGap skipColon readValue)

/-- How a run ended. -/
inductive Outcome where
  | returned (value : Value)
  | threw (cause : String)

/-- The tags of a snapshot. -/
inductive Status where
  | ok
  | fault
  deriving DecidableEq, Repr

/-- How deep lists and objects may be nested in a document. -/
def maxDepth : Nat := 127

def Status.ofTag (tag : String) : Except Fault Status :=
  if tag = "ok" then .ok .ok
  else if tag = "fault" then .ok .fault
  else .error (.unknownTag tag ["ok", "fault"])

/-- Reads the tag of a snapshot. A list or an object in its place is refused at its opening. -/
def readStatus (cs : List Char) : Except Fault (Status × List Char) :=
  match skipGap cs with
  | '"' :: rest => do
    let (tag, rest) ← (Json.readString rest).mapError .malformed
    let status ← Status.ofTag tag
    .ok (status, rest)
  | '[' :: _ => .error (.unexpected .list "variant identifier")
  | '{' :: _ => .error (.unexpected .object "variant identifier")
  | rest => do
    let (value, _) ← (readValue 0 rest).mapError .malformed
    .error (.unexpected (.ofJson value) "variant identifier")

/-- Reads the one field of a snapshot among its members, given what has been read so far. -/
def readSole {α : Type} (name : String) (read : Json → Except Fault α) :
    List (String × Json) → Option α → Except Fault α
  | [], some a => .ok a
  | [], none => .error (.missingField name)
  | (key, json) :: members, found =>
    if key = name then
      match found with
      | some _ => .error (.duplicateField name)
      | none =>
        match read json with
        | .ok a => readSole name read members (some a)
        | .error fault => .error fault
    else readSole name read members found

/-- Reads the one field of a snapshot that is written as a list. -/
def readOnly {α : Type} (shape : String) (read : Json → Except Fault α) :
    List Json → Except Fault α
  | [] => .error (.tooShort 0 shape 1)
  | json :: rest => do
    let a ← read json
    if rest.isEmpty then .ok a else .error (.tooLong (rest.length + 1) 1)

/-- The outcome that the members of an object describe. -/
def Status.readNamed (members : List (String × Json)) : Status → Except Fault Outcome
  | .ok => (readSole "value" readNode members none).map .returned
  | .fault => (readSole "cause" readText members none).map .threw

/-- The outcome that the elements of a list behind its tag describe. -/
def Status.readPlaced (values : List Json) : Status → Except Fault Outcome
  | .ok => (readOnly "struct variant Outcome::Ok" readNode values).map .returned
  | .fault => (readOnly "struct variant Outcome::Fault" readText values).map .threw

/-- The status and the other members of a snapshot that have been read. -/
structure Opened where
  status : Option Status := none
  members : List (String × Json) := []

/-- Reads one member of a snapshot after its key. -/
def Opened.step (opened : Opened) (key : String) (cs : List Char) :
    Except Fault (Opened × List Char) :=
  if key = "status" then
    match opened.status with
    | some _ => .error (.duplicateField "status")
    | none => do
      let cs ← (skipColon cs).mapError .malformed
      let (status, rest) ← readStatus cs
      .ok ({ opened with status := some status }, rest)
  else do
    let cs ← (skipColon cs).mapError .malformed
    let (value, rest) ← (readValue (maxDepth - 1) cs).mapError .malformed
    .ok ({ opened with members := opened.members ++ [(key, value)] }, rest)

def readObject (cs : List Char) : Except Fault (Outcome × List Char) := do
  let follow ← (Json.firstMember cs).mapError .malformed
  let (opened, rest) ← Json.foldMembers .malformed Opened.step (cs.length + 1) {} follow
  match opened.status with
  | none => .error (.missingField "status")
  | some status =>
    let outcome ← status.readNamed opened.members
    .ok (outcome, rest)

def readList (cs : List Char) : Except Fault (Outcome × List Char) := do
  match ← (Json.firstItem cs).mapError .malformed with
  | .closed _ => .error (.missingField "status")
  | .more rest =>
    let (status, rest) ← readStatus rest
    let follow ← (Json.nextItem rest).mapError .malformed
    let (values, rest) ←
      (Json.readItems (readValue (maxDepth - 1)) (rest.length + 1) follow).mapError .malformed
    let outcome ← status.readPlaced values
    .ok (outcome, rest)

def readOutcome (cs : List Char) : Except Fault (Outcome × List Char) :=
  match skipGap cs with
  | '{' :: rest => readObject rest
  | '[' :: rest => readList rest
  | rest => do
    let (value, _) ← (readValue 0 rest).mapError .malformed
    .error (.unexpected (.ofJson value) "internally tagged enum Outcome")

def parse (text : String) : Except Fault Outcome := do
  let (outcome, rest) ← readOutcome text.toList
  (Json.expectEnd rest).mapError .malformed
  .ok outcome

/-- The value that a text reports. An exception and a text that cannot be understood are
failures. -/
def decode (text : String) : Except Failure Value :=
  match parse text with
  | .ok (.returned value) => .ok value
  | .ok (.threw cause) => .error (.thrown cause)
  | .error fault => .error (.unreadable fault.message)

end Scratchpad.Snapshot
