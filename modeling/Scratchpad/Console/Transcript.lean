import Scratchpad.Console.Desk

/-!
# Views of a transcript

What of a transcript reaches a stream, which prompts were shown, and what someone at a terminal
sees.
-/

namespace Scratchpad.Transcript

/-- The text of an event, if the session wrote it to the stream. -/
def writtenTo (stream : Stream) : Event → Option String
  | .wrote s text => if s = stream then some text else none
  | _ => none

def written (stream : Stream) (transcript : List Event) : String :=
  String.join (transcript.filterMap (writtenTo stream))

def prompts (transcript : List Event) : List String :=
  transcript.filterMap fun
    | .prompted text => some text
    | _ => none

/-- The text of an event, if it appears on a stream of the terminal. Prompts appear on the
output. -/
def shownOn (stream : Stream) : Event → Option String
  | .prompted text => if stream = .out then some text else none
  | .wrote s text | .printed s text => if s = stream then some text else none
  | .compiled _ | .ran => none

/-- Everything that appears on a stream of the terminal. -/
def shown (stream : Stream) (transcript : List Event) : String :=
  String.join (transcript.filterMap (shownOn stream))

end Scratchpad.Transcript
