import Scratchpad.Text.Utf8

/-!
# Input

What a session reads: one reply after the other, each a line or a failed attempt to read one. A
stream of bytes is cut into replies at its line feeds.
-/

namespace Scratchpad

/-- What an attempt to read a line gives, unless the input has ended. -/
inductive Reply where
  | line (text : String)
  | failed (message : String)
  deriving DecidableEq, Repr

namespace Input

def lineFeed : UInt8 := 10

/-- The bytes up to and including the first line feed, and the bytes after it. -/
def cutLine : Bytes → Bytes × Bytes
  | [] => ([], [])
  | b :: bytes =>
    if b = lineFeed then ([b], bytes)
    else
      let (line, rest) := cutLine bytes
      (b :: line, rest)

/-- A line without its line feed, and then without one carriage return at its end. -/
def stripEnd (line : List Char) : List Char :=
  dropLast '\r' (dropLast '\n' line)
where
  /-- The list without its last character, if that is `c`. -/
  dropLast (c : Char) (cs : List Char) : List Char :=
    if cs.getLast? = some c then cs.dropLast else cs

def replyOf (line : Bytes) : Reply :=
  match Utf8.decode? line with
  | some text => .line (String.ofList (stripEnd text.toList))
  | none => .failed "stream did not contain valid UTF-8"

/-- Reads one line from a stream, or nothing at its end. -/
def readLine (bytes : Bytes) : Option Reply × Bytes :=
  match bytes with
  | [] => (none, [])
  | _ => (some (replyOf (cutLine bytes).1), (cutLine bytes).2)

theorem length_cutLine_snd_lt (b : UInt8) (bytes : Bytes) :
    (cutLine (b :: bytes)).2.length < (b :: bytes).length := by
  induction bytes generalizing b with
  | nil => by_cases h : b = lineFeed <;> simp [cutLine, h]
  | cons c rest ih =>
    by_cases h : b = lineFeed
    · simp [cutLine, h]
    · have := ih c
      rw [cutLine, if_neg h]
      simp only [List.length_cons] at this ⊢
      omega

/-- All replies that a stream gives until it ends. -/
def replies : Bytes → List Reply
  | [] => []
  | b :: bytes => replyOf (cutLine (b :: bytes)).1 :: replies (cutLine (b :: bytes)).2
termination_by bytes => bytes.length
decreasing_by exact length_cutLine_snd_lt b bytes

end Input

end Scratchpad
