import Scratchpad.Text.Numeral

/-!
# Elapsed time

A length of time and its text: hours, minutes, seconds and seven places of a second.
-/

namespace Scratchpad

/-- A length of time, as whole seconds and the nanoseconds beyond them. -/
structure Elapsed where
  seconds : Nat
  nanos : Nat
  deriving DecidableEq, Repr

namespace Elapsed

/-- The time between two readings of a clock that counts nanoseconds. -/
def between (start stop : Nat) : Elapsed :=
  ⟨(stop - start) / 1000000000, (stop - start) % 1000000000⟩

/-- Hours, minutes and seconds with at least two digits, and seven places of a second. -/
def render (elapsed : Elapsed) : String :=
  Text.padded 2 (elapsed.seconds / 3600) ++ ":" ++ Text.padded 2 (elapsed.seconds / 60 % 60) ++
    ":" ++ Text.padded 2 (elapsed.seconds % 60) ++ "." ++ Text.padded 7 (elapsed.nanos / 100)

end Elapsed

end Scratchpad
