import Scratchpad.Text.Cut

/-!
# Numbered programs

A program is a sequence of numbered lines in ascending order of their numbers. Its source is the
texts of the lines in that order.
-/

namespace Scratchpad

/-- A program of numbered lines. -/
structure Program where
  /-- The lines with their numbers, in ascending order. -/
  lines : List (Int × String) := []
  deriving DecidableEq, Repr

namespace Program

/-- Puts a line at its place among lines in ascending order, instead of one of the same number. -/
def insertLine (number : Int) (text : String) : List (Int × String) → List (Int × String)
  | [] => [(number, text)]
  | (n, t) :: rest =>
    if number < n then (number, text) :: (n, t) :: rest
    else if number = n then (number, text) :: rest
    else (n, t) :: insertLine number text rest

def set (number : Int) (text : String) (program : Program) : Program :=
  ⟨insertLine number text program.lines⟩

def contains (number : Int) (program : Program) : Bool :=
  program.lines.any (·.1 == number)

def remove (number : Int) (program : Program) : Program :=
  ⟨program.lines.filter (·.1 != number)⟩

def get? (number : Int) (program : Program) : Option String :=
  program.lines.lookup number

/-- The texts of the lines in order, each followed by a line feed. -/
def source (program : Program) : String :=
  Text.unlines (program.lines.map (·.2))

/-- The lines as they are listed: number, tab, text. -/
def listing (program : Program) : List String :=
  program.lines.map fun (number, text) => toString number ++ "\t" ++ text

end Program

end Scratchpad
