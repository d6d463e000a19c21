/-!
# Decimal numerals

Numbers written with leading zeros, and the signed 32-bit numbers that a line may start with.
-/

namespace Scratchpad.Text

/-- The number in decimal, with zeros in front up to the given width. -/
def padded (width n : Nat) : String :=
  String.ofList (List.replicate (width - (Nat.toDigits 10 n).length) '0' ++ Nat.toDigits 10 n)

/-- The number that a non-empty run of decimal digits stands for. -/
def readDigits? (cs : List Char) : Option Nat :=
  if cs.isEmpty || !cs.all Char.isDigit then none
  else some (cs.foldl (fun n c => 10 * n + (c.toNat - '0'.toNat)) 0)

/-- How many numbers without a sign are in the signed 32-bit range. -/
def int32Limit : Nat := 0x80000000

/-- The number in the signed 32-bit range that a text stands for: digits, and possibly one sign in
front of them. -/
def readInt32? (s : String) : Option Int :=
  match s.toList with
  | '-' :: ds =>
    match readDigits? ds with
    | some n => if n ≤ int32Limit then some (-(n : Int)) else none
    | none => none
  | '+' :: ds => bounded (readDigits? ds)
  | ds => bounded (readDigits? ds)
where
  /-- Keeps a number that is at most the greatest of the range. -/
  bounded : Option Nat → Option Int
    | some n => if n < int32Limit then some (n : Int) else none
    | none => none

end Scratchpad.Text
