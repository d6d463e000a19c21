/-!
# JSON values

The values of a JSON document as it is written: members stay in the order of the text and may
repeat, and a number keeps apart whole numbers that fit into 64 bits from all others.
-/

namespace Scratchpad

inductive Json.Number where
  /-- A whole number without a sign, below `2 ^ 64`. -/
  | natural (n : Nat)
  /-- The whole number `-n`, with `n` from 1 to `2 ^ 63`. -/
  | negative (n : Nat)
  /-- Any other number. -/
  | real (f : Float)

/-- A value of a document. -/
inductive Json where
  | null
  | bool (b : Bool)
  | number (n : Json.Number)
  | string (s : String)
  | array (items : List Json)
  | object (members : List (String × Json))

end Scratchpad
