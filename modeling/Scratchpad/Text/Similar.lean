/-!
# Similar texts

How much two texts resemble each other, as the Jaro similarity: characters are paired with equal
ones that stand nearly at the same place, and the similarity grows with the share of paired
characters and shrinks with the pairs that are out of order.
-/

namespace Scratchpad.Text

/-- Marks the first unmarked `c`, if there is one among `span` characters after skipping `skip`. -/
def mark? (c : Char) : Nat → Nat → List (Char × Bool) → Option (List (Char × Bool))
  | _, _, [] => none
  | skip + 1, span, slot :: slots => (mark? c skip span slots).map (slot :: ·)
  | 0, 0, _ :: _ => none
  | 0, span + 1, (d, marked) :: slots =>
    if d == c && !marked then some ((d, true) :: slots)
    else (mark? c 0 span slots).map ((d, marked) :: ·)

/-- Pairs characters, the first of which stands at the given place, with equal ones at most `reach`
places away. Gives the characters that found a partner, and the partners marked. -/
def pairUp (reach : Nat) : Nat → List Char → List (Char × Bool) → List Char × List (Char × Bool)
  | _, [], slots => ([], slots)
  | place, c :: cs, slots =>
    match mark? c (place - reach) (place + reach + 1 - (place - reach)) slots with
    | some marked =>
      let (paired, slots) := pairUp reach (place + 1) cs marked
      (c :: paired, slots)
    | none => pairUp reach (place + 1) cs slots

/-- The Jaro similarity of two texts, from 0 for texts without anything in common to 1 for equal
ones. -/
def similarity (s t : String) : Float :=
  let reach := max s.length t.length / 2 - 1
  let (left, slots) := pairUp reach 0 s.toList (t.toList.map (·, false))
  let right := (slots.filter (·.2)).map (·.1)
  let displaced := ((left.zip right).filter fun (c, d) => c != d).length / 2
  let share (n of : Nat) : Float := Float.ofNat n / Float.ofNat of
  if s.isEmpty && t.isEmpty then 1
  else if left.isEmpty then 0
  else
    (share left.length s.length + share left.length t.length +
      share (left.length - displaced) left.length) / 3

end Scratchpad.Text
