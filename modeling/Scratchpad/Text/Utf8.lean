/-!
# Bytes as text

Reading bytes as UTF-8. Strict reading refuses ill-formed bytes. Lenient reading puts the
replacement character in the place of each maximal ill-formed part: a lead byte with the
continuation bytes that may follow it, or a single byte that can start nothing.
-/

namespace Scratchpad

/-- A sequence of bytes, as a program writes it or a file holds it. -/
abbrev Bytes := List UInt8

namespace Utf8

def encode (s : String) : Bytes :=
  s.toByteArray.data.toList

/-- The text that the bytes encode, if they are well-formed. -/
def decode? (bytes : Bytes) : Option String :=
  String.fromUTF8? ⟨bytes.toArray⟩

/-- A character of which some bytes are still to come. -/
structure Unfinished where
  /-- How many more bytes belong to the character. -/
  missing : Nat
  /-- The least next byte that may follow. -/
  lo : Nat
  /-- The greatest next byte that may follow. -/
  hi : Nat
  /-- The number collected from the bytes so far. -/
  value : Nat

def replacement : Char := Char.ofNat 0xFFFD

/-- What a byte that starts a character gives: a character by itself, an unfinished character, or
the replacement character. -/
def lead (b : Nat) : List Char × Option Unfinished :=
  if b < 0x80 then ([Char.ofNat b], none)
  else if b < 0xC2 then ([replacement], none)
  else if b < 0xE0 then ([], some ⟨1, 0x80, 0xBF, b - 0xC0⟩)
  else if b == 0xE0 then ([], some ⟨2, 0xA0, 0xBF, 0⟩)
  else if b == 0xED then ([], some ⟨2, 0x80, 0x9F, 13⟩)
  else if b < 0xF0 then ([], some ⟨2, 0x80, 0xBF, b - 0xE0⟩)
  else if b == 0xF0 then ([], some ⟨3, 0x90, 0xBF, 0⟩)
  else if b < 0xF4 then ([], some ⟨3, 0x80, 0xBF, b - 0xF0⟩)
  else if b == 0xF4 then ([], some ⟨3, 0x80, 0x8F, 4⟩)
  else ([replacement], none)

/-- Reads bytes leniently, after an unfinished character if there is one. -/
def lenientFrom : Option Unfinished → Bytes → List Char
  | none, [] => []
  | some _, [] => [replacement]
  | none, b :: bs =>
    let (shown, state) := lead b.toNat
    shown ++ lenientFrom state bs
  | some p, b :: bs =>
    if p.lo ≤ b.toNat && b.toNat ≤ p.hi then
      let value := p.value * 64 + (b.toNat - 0x80)
      if p.missing == 1 then Char.ofNat value :: lenientFrom none bs
      else lenientFrom (some ⟨p.missing - 1, 0x80, 0xBF, value⟩) bs
    else
      let (shown, state) := lead b.toNat
      replacement :: shown ++ lenientFrom state bs

/-- The text that the bytes encode, with the replacement character for each ill-formed part. -/
def lenient (bytes : Bytes) : String :=
  String.ofList (lenientFrom none bytes)

end Utf8

end Scratchpad
