/-!
# Identifiers

Generated classes and functions are named after random identifiers of version 4: 32 hexadecimal
digits, of which one gives the version and one the variant.
-/

namespace Scratchpad.Identifier

/-- The last digits of a number in base 16, as many as the count says. -/
def hexDigits (count n : Nat) : List Char :=
  (List.range count).reverse.map fun i => Nat.digitChar (n >>> (4 * i) % 16)

/-- How many numbers make up different identifiers. -/
def count : Nat := 1 <<< 122

/-- The identifier that 122 bits make up. -/
def ofBits (bits : Nat) : String :=
  String.ofList
    (hexDigits 12 (bits >>> 74) ++ ['4'] ++ hexDigits 3 (bits >>> 62) ++
      [Nat.digitChar (8 + bits >>> 60 % 4)] ++ hexDigits 15 bits)

/-- Whether a character is a digit in base 16, in lower case. -/
def isHex (c : Char) : Bool :=
  c.isDigit || ('a' ≤ c && c ≤ 'f')

def isWellFormed (s : String) : Bool :=
  s.length == 32 && s.toList.all isHex && s.toList[12]? == some '4' &&
    (s.toList[16]?.any fun c => c == '8' || c == '9' || c == 'a' || c == 'b')

end Scratchpad.Identifier
