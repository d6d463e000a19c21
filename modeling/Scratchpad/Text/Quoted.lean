import Scratchpad.Text.Printable

/-!
# Quoted texts

How a text is shown between quotes, so that every character of it can be told: the usual short
escapes, printable characters as they are, and the number of any other character in braces.
-/

namespace Scratchpad.Text

def escapeChar (c : Char) : String :=
  if c.toNat == 0 then "\\0"
  else if c == '\t' then "\\t"
  else if c == '\r' then "\\r"
  else if c == '\n' then "\\n"
  else if c == '"' then "\\\""
  else if c == '\\' then "\\\\"
  else if isPrintable c then String.singleton c
  else "\\u\x7b" ++ String.ofList (Nat.toDigits 16 c.toNat) ++ "\x7d"

/-- The text between double quotes, with its special characters escaped. -/
def quote (s : String) : String :=
  "\"" ++ String.join (s.toList.map escapeChar) ++ "\""

end Scratchpad.Text
