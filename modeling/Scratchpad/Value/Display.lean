import Scratchpad.Value

/-!
# Showing values

The text a value is shown as. At the top an object always shows its members; further down it shows
its own text instead, if it has one. How far down is counted in 64 bits.
-/

namespace Scratchpad.Value

mutual

/-- The text of a value that stands at a level below the value shown. The level after the last one is
the top again. -/
def format : Value → UInt64 → String
  | .null, _ => "null"
  | .sequence _ items, level => "[" ++ ", ".intercalate (formatItems items (level + 1)) ++ "]"
  | .text content, _ => "\"" ++ content ++ "\""
  | .composite typeName display members, level =>
    if display = typeName ∨ level = 0 then
      typeName ++ "(" ++ ", ".intercalate (formatMembers members (level + 1)) ++ ")"
    else typeName ++ "(" ++ display ++ ")"
  | .primitive _ shown, _ => shown

def formatItems : List Value → UInt64 → List String
  | [], _ => []
  | item :: items, level => format item level :: formatItems items level

def formatMembers : List (String × Value) → UInt64 → List String
  | [], _ => []
  | (name, value) :: members, level =>
    (name ++ "=" ++ format value level) :: formatMembers members level

end

/-- The lines that show a result: the name of its type if that is asked for and there is one, then
the value. -/
def resultLines (typeInfo : Bool) (value : Value) : List String :=
  match value.typeName? with
  | none => ["null"]
  | some typeName => (if typeInfo then [typeName] else []) ++ [value.format 0]

end Scratchpad.Value
