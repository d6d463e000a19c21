import Scratchpad.Text.Quoted
import Scratchpad.Value

/-!
# Inspecting values

The structure of a value written out with constructor and field names, on one line or spread over
several. The members of an object are left out.
-/

namespace Scratchpad.Value

/-- The fields between the braces of a constructor. -/
def braced (name : String) (fields : List String) : String :=
  name ++ " \x7b " ++ ", ".intercalate fields ++ " \x7d"

mutual

/-- The structure of a value on one line. -/
def inspect : Value → String
  | .null => "Null"
  | .sequence typeName items =>
    braced "Sequence"
      ["type_name: " ++ Text.quote typeName,
        "items: [" ++ ", ".intercalate (inspectItems items) ++ "]"]
  | .text content => "Text(" ++ Text.quote content ++ ")"
  | .composite typeName _ _ => braced "Composite" ["type_name: " ++ Text.quote typeName, ".."]
  | .primitive typeName shown =>
    braced "Primitive" ["type_name: " ++ Text.quote typeName, "text: " ++ Text.quote shown]

def inspectItems : List Value → List String
  | [] => []
  | item :: items => inspect item :: inspectItems items

end

/-- A block: an opening, the parts on lines of their own one level deeper, and a closing. -/
def block (margin opening : String) (parts : List String) (closing : String) : String :=
  opening ++ "\n" ++ String.join (parts.map fun part => margin ++ "    " ++ part ++ "\n") ++
    margin ++ closing

mutual

/-- The structure of a value over several lines, those after the first behind a margin. -/
def outline (margin : String) : Value → String
  | .null => "Null"
  | .sequence typeName items =>
    block margin "Sequence \x7b"
      ["type_name: " ++ Text.quote typeName ++ ",",
        "items: " ++ outlineList (margin ++ "    ") items ++ ","] "\x7d"
  | .text content => block margin "Text(" [Text.quote content ++ ","] ")"
  | .composite typeName _ _ =>
    block margin "Composite \x7b" ["type_name: " ++ Text.quote typeName ++ ",", ".."] "\x7d"
  | .primitive typeName shown =>
    block margin "Primitive \x7b"
      ["type_name: " ++ Text.quote typeName ++ ",", "text: " ++ Text.quote shown ++ ","] "\x7d"

/-- The items of a sequence as a list over several lines, or on one if there are none. -/
def outlineList (margin : String) : List Value → String
  | [] => "[]"
  | item :: items =>
    block margin "["
      ((outline (margin ++ "    ") item ++ ",") :: outlineItems (margin ++ "    ") items) "]"

def outlineItems (margin : String) : List Value → List String
  | [] => []
  | item :: items => (outline margin item ++ ",") :: outlineItems margin items

end

end Scratchpad.Value
