import Scratchpad.Json.Reader
import Scratchpad.Text.Quoted
import Scratchpad.Text.Shortest

/-!
# What can be wrong with a snapshot

A snapshot is a document of a certain shape. It fails to be one if its text is no document, or if
a field, a tag or a length is not as the shape asks for.
-/

namespace Scratchpad.Snapshot

/-- What stood in a place, as far as a fault tells. -/
inductive Found where
  | null
  | bool (b : Bool)
  | whole (i : Int)
  | real (f : Float)
  | text (s : String)
  | list
  | object

def Found.ofJson : Json → Found
  | .null => .null
  | .bool b => .bool b
  | .number (.natural n) => .whole n
  | .number (.negative n) => .whole (-(n : Int))
  | .number (.real f) => .real f
  | .string s => .text s
  | .array _ => .list
  | .object _ => .object

def Found.describe : Found → String
  | .null => "null"
  | .bool b => "boolean `" ++ (if b then "true" else "false") ++ "`"
  | .whole i => "integer `" ++ toString i ++ "`"
  | .real f => "floating point `" ++ Decimal.ofFloat f ++ "`"
  | .text s => "string " ++ Text.quote s
  | .list => "sequence"
  | .object => "map"

/-- Why a text is no snapshot. -/
inductive Fault where
  /-- The text is no document. -/
  | malformed (fault : Json.TextFault)
  | missingField (name : String)
  | duplicateField (name : String)
  /-- A tag is none of the known ones. -/
  | unknownTag (tag : String) (known : List String)
  /-- A numbered tag is not below the number of known ones. -/
  | unknownIndex (index count : Nat)
  | unexpected (found : Found) (wanted : String)
  /-- A list ends before the elements that a shape asks for. -/
  | tooShort (length : Nat) (shape : String) (count : Nat)
  /-- A list goes on after the elements that a shape asks for. -/
  | tooLong (length count : Nat)

def elements (count : Nat) : String :=
  if count = 1 then "1 element" else toString count ++ " elements"

/-- A name between backquotes. -/
def ticked (name : String) : String :=
  "`" ++ name ++ "`"

def choice : List String → String
  | [first, second] => ticked first ++ " or " ++ ticked second
  | names => "one of " ++ ", ".intercalate (names.map ticked)

def Fault.message : Fault → String
  | .malformed fault => fault.message
  | .missingField name => "missing field " ++ ticked name
  | .duplicateField name => "duplicate field " ++ ticked name
  | .unknownTag tag known => "unknown variant " ++ ticked tag ++ ", expected " ++ choice known
  | .unknownIndex index count =>
    s!"invalid value: integer `{index}`, expected variant index 0 <= i < {count}"
  | .unexpected found wanted => "invalid type: " ++ found.describe ++ ", expected " ++ wanted
  | .tooShort length shape count =>
    s!"invalid length {length}, expected {shape} with " ++ elements count
  | .tooLong length count => s!"invalid length {length}, expected " ++ elements count ++ " in sequence"

end Scratchpad.Snapshot
