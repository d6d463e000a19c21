/-!
# Values

What a snippet returns: nothing, a sequence, a text, an object with members, or a simple value
that is known by its text.
-/

namespace Scratchpad

/-- A value returned by a snippet. -/
inductive Value where
  | null
  | sequence (typeName : String) (items : List Value)
  | text (content : String)
  /-- An object: its type, its own text, which is the name of the type if it has no other, and its
  members. -/
  | composite (typeName display : String) (members : List (String × Value))
  | primitive (typeName text : String)
  deriving Inhabited, Repr

namespace Value

def int (n : Int) : Value :=
  .primitive "System.Int32" (toString n)

def boolean (b : Bool) : Value :=
  .primitive "System.Boolean" (if b then "True" else "False")

def isNull : Value → Bool
  | .null => true
  | _ => false

/-- The name of the type of a value, which null does not have. -/
def typeName? : Value → Option String
  | .null => none
  | .sequence typeName _ | .composite typeName _ _ | .primitive typeName _ => some typeName
  | .text _ => some "System.String"

end Value

end Scratchpad
