import Scratchpad.Value

/-!
# Writing a snapshot

The document that tells how a run ended. The members of an object are written only where they are
shown: at the top, or when the object has no text of its own.
-/

namespace Scratchpad.Snapshot

/-- The last four hexadecimal digits of a number. -/
def hex4 (n : Nat) : List Char :=
  [n / 4096 % 16, n / 256 % 16, n / 16 % 16, n % 16].map Nat.digitChar

def encodeChar (c : Char) : List Char :=
  if c == '"' then ['\\', '"']
  else if c == '\\' then ['\\', '\\']
  else if c.toNat < 0x20 then '\\' :: 'u' :: hex4 c.toNat
  else [c]

def encodeText (s : String) : String :=
  String.ofList ('"' :: s.toList.flatMap encodeChar ++ ['"'])

mutual

/-- The node of a value that stands at a level below the value returned. -/
def encodeNode : Value → Nat → String
  | .null, _ => "\x7b\"kind\":\"null\"\x7d"
  | .sequence typeName items, level =>
    "\x7b\"kind\":\"sequence\",\"type\":" ++ encodeText typeName ++ ",\"items\":[" ++
      ",".intercalate (encodeItems items (level + 1)) ++ "]\x7d"
  | .text content, _ => "\x7b\"kind\":\"text\",\"value\":" ++ encodeText content ++ "\x7d"
  | .composite typeName display members, level =>
    "\x7b\"kind\":\"composite\",\"type\":" ++ encodeText typeName ++ ",\"display\":" ++
      encodeText display ++ ",\"members\":[" ++
      (if display = typeName ∨ level = 0 then
        ",".intercalate (encodeMembers members (level + 1)) else "") ++ "]\x7d"
  | .primitive typeName text, _ =>
    "\x7b\"kind\":\"primitive\",\"type\":" ++ encodeText typeName ++ ",\"text\":" ++
      encodeText text ++ "\x7d"

def encodeItems : List Value → Nat → List String
  | [], _ => []
  | item :: items, level => encodeNode item level :: encodeItems items level

def encodeMembers : List (String × Value) → Nat → List String
  | [], _ => []
  | (name, value) :: members, level =>
    ("\x7b\"name\":" ++ encodeText name ++ ",\"value\":" ++ encodeNode value level ++ "\x7d") ::
      encodeMembers members level

end

/-- The document for a run that returned a value. -/
def encodeReturned (value : Value) : String :=
  "\x7b\"status\":\"ok\",\"value\":" ++ encodeNode value 0 ++ "\x7d"

def encodeThrown (cause : String) : String :=
  "\x7b\"status\":\"fault\",\"cause\":" ++ encodeText cause ++ "\x7d"

end Scratchpad.Snapshot
