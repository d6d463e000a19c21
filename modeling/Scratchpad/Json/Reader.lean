import Scratchpad.Json.Number

/-!
# Reading documents

A document is read from the left, and the first fault on the way ends the reading. Lists and
objects may be nested only to a given depth. Loops over items and members are bounded by the
length of the text, since each round reads at least one character.
-/

namespace Scratchpad.Json

/-- The characters that may stand between the parts of a document. -/
def isGap (c : Char) : Bool :=
  c == ' ' || c == '\t' || c == '\n' || c == '\r'

def skipGap (cs : List Char) : List Char :=
  cs.dropWhile isGap

/-! ## Strings -/

def hexDigit? (c : Char) : Option Nat :=
  if c.isDigit then some (c.toNat - '0'.toNat)
  else if 'a' ≤ c && c ≤ 'f' then some (c.toNat - 'a'.toNat + 10)
  else if 'A' ≤ c && c ≤ 'F' then some (c.toNat - 'A'.toNat + 10)
  else none

/-- The character that a short escape stands for. -/
def shortEscape? (c : Char) : Option Char :=
  if c == '"' || c == '\\' || c == '/' then some c
  else if c == 'b' then some '\x08'
  else if c == 'f' then some '\x0c'
  else if c == 'n' then some '\n'
  else if c == 'r' then some '\r'
  else if c == 't' then some '\t'
  else none

/-- Whether a 16-bit unit is the first of a pair. -/
def isLeading (unit : Nat) : Bool :=
  0xD800 ≤ unit && unit ≤ 0xDBFF

/-- Whether a 16-bit unit is the second of a pair. -/
def isTrailing (unit : Nat) : Bool :=
  0xDC00 ≤ unit && unit ≤ 0xDFFF

/-- Where a reader stands inside a string. -/
inductive InString where
  /-- Before a character or the end of the string. -/
  | plain
  /-- After a backslash. -/
  | escape
  /-- Inside a numbered escape, possibly the second of a pair. -/
  | hex (leading : Option Nat) (missing value : Nat)
  /-- After the first escape of a pair. -/
  | pair (leading : Nat)
  /-- After the backslash of the second escape of a pair. -/
  | pairEscape (leading : Nat)

def consChar (c : Char) :
    Except TextFault (List Char × List Char) → Except TextFault (List Char × List Char)
  | .ok (cs, rest) => .ok (c :: cs, rest)
  | .error fault => .error fault

def byteCount (cs : List Char) : Nat :=
  cs.foldr (fun c count => c.utf8Size + count) 0

/-- Reads the characters of a string up to its closing quote. A numbered escape needs four bytes
after its mark before its digits are looked at. -/
def readChars : InString → List Char → Except TextFault (List Char × List Char)
  | _, [] => .error .endInString
  | .plain, c :: cs =>
    if c == '"' then .ok ([], cs)
    else if c == '\\' then readChars .escape cs
    else if c.toNat < 0x20 then .error .controlCharacter
    else consChar c (readChars .plain cs)
  | .escape, c :: cs =>
    if c == 'u' then readChars (.hex none 4 0) cs
    else
      match shortEscape? c with
      | some d => consChar d (readChars .plain cs)
      | none => .error .badEscape
  | .hex leading missing value, c :: cs =>
    match hexDigit? c with
    | none => .error (if missing ≤ byteCount (c :: cs) then .badEscape else .endInString)
    | some d =>
      let unit := 16 * value + d
      if missing != 1 then readChars (.hex leading (missing - 1) unit) cs
      else
        match leading with
        | some first =>
          if isTrailing unit then
            consChar (Char.ofNat (0x10000 + (first - 0xD800) * 0x400 + (unit - 0xDC00)))
              (readChars .plain cs)
          else .error .loneSurrogate
        | none =>
          if isTrailing unit then .error .loneSurrogate
          else if isLeading unit then readChars (.pair unit) cs
          else consChar (Char.ofNat unit) (readChars .plain cs)
  | .pair leading, c :: cs =>
    if c == '\\' then readChars (.pairEscape leading) cs else .error .cutSurrogate
  | .pairEscape leading, c :: cs =>
    if c == 'u' then readChars (.hex (some leading) 4 0) cs else .error .cutSurrogate

def readString (cs : List Char) : Except TextFault (String × List Char) :=
  (readChars .plain cs).map fun (text, rest) => (String.ofList text, rest)

/-! ## Literals -/

def readLiteral (value : Json) : List Char → List Char → Except TextFault (Json × List Char)
  | [], cs => .ok (value, cs)
  | _ :: _, [] => .error .endInValue
  | l :: ls, c :: cs => if l == c then readLiteral value ls cs else .error .badLiteral

/-! ## Lists and objects -/

/-- What stands after an opening, an item or a member. -/
inductive Follow where
  /-- The closing has been read, and this is the text after it. -/
  | closed (rest : List Char)
  /-- This text starts with another item or member. -/
  | more (rest : List Char)

def firstItem (cs : List Char) : Except TextFault Follow :=
  match skipGap cs with
  | [] => .error .endInList
  | ']' :: rest => .ok (.closed rest)
  | rest => .ok (.more rest)

def nextItem (cs : List Char) : Except TextFault Follow :=
  match skipGap cs with
  | [] => .error .endInList
  | ']' :: rest => .ok (.closed rest)
  | ',' :: rest =>
    match skipGap rest with
    | [] => .error .endInValue
    | ']' :: _ => .error .trailingComma
    | rest => .ok (.more rest)
  | _ => .error .noListComma

/-- Reads the items of a list, at most as many as the bound says. -/
def readItems (item : List Char → Except TextFault (Json × List Char)) :
    Nat → Follow → Except TextFault (List Json × List Char)
  | _, .closed rest => .ok ([], rest)
  | 0, .more _ => .error .endInList
  | bound + 1, .more cs => do
    let (value, cs) ← item cs
    let follow ← nextItem cs
    let (values, rest) ← readItems item bound follow
    .ok (value :: values, rest)

/-- What stands after the opening of an object. A member starts with the quote of its key. -/
def firstMember (cs : List Char) : Except TextFault Follow :=
  match skipGap cs with
  | [] => .error .endInObject
  | '}' :: rest => .ok (.closed rest)
  | '"' :: rest => .ok (.more rest)
  | _ => .error .keyNotString

def nextMember (cs : List Char) : Except TextFault Follow :=
  match skipGap cs with
  | [] => .error .endInObject
  | '}' :: rest => .ok (.closed rest)
  | ',' :: rest =>
    match skipGap rest with
    | [] => .error .endInValue
    | '}' :: _ => .error .trailingComma
    | '"' :: rest => .ok (.more rest)
    | _ => .error .keyNotString
  | _ => .error .noObjectComma

def skipColon (cs : List Char) : Except TextFault (List Char) :=
  match skipGap cs with
  | [] => .error .endInObject
  | ':' :: rest => .ok rest
  | _ => .error .noColon

/-- Goes through the members of an object, at most as many as the bound says, with a step that is
given the key and the text after it. The step may fail in ways of its own, among which `malformed`
finds the place of a fault of the text. -/
def foldMembers {σ ε : Type} (malformed : TextFault → ε)
    (step : σ → String → List Char → Except ε (σ × List Char)) :
    Nat → σ → Follow → Except ε (σ × List Char)
  | _, state, .closed rest => .ok (state, rest)
  | 0, _, .more _ => .error (malformed .endInObject)
  | bound + 1, state, .more cs => do
    let (key, cs) ← (readString cs).mapError malformed
    let (state, cs) ← step state key cs
    let follow ← (nextMember cs).mapError malformed
    foldMembers malformed step bound state follow

/-! ## Values -/

/-- Reads a value, leaving the two kinds of nested values to the given readers. -/
def readWith (list object : List Char → Except TextFault (Json × List Char)) (cs : List Char) :
    Except TextFault (Json × List Char) :=
  match skipGap cs with
  | [] => .error .endInValue
  | c :: rest =>
    if c == 'n' then readLiteral .null "ull".toList rest
    else if c == 't' then readLiteral (.bool true) "rue".toList rest
    else if c == 'f' then readLiteral (.bool false) "alse".toList rest
    else if c == '-' then (Number.readUnsigned true rest).map fun (n, rest) => (.number n, rest)
    else if c.isDigit then
      (Number.readUnsigned false (c :: rest)).map fun (n, rest) => (.number n, rest)
    else if c == '"' then (readString rest).map fun (s, rest) => (.string s, rest)
    else if c == '[' then list rest
    else if c == '{' then object rest
    else .error .noValue

/-- Reads a value in which lists and objects are nested at most as deep as the number says. -/
def readValue : Nat → List Char → Except TextFault (Json × List Char)
  | 0 => readWith (fun _ => .error .tooDeep) (fun _ => .error .tooDeep)
  | depth + 1 =>
    readWith
      (fun cs => do
        let follow ← firstItem cs
        let (values, rest) ← readItems (readValue depth) (cs.length + 1) follow
        .ok (.array values, rest))
      (fun cs => do
        let follow ← firstMember cs
        let (members, rest) ←
          foldMembers id
            (fun members key cs => do
              let cs ← skipColon cs
              let (value, rest) ← readValue depth cs
              .ok (members ++ [(key, value)], rest))
            (cs.length + 1) [] follow
        .ok (.object members, rest))

/-- Refuses a text that has more than a gap left. -/
def expectEnd (cs : List Char) : Except TextFault Unit :=
  match skipGap cs with
  | [] => .ok ()
  | _ => .error .trailingCharacters

end Scratchpad.Json
