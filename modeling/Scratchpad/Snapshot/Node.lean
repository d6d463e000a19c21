import Scratchpad.Snapshot.Fault
import Scratchpad.Value

/-!
# Values in a snapshot

A value is written as a node: an object with the tag `kind` and the fields of that kind in any
order, or a list of the tag and the fields in their own order. The tag is looked at before the
fields, fields are read in the order of the text, and a field that is missing is found out last.
Fields that a kind does not have are passed over.
-/

namespace Scratchpad.Snapshot

inductive Kind where
  | null
  | sequence
  | text
  | composite
  | primitive
  deriving DecidableEq, Repr

inductive Slot where
  | type
  | items
  | value
  | display
  | members
  | text
  deriving DecidableEq, Repr

def Slot.name : Slot → String
  | .type => "type"
  | .items => "items"
  | .value => "value"
  | .display => "display"
  | .members => "members"
  | .text => "text"

namespace Kind

/-- All kinds, in the order that numbers them. -/
def all : List Kind :=
  [.null, .sequence, .text, .composite, .primitive]

def tag : Kind → String
  | .null => "null"
  | .sequence => "sequence"
  | .text => "text"
  | .composite => "composite"
  | .primitive => "primitive"

/-- The fields of a kind, in their own order. -/
def slots : Kind → List Slot
  | .null => []
  | .sequence => [.type, .items]
  | .text => [.value]
  | .composite => [.type, .display, .members]
  | .primitive => [.type, .text]

/-- How many fields a list has to give. Only the members may be left out. -/
def required : Kind → Nat
  | .null => 0
  | .sequence => 2
  | .text => 1
  | .composite => 2
  | .primitive => 2

/-- How a kind is called in a fault. -/
def shape : Kind → String
  | .null => "unit variant Node::Null"
  | .sequence => "struct variant Node::Sequence"
  | .text => "struct variant Node::Text"
  | .composite => "struct variant Node::Composite"
  | .primitive => "struct variant Node::Primitive"

def slot? (kind : Kind) (name : String) : Option Slot :=
  kind.slots.find? (·.name == name)

/-- The kind that a tag names, as a text or as a number. -/
def ofJson : Json → Except Fault Kind
  | .string s =>
    match all.find? (·.tag == s) with
    | some kind => .ok kind
    | none => .error (.unknownTag s (all.map tag))
  | .number (.natural n) =>
    match all[n]? with
    | some kind => .ok kind
    | none => .error (.unknownIndex n all.length)
  | other => .error (.unexpected (.ofJson other) "variant identifier")

/-- The kind that the tag among the members of an object names, given the one found so far. -/
def amongMembers : List (String × Json) → Option Kind → Except Fault Kind
  | [], some kind => .ok kind
  | [], none => .error (.missingField "kind")
  | (name, value) :: members, found =>
    if name = "kind" then
      match found with
      | some _ => .error (.duplicateField "kind")
      | none =>
        match ofJson value with
        | .ok kind => amongMembers members (some kind)
        | .error fault => .error fault
    else amongMembers members found

end Kind

/-- The fields of a node that have been read. -/
structure Fields where
  type : Option String := none
  value : Option String := none
  display : Option String := none
  text : Option String := none
  items : Option (List Value) := none
  members : Option (List (String × Value)) := none

namespace Fields

def has (fields : Fields) : Slot → Bool
  | .type => fields.type.isSome
  | .items => fields.items.isSome
  | .value => fields.value.isSome
  | .display => fields.display.isSome
  | .members => fields.members.isSome
  | .text => fields.text.isSome

/-- Notes the text of a field. The items and the members are no texts. -/
def putText (fields : Fields) (slot : Slot) (s : String) : Fields :=
  match slot with
  | .type => { fields with type := some s }
  | .value => { fields with value := some s }
  | .display => { fields with display := some s }
  | .text => { fields with text := some s }
  | .items | .members => fields

def need {α : Type} (slot : Slot) : Option α → Except Fault α
  | some a => .ok a
  | none => .error (.missingField slot.name)

/-- The value that the fields of a node of some kind describe. -/
def assemble (fields : Fields) : Kind → Except Fault Value
  | .null => .ok .null
  | .sequence => do
    let type ← need .type fields.type
    let items ← need .items fields.items
    .ok (.sequence type items)
  | .text => do
    let value ← need .value fields.value
    .ok (.text value)
  | .composite => do
    let type ← need .type fields.type
    let display ← need .display fields.display
    .ok (.composite type display (fields.members.getD []))
  | .primitive => do
    let type ← need .type fields.type
    let text ← need .text fields.text
    .ok (.primitive type text)

end Fields

def readText : Json → Except Fault String
  | .string s => .ok s
  | other => .error (.unexpected (.ofJson other) "a string")

/-- Refuses a list of fields that is too short or too long for a kind. -/
def checkLength (kind : Kind) (length : Nat) : Except Fault Unit :=
  if length < kind.required then .error (.tooShort length kind.shape kind.slots.length)
  else if kind.slots.length < length then .error (.tooLong length kind.slots.length)
  else .ok ()

def memberShape : String := "struct MemberNode"

/-- The member that a name and a value make up, both of which must be there. -/
def assembleMember (name : Option String) (value : Option Value) :
    Except Fault (String × Value) :=
  match name, value with
  | some name, some value => .ok (name, value)
  | none, _ => .error (.missingField "name")
  | _, none => .error (.missingField "value")

mutual

/-- The value that a node describes. -/
def readNode : Json → Except Fault Value
  | .object members => do
    let kind ← Kind.amongMembers members none
    let fields ← readNamed kind members {}
    fields.assemble kind
  | .array [] => .error (.missingField "kind")
  | .array (tag :: rest) => do
    let kind ← Kind.ofJson tag
    let fields ← readPlaced kind.slots rest {}
    checkLength kind rest.length
    fields.assemble kind
  | other => .error (.unexpected (.ofJson other) "internally tagged enum Node")

/-- Reads the fields of a kind among the members of an object. -/
def readNamed (kind : Kind) : List (String × Json) → Fields → Except Fault Fields
  | [], fields => .ok fields
  | (name, value) :: members, fields =>
    match kind.slot? name with
    | none => readNamed kind members fields
    | some slot =>
      if fields.has slot then .error (.duplicateField name)
      else do
        let fields ← readSlot slot value fields
        readNamed kind members fields

/-- Reads fields from the elements of a list, as far as both go. -/
def readPlaced : List Slot → List Json → Fields → Except Fault Fields
  | slot :: slots, value :: values, fields => do
    let fields ← readSlot slot value fields
    readPlaced slots values fields
  | _, _, fields => .ok fields

def readSlot : Slot → Json → Fields → Except Fault Fields
  | .items, .array items, fields => do
    let values ← readNodeList items
    .ok { fields with items := some values }
  | .members, .array items, fields => do
    let members ← readMemberList items
    .ok { fields with members := some members }
  | .items, other, _ => .error (.unexpected (.ofJson other) "a sequence")
  | .members, other, _ => .error (.unexpected (.ofJson other) "a sequence")
  | slot, value, fields => do
    let s ← readText value
    .ok (fields.putText slot s)

def readNodeList : List Json → Except Fault (List Value)
  | [] => .ok []
  | item :: items => do
    let value ← readNode item
    let values ← readNodeList items
    .ok (value :: values)

def readMemberList : List Json → Except Fault (List (String × Value))
  | [] => .ok []
  | item :: items => do
    let member ← readMember item
    let members ← readMemberList items
    .ok (member :: members)

/-- A member: an object with a name and a value, or a list of both. -/
def readMember : Json → Except Fault (String × Value)
  | .object members => readMemberFields members none none
  | .array [] => .error (.tooShort 0 memberShape 2)
  | .array [name] => do
    let _ ← readText name
    .error (.tooShort 1 memberShape 2)
  | .array (name :: value :: rest) => do
    let name ← readText name
    let value ← readNode value
    if rest.isEmpty then .ok (name, value) else .error (.tooLong (rest.length + 2) 2)
  | other => .error (.unexpected (.ofJson other) memberShape)

/-- Reads the name and the value of a member, given what has been read so far. -/
def readMemberFields : List (String × Json) → Option String → Option Value →
    Except Fault (String × Value)
  | [], name, value => assembleMember name value
  | (key, json) :: members, name, value =>
    if key = "name" then
      match name with
      | some _ => .error (.duplicateField "name")
      | none => do
        let s ← readText json
        readMemberFields members (some s) value
    else if key = "value" then
      match value with
      | some _ => .error (.duplicateField "value")
      | none => do
        let v ← readNode json
        readMemberFields members name (some v)
    else readMemberFields members name value

end

end Scratchpad.Snapshot
