import Scratchpad.Proofs.Snapshot.RoundTrip
import Scratchpad.Proofs.Snapshot.Tree

/-!
# Places in a snapshot

What a value in a snapshot has to be depends on where it stands. `Place` lists the places, `Place.read?`
says what is found in a value at each of them, and `Place.under` and `Place.at` give the places of the
members of an object and of the elements of a list. What stands at the place `ignored` does not count.

The readers of objects go through the members in order. Here each of them is a fold whose steps may be
swapped (`fieldStep_swap`, `soleStep_swap`), which is why the order of the members does not matter.
-/

namespace Scratchpad.Snapshot

/-- The places where values stand in a snapshot. -/
inductive Place where
  | outcome
  | status
  | node
  | kind
  | nodes
  | member
  | members
  | text
  | ignored
  deriving DecidableEq

/-- What may be found at a place. -/
def Place.Found : Place → Type
  | .outcome => Outcome
  | .status => Status
  | .node => Value
  | .kind => Kind
  | .nodes => List Value
  | .member => String × Value
  | .members => List (String × Value)
  | .text => String
  | .ignored => Unit

/-- What is found in a value at a place. -/
def Place.read? : (place : Place) → Json → Option place.Found
  | .outcome, json => (Outcome.ofJson json).toOption
  | .status, json => (Status.ofJson json).toOption
  | .node, json => (readNode json).toOption
  | .kind, json => (Kind.ofJson json).toOption
  | .nodes, .array items => (readNodeList items).toOption
  | .nodes, _ => none
  | .member, json => (readMember json).toOption
  | .members, .array items => (readMemberList items).toOption
  | .members, _ => none
  | .text, json => (readText json).toOption
  | .ignored, _ => some ()

def Slot.place : Slot → Place
  | .items => .nodes
  | .members => .members
  | .type | .value | .display | .text => .text

/-- The name of the one field of an outcome. -/
def Status.field : Status → String
  | .ok => "value"
  | .fault => "cause"

def Status.place : Status → Place
  | .ok => .node
  | .fault => .text

def statusOf (members : List (String × Json)) : Option Status :=
  (members.lookup "status").bind fun tag => (Status.ofJson tag).toOption

def kindOf (members : List (String × Json)) : Option Kind :=
  (members.lookup "kind").bind fun tag => (Kind.ofJson tag).toOption

/-- The place of the value under a key, in an object that stands at some place. -/
def Place.under (place : Place) (members : List (String × Json)) (key : String) : Place :=
  match place with
  | .outcome =>
    if key = "status" then .status
    else
      match statusOf members with
      | some found => if key = found.field then found.place else .ignored
      | none => .ignored
  | .node =>
    if key = "kind" then .kind
    else
      match (kindOf members).bind (·.slot? key) with
      | some slot => slot.place
      | none => .ignored
  | .member => if key = "name" then .text else if key = "value" then .node else .ignored
  | _ => .ignored

/-- The place of an element, in a list that stands at some place. -/
def Place.at (place : Place) (items : List Json) (index : Nat) : Place :=
  match place, index with
  | .outcome, 0 => .status
  | .outcome, 1 =>
    match items.head?.bind fun tag => (Status.ofJson tag).toOption with
    | some found => found.place
    | none => .ignored
  | .node, 0 => .kind
  | .node, index + 1 =>
    match (items.head?.bind fun tag => (Kind.ofJson tag).toOption).bind (·.slots[index]?) with
    | some slot => slot.place
    | none => .ignored
  | .member, 0 => .text
  | .member, 1 => .node
  | .nodes, _ => .node
  | .members, _ => .member
  | _, _ => .ignored

/-! ## One field among the members -/

theorem soleStep_swap {α : Type} (name : String) (read : Json → Except Fault α) (found : Option α)
    (first second : String × Json) :
    (soleStep name read found first).bind (soleStep name read · second) =
      (soleStep name read found second).bind (soleStep name read · first) := by
  unfold soleStep
  by_cases hfirst : first.1 = name
  · by_cases hsecond : second.1 = name
    · cases found with
      | some a => simp [hfirst, hsecond]
      | none =>
        cases (read first.2).toOption <;> cases (read second.2).toOption <;> simp [hfirst, hsecond]
    · simp [hfirst, hsecond]
  · simp [hfirst]

theorem readSole_some {α : Type} {name : String} {read : Json → Except Fault α}
    {members : List (String × Json)} {a b : α} (h : readSole name read members (some a) = .ok b) :
    a = b := by
  induction members with
  | nil => simpa [readSole] using h
  | cons member members ih =>
    obtain ⟨key, json⟩ := member
    by_cases hkey : key = name
    · simp [readSole, hkey] at h
    · exact ih (by simpa [readSole, hkey] using h)

theorem lookup_of_readSole {α : Type} {name : String} {read : Json → Except Fault α}
    {members : List (String × Json)} {a : α} (h : readSole name read members none = .ok a) :
    (members.lookup name).bind (fun json => (read json).toOption) = some a := by
  induction members with
  | nil => cases h
  | cons member members ih =>
    obtain ⟨key, json⟩ := member
    by_cases hkey : key = name
    · subst hkey
      rcases hread : read json with fault | b
      · simp [readSole, hread] at h
      · have hb : b = a := readSole_some (by simpa [readSole, hread] using h)
        simp [hread, hb]
    · have hlookup := ih (by simpa [readSole, hkey] using h)
      rwa [List.lookup_cons, beq_false_of_ne (Ne.symm hkey)]

theorem amongMembers_eq_readSole (members : List (String × Json)) (found : Option Kind) :
    Kind.amongMembers members found = readSole "kind" Kind.ofJson members found := by
  fun_induction Kind.amongMembers members found with
  | case1 kind => rfl
  | case2 => rfl
  | case3 => simp [readSole]
  | case4 => simp_all [readSole]
  | case5 => simp_all [readSole]
  | case6 => simp_all [readSole]

theorem statusOf_of_readSole {members : List (String × Json)} {status : Status}
    (h : readSole "status" Status.ofJson members none = .ok status) :
    statusOf members = some status :=
  lookup_of_readSole h

theorem kindOf_of_readSole {members : List (String × Json)} {kind : Kind}
    (h : readSole "kind" Kind.ofJson members none = .ok kind) : kindOf members = some kind :=
  lookup_of_readSole h

theorem readMemberFields_toOption (members : List (String × Json)) (name : Option String)
    (value : Option Value) :
    (readMemberFields members name value).toOption =
      (readSole "name" readText members name).toOption.bind fun s =>
        (readSole "value" readNode members value).toOption.map fun v => (s, v) := by
  induction members generalizing name value with
  | nil => cases name <;> cases value <;> rfl
  | cons member members ih =>
    obtain ⟨key, json⟩ := member
    by_cases hname : key = "name"
    · cases name with
      | some s => simp [readMemberFields, readSole, hname]
      | none =>
        rcases hread : readText json with fault | s <;>
          simp [readMemberFields, readSole, hname, hread, ih]
    by_cases hvalue : key = "value"
    · cases value with
      | some v => simp [readMemberFields, readSole, hvalue]
      | none =>
        rcases hread : readNode json with fault | v <;>
          simp [readMemberFields, readSole, hvalue, hread, ih]
    · simp [readMemberFields, readSole, hname, hvalue, ih]

/-! ## The fields of a node -/

def Fields.put (fields : Fields) : (slot : Slot) → slot.place.Found → Fields
  | .type, s => { fields with type := some s }
  | .items, items => { fields with items := some items }
  | .value, s => { fields with value := some s }
  | .display, s => { fields with display := some s }
  | .members, members => { fields with members := some members }
  | .text, s => { fields with text := some s }

@[simp] theorem Fields.has_put (fields : Fields) (slot : Slot) (found : slot.place.Found) :
    (fields.put slot found).has slot = true := by
  cases slot <;> rfl

theorem Fields.has_put_of_ne (fields : Fields) {slot other : Slot} (found : slot.place.Found)
    (hne : other ≠ slot) : (fields.put slot found).has other = fields.has other := by
  cases slot <;> cases other <;> first | rfl | exact absurd rfl hne

theorem Fields.put_put (fields : Fields) {slot other : Slot} (found : slot.place.Found)
    (more : other.place.Found) (hne : other ≠ slot) :
    (fields.put slot found).put other more = (fields.put other more).put slot found := by
  cases slot <;> cases other <;> first | rfl | exact absurd rfl hne

theorem readSlot_text {slot : Slot} (hslot : slot ≠ .items ∧ slot ≠ .members) (json : Json)
    (fields : Fields) :
    readSlot slot json fields = (readText json).map (fields.putText slot) := by
  rw [readSlot]
  · cases readText json <;> rfl
  all_goals simp_all

theorem readSlot_toOption (slot : Slot) (json : Json) (fields : Fields) :
    (readSlot slot json fields).toOption = (slot.place.read? json).map (fields.put slot) := by
  cases slot with
  | items =>
    cases json with
    | array items =>
      rw [readSlot]
      change _ = (readNodeList items).toOption.map (fields.put .items)
      cases readNodeList items <;> rfl
    | _ =>
      rw [readSlot]
      · rfl
      all_goals simp
  | members =>
    cases json with
    | array items =>
      rw [readSlot]
      change _ = (readMemberList items).toOption.map (fields.put .members)
      cases readMemberList items <;> rfl
    | _ =>
      rw [readSlot]
      · rfl
      all_goals simp
  | _ => rw [readSlot_text (by decide)]; exact toOption_map _ _

/-- Reads a field and notes its content, if there is none yet. -/
def Fields.take (fields : Fields) (slot : Slot) (json : Json) : Option Fields :=
  if fields.has slot then none else (slot.place.read? json).map (fields.put slot)

theorem Fields.take_take_self (fields : Fields) (slot : Slot) (json json' : Json) :
    ((fields.take slot json).bind fun fields => fields.take slot json') = none := by
  unfold Fields.take
  split_ifs with hhas
  · rfl
  · cases hread : slot.place.read? json <;> simp

theorem Fields.take_take_of_ne (fields : Fields) {slot other : Slot} (hne : other ≠ slot)
    (json json' : Json) :
    ((fields.take slot json).bind fun fields => fields.take other json') =
      (fields.take other json').bind fun fields => fields.take slot json := by
  unfold Fields.take
  cases hread : slot.place.read? json with
  | none => cases other.place.read? json' <;> simp
  | some found =>
    cases hread' : other.place.read? json' with
    | none => simp
    | some more =>
      by_cases hhas : fields.has slot
      · by_cases hother : fields.has other
        · simp [hhas, hother]
        · simp [hhas, hother, fields.has_put_of_ne more (Ne.symm hne)]
      · by_cases hother : fields.has other
        · simp [hhas, hother, fields.has_put_of_ne found hne]
        · simp [hhas, hother, fields.has_put_of_ne found hne, fields.has_put_of_ne more (Ne.symm hne),
            fields.put_put found more hne]

/-- One more member of a node: a field may come once, and what is no field is passed over. -/
def fieldStep (kind : Kind) (fields : Fields) (member : String × Json) : Option Fields :=
  match kind.slot? member.1 with
  | none => some fields
  | some slot => fields.take slot member.2

theorem readNamed_toOption (kind : Kind) (members : List (String × Json)) (fields : Fields) :
    (readNamed kind members fields).toOption = members.foldlM (fieldStep kind) fields := by
  induction members generalizing fields with
  | nil => rw [readNamed]; rfl
  | cons member members ih =>
    obtain ⟨key, json⟩ := member
    rw [readNamed, List.foldlM_cons, fieldStep]
    cases kind.slot? key with
    | none => exact ih fields
    | some slot =>
      by_cases hhas : fields.has slot
      · simp [hhas, Fields.take]
      · simp [hhas, Fields.take, readSlot_toOption, ih]

theorem fieldStep_swap (kind : Kind) (fields : Fields) (first second : String × Json) :
    (fieldStep kind fields first).bind (fieldStep kind · second) =
      (fieldStep kind fields second).bind (fieldStep kind · first) := by
  unfold fieldStep
  cases kind.slot? first.1 with
  | none => simp
  | some slot =>
    cases kind.slot? second.1 with
    | none => simp
    | some other =>
      by_cases hsame : other = slot
      · rw [hsame]
        exact (fields.take_take_self ..).trans (fields.take_take_self ..).symm
      · exact fields.take_take_of_ne hsame first.2 second.2

end Scratchpad.Snapshot
