import Scratchpad.Proofs.Json.Nesting
import Scratchpad.Proofs.Value.Pruned
import Scratchpad.Snapshot.Decode

/-!
# Snapshots are read back

The writer of a snapshot, its reader and the display of values were made apart, and each of them
decides on its own where the members of an object count. Here they are shown to agree.

* `encodeNode_eq`: what is written for a value is the text of a document, `node`;
* `reach_lt_depth`: all that is shown of a value lies in that document;
* `readNode_json`: the reader finds in that document the value, pruned as it is shown;
* `parse_encodeReturned`, `parse_encodeThrown`: these put together with the reading of documents;
* `decode_encode_agrees`: the three agree.

The depth of a document is a property of its text (`Json.nesting`), so the limit of the reader is
stated for the text that is written.
-/

namespace Scratchpad.Snapshot

open Json (Document)

/-! ## The document that is written -/

mutual

/-- The document of a value that stands at a level below the value returned. -/
def node : Value → Nat → Document
  | .null, _ => .object [("kind", .string "null")]
  | .sequence typeName items, level =>
    .object [("kind", .string "sequence"), ("type", .string typeName),
      ("items", .list (itemNodes items (level + 1)))]
  | .text content, _ => .object [("kind", .string "text"), ("value", .string content)]
  | .composite typeName display members, level =>
    .object [("kind", .string "composite"), ("type", .string typeName),
      ("display", .string display),
      ("members", .list (if display = typeName ∨ level = 0 then
        memberNodes members (level + 1) else []))]
  | .primitive typeName shown, _ =>
    .object [("kind", .string "primitive"), ("type", .string typeName), ("text", .string shown)]

def itemNodes : List Value → Nat → List Document
  | [], _ => []
  | item :: items, level => node item level :: itemNodes items level

def memberNodes : List (String × Value) → Nat → List Document
  | [], _ => []
  | (name, value) :: members, level =>
    .object [("name", .string name), ("value", node value level)] :: memberNodes members level

end

/-- The document of a run that returned a value. -/
def returnedNode (value : Value) : Document :=
  .object [("status", .string "ok"), ("value", node value 0)]

def thrownNode (cause : String) : Document :=
  .object [("status", .string "fault"), ("cause", .string cause)]

def isPlain (s : String) : Bool :=
  s.toList.all fun c => encodeChar c == [c]

theorem flatMap_encodeChar_of_all {cs : List Char} (hcs : ∀ c ∈ cs, encodeChar c = [c]) :
    cs.flatMap encodeChar = cs := by
  induction cs with
  | nil => rfl
  | cons c cs ih =>
    rw [List.flatMap_cons, hcs c (by simp), ih fun d hd => hcs d (List.mem_cons_of_mem _ hd)]
    rfl

theorem toList_encodeText_of_isPlain {s : String} (hs : isPlain s = true) :
    (encodeText s).toList = '"' :: (s.toList ++ ['"']) := by
  have hall : ∀ c ∈ s.toList, encodeChar c = [c] := by simpa [isPlain] using hs
  rw [Json.toList_encodeText, flatMap_encodeChar_of_all hall]

-- The equations of `encodeNode`, stated by hand: the texts in them are too long for the ones that
-- are found by unfolding.

theorem encodeNode_null (level : Nat) : encodeNode .null level = "\x7b\"kind\":\"null\"\x7d" :=
  rfl

theorem encodeNode_sequence (typeName : String) (items : List Value) (level : Nat) :
    encodeNode (.sequence typeName items) level =
      "\x7b\"kind\":\"sequence\",\"type\":" ++ encodeText typeName ++ ",\"items\":[" ++
        ",".intercalate (encodeItems items (level + 1)) ++ "]\x7d" :=
  rfl

theorem encodeNode_text (content : String) (level : Nat) :
    encodeNode (.text content) level =
      "\x7b\"kind\":\"text\",\"value\":" ++ encodeText content ++ "\x7d" :=
  rfl

theorem encodeNode_composite (typeName display : String) (members : List (String × Value))
    (level : Nat) :
    encodeNode (.composite typeName display members) level =
      "\x7b\"kind\":\"composite\",\"type\":" ++ encodeText typeName ++ ",\"display\":" ++
        encodeText display ++ ",\"members\":[" ++
        (if display = typeName ∨ level = 0 then
          ",".intercalate (encodeMembers members (level + 1)) else "") ++ "]\x7d" :=
  rfl

theorem encodeNode_primitive (typeName shown : String) (level : Nat) :
    encodeNode (.primitive typeName shown) level =
      "\x7b\"kind\":\"primitive\",\"type\":" ++ encodeText typeName ++ ",\"text\":" ++
        encodeText shown ++ "\x7d" :=
  rfl

theorem encodeItems_eq {items : List Value} {level : Nat}
    (hitems : ∀ item ∈ items, (encodeNode item level).toList = (node item level).text) :
    (encodeItems items level).map String.toList = Document.itemTexts (itemNodes items level) := by
  induction items with
  | nil => rfl
  | cons item items ih =>
    rw [encodeItems, List.map_cons, hitems item (by simp),
      ih fun v hv => hitems v (List.mem_cons_of_mem _ hv)]
    rfl

theorem encodeMembers_eq {members : List (String × Value)} {level : Nat}
    (hmembers : ∀ member ∈ members,
      (encodeNode member.2 level).toList = (node member.2 level).text) :
    (encodeMembers members level).map String.toList =
      Document.itemTexts (memberNodes members level) := by
  induction members with
  | nil => rfl
  | cons member members ih =>
    obtain ⟨name, value⟩ := member
    have hvalue := hmembers (name, value) (by simp)
    rw [encodeMembers, List.map_cons, ih fun m hm => hmembers m (List.mem_cons_of_mem _ hm),
      memberNodes, Document.itemTexts]
    simp (disch := decide) [Document.text, Document.memberTexts, toList_encodeText_of_isPlain,
      hvalue]

theorem encodeNode_eq (value : Value) (level : Nat) :
    (encodeNode value level).toList = (node value level).text := by
  induction value using Value.parts_induction generalizing level with
  | null =>
    rw [encodeNode_null, node]
    simp (disch := decide) [Document.text, Document.memberTexts, toList_encodeText_of_isPlain]
  | sequence typeName items ih =>
    have hitems := encodeItems_eq fun item hitem => ih item hitem (level + 1)
    rw [encodeNode_sequence, node]
    simp (disch := decide) [Document.text, Document.memberTexts, toList_encodeText_of_isPlain,
      hitems]
  | text content =>
    rw [encodeNode_text, node]
    simp (disch := decide) [Document.text, Document.memberTexts, toList_encodeText_of_isPlain]
  | composite typeName display members ih =>
    have hmembers := encodeMembers_eq fun member hmember => ih member hmember (level + 1)
    rw [encodeNode_composite, node]
    by_cases hshown : display = typeName ∨ level = 0
    · rw [if_pos hshown, if_pos hshown]
      simp (disch := decide) [Document.text, Document.memberTexts, toList_encodeText_of_isPlain,
        hmembers]
    · rw [if_neg hshown, if_neg hshown]
      simp (disch := decide) [Document.text, Document.memberTexts, Document.itemTexts,
        toList_encodeText_of_isPlain]
  | primitive typeName shown =>
    rw [encodeNode_primitive, node]
    simp (disch := decide) [Document.text, Document.memberTexts, toList_encodeText_of_isPlain]

/-! ## What is shown lies in the document -/

theorem reachItems_le {items : List Value} {level : Nat}
    (hitems : ∀ item ∈ items, item.reach < (node item level).json.depth) :
    Value.reachItems items ≤ Json.itemsDepth (Document.itemsJson (itemNodes items level)) := by
  induction items with
  | nil => exact Nat.zero_le _
  | cons item items ih =>
    obtain ⟨hitem, hitems⟩ := List.forall_mem_cons.mp hitems
    have hrest := ih hitems
    simp only [Value.reachItems, itemNodes, Document.itemsJson, Json.itemsDepth]
    omega

theorem reachMembers_le {members : List (String × Value)} {level : Nat}
    (hmembers : ∀ member ∈ members, member.2.reach < (node member.2 level).json.depth) :
    Value.reachMembers members ≤ Json.itemsDepth (Document.itemsJson (memberNodes members level)) := by
  induction members with
  | nil => exact Nat.zero_le _
  | cons member members ih =>
    obtain ⟨hmember, hmembers⟩ := List.forall_mem_cons.mp hmembers
    have hrest := ih hmembers
    simp only [Value.reachMembers, memberNodes, Document.itemsJson, Document.json,
      Document.membersJson, Json.itemsDepth, Json.depth, Json.membersDepth]
    omega

theorem reach_lt_depth (value : Value) (level : Nat) :
    value.reach < (node value level).json.depth := by
  induction value using Value.parts_induction generalizing level with
  | sequence typeName items ih =>
    have hitems := reachItems_le fun item hitem => ih item hitem (level + 1)
    simp only [Value.reach, node, Document.json, Document.membersJson, Json.depth, Json.membersDepth]
    omega
  | composite typeName display members ih =>
    have hmembers := reachMembers_le fun member hmember => ih member hmember (level + 1)
    rw [Value.reach, node]
    by_cases hown : display = typeName
    · rw [if_pos hown, if_pos (Or.inl hown)]
      simp only [Document.json, Document.membersJson, Json.depth, Json.membersDepth]
      omega
    · rw [if_neg hown, Document.json, Json.depth]
      exact Nat.succ_pos _
  | _ => exact Nat.succ_pos _

theorem reachFromTop_lt_depth (value : Value) :
    value.reachFromTop < (node value 0).json.depth := by
  cases value with
  | composite typeName display members =>
    have hmembers := reachMembers_le fun member (_ : member ∈ members) =>
      reach_lt_depth member.2 (0 + 1)
    rw [Value.reachFromTop, node, if_pos (Or.inr rfl)]
    simp only [Document.json, Document.membersJson, Json.depth, Json.membersDepth]
    omega
  | _ => exact reach_lt_depth _ 0

/-! ## Reading the document -/

theorem ofJson_tag (kind : Kind) : Kind.ofJson (.string kind.tag) = .ok kind := by
  cases kind <;> rfl

theorem slot?_kind (kind : Kind) : kind.slot? "kind" = none := by
  cases kind <;> decide

theorem amongMembers_some {members : List (String × Json)} (kind : Kind)
    (hmembers : ∀ member ∈ members, member.1 ≠ "kind") :
    Kind.amongMembers members (some kind) = .ok kind := by
  induction members with
  | nil => rfl
  | cons member members ih =>
    obtain ⟨name, value⟩ := member
    rw [Kind.amongMembers, if_neg (hmembers (name, value) (by simp)),
      ih fun m hm => hmembers m (List.mem_cons_of_mem _ hm)]

theorem readNode_tagged (kind : Kind) {members : List (String × Json)}
    (hmembers : ∀ member ∈ members, member.1 ≠ "kind") :
    readNode (.object (("kind", .string kind.tag) :: members)) =
      (readNamed kind members {}).bind fun fields => fields.assemble kind := by
  rw [readNode, Kind.amongMembers, if_pos rfl, ofJson_tag]
  simp only [amongMembers_some kind hmembers, bind, Except.bind]
  rw [readNamed, slot?_kind]

theorem readNode_null :
    readNode (Document.object [("kind", .string "null")]).json = .ok .null := by
  refine (readNode_tagged .null (by simp [Document.membersJson])).trans ?_
  rw [Document.membersJson, readNamed]
  rfl

theorem readNode_sequence {typeName : String} {items : List Document} {values : List Value}
    (hitems : readNodeList (Document.itemsJson items) = .ok values) :
    readNode (Document.object [("kind", .string "sequence"), ("type", .string typeName),
      ("items", .list items)]).json = .ok (.sequence typeName values) := by
  refine (readNode_tagged .sequence (by simp [Document.membersJson])).trans ?_
  simp [readNamed, Kind.slot?, Kind.slots, Slot.name, Fields.has, readSlot, readText,
    Fields.putText, Fields.assemble, Fields.need, Document.membersJson, Document.json, hitems,
    bind, Except.bind]

theorem readNode_text (content : String) :
    readNode (Document.object [("kind", .string "text"), ("value", .string content)]).json =
      .ok (.text content) := by
  refine (readNode_tagged .text (by simp [Document.membersJson])).trans ?_
  simp [readNamed, Kind.slot?, Kind.slots, Slot.name, Fields.has, readSlot, readText,
    Fields.putText, Fields.assemble, Fields.need, Document.membersJson, Document.json, bind, Except.bind]

theorem readNode_composite {typeName display : String} {items : List Document}
    {members : List (String × Value)}
    (hmembers : readMemberList (Document.itemsJson items) = .ok members) :
    readNode (Document.object [("kind", .string "composite"), ("type", .string typeName),
      ("display", .string display), ("members", .list items)]).json =
      .ok (.composite typeName display members) := by
  refine (readNode_tagged .composite (by simp [Document.membersJson])).trans ?_
  simp [readNamed, Kind.slot?, Kind.slots, Slot.name, Fields.has, readSlot, readText,
    Fields.putText, Fields.assemble, Fields.need, Document.membersJson, Document.json, hmembers,
    bind, Except.bind]

theorem readNode_primitive (typeName shown : String) :
    readNode (Document.object [("kind", .string "primitive"), ("type", .string typeName),
      ("text", .string shown)]).json = .ok (.primitive typeName shown) := by
  refine (readNode_tagged .primitive (by simp [Document.membersJson])).trans ?_
  simp [readNamed, Kind.slot?, Kind.slots, Slot.name, Fields.has, readSlot, readText,
    Fields.putText, Fields.assemble, Fields.need, Document.membersJson, Document.json, bind, Except.bind]

theorem readNodeList_itemNodes {items : List Value} {level : Nat}
    (hitems : ∀ item ∈ items, readNode (node item level).json = .ok item.bare) :
    readNodeList (Document.itemsJson (itemNodes items level)) = .ok (Value.bareItems items) := by
  induction items with
  | nil => rfl
  | cons item items ih =>
    rw [itemNodes, Document.itemsJson, readNodeList, hitems item (by simp),
      ih fun v hv => hitems v (List.mem_cons_of_mem _ hv)]
    rfl

theorem readMemberList_memberNodes {members : List (String × Value)} {level : Nat}
    (hmembers : ∀ member ∈ members, readNode (node member.2 level).json = .ok member.2.bare) :
    readMemberList (Document.itemsJson (memberNodes members level)) =
      .ok (Value.bareMembers members) := by
  induction members with
  | nil => rfl
  | cons member members ih =>
    obtain ⟨name, value⟩ := member
    have hvalue := hmembers (name, value) (by simp)
    have hmember : readMember
        (Document.object [("name", .string name), ("value", node value level)]).json =
        .ok (name, value.bare) := by
      simp [Document.json, Document.membersJson, readMember, readMemberFields, readText, hvalue,
        assembleMember, bind, Except.bind]
    rw [memberNodes, Document.itemsJson, readMemberList, hmember,
      ih fun m hm => hmembers m (List.mem_cons_of_mem _ hm)]
    rfl

/-- Below the top, the reader finds a value bare. -/
theorem readNode_json (value : Value) (level : Nat) :
    readNode (node value (level + 1)).json = .ok value.bare := by
  induction value using Value.parts_induction generalizing level with
  | null => exact readNode_null
  | sequence typeName items ih =>
    exact readNode_sequence (readNodeList_itemNodes fun item hitem => ih item hitem (level + 1))
  | text content => exact readNode_text content
  | composite typeName display members ih =>
    rw [node, Value.bare]
    by_cases hown : display = typeName
    · rw [if_pos (Or.inl hown), if_pos hown]
      exact readNode_composite
        (readMemberList_memberNodes fun member hmember => ih member hmember (level + 1))
    · rw [if_neg (by simp [hown]), if_neg hown]
      exact readNode_composite rfl
  | primitive typeName shown => exact readNode_primitive typeName shown

/-- At the top, the reader finds a value pruned. -/
theorem readNode_json_zero (value : Value) : readNode (node value 0).json = .ok value.pruned := by
  cases value with
  | null => exact readNode_null
  | sequence typeName items =>
    exact readNode_sequence (readNodeList_itemNodes fun item _ => readNode_json item 0)
  | text content => exact readNode_text content
  | composite typeName display members =>
    rw [node, if_pos (Or.inr rfl)]
    exact readNode_composite (readMemberList_memberNodes fun member _ => readNode_json member.2 0)
  | primitive typeName shown => exact readNode_primitive typeName shown

/-! ## Whole snapshots -/

theorem readStatus_text {tag : String} {status : Status} (htag : Status.ofTag tag = .ok status)
    (cs : List Char) : readStatus ((Document.string tag).text ++ cs) = .ok (status, cs) := by
  have hread := Json.readString_encodeText tag cs
  simp [readStatus, Document.text, Json.toList_encodeText, Json.skipGap, Json.isGap, hread, htag,
    bind, Except.bind]

theorem step_status {tag : String} {status : Status} (htag : Status.ofTag tag = .ok status)
    (cs : List Char) :
    Opened.step {} "status" (':' :: ((Document.string tag).text ++ cs)) =
      .ok ({ status := some status }, cs) := by
  simp [Opened.step, Json.skipColon_cons, readStatus_text htag, bind, Except.bind]

theorem step_field (opened : Opened) {key : String} (hkey : key ≠ "status") (value : Document)
    (cs : List Char) :
    opened.step key (':' :: (value.text ++ cs)) =
      if value.json.depth ≤ maxDepth - 1 then
        .ok ({ opened with members := opened.members ++ [(key, value.json)] }, cs)
      else .error (.malformed .tooDeep) := by
  have hread := Json.readValue_text value (maxDepth - 1) cs
  by_cases hdepth : value.json.depth ≤ maxDepth - 1
  · rw [if_pos hdepth] at hread
    simp [Opened.step, hkey, Json.skipColon_cons, hread, hdepth, bind, Except.bind]
  · rw [if_neg hdepth] at hread
    simp [Opened.step, hkey, Json.skipColon_cons, hread, hdepth, bind, Except.bind]

theorem foldMembers_snapshot {tag key : String} {status : Status}
    (htag : Status.ofTag tag = .ok status) (hkey : key ≠ "status") (value : Document) (bound : Nat) :
    Json.foldMembers .malformed Opened.step (bound + 2) {}
        (.more (Json.memberTail ("status", .string tag) ++ (Json.commaMember (key, value) ++ ['}']))) =
      if value.json.depth ≤ maxDepth - 1 then
        .ok ({ status := some status, members := [(key, value.json)] }, [])
      else .error (.malformed .tooDeep) := by
  have hstatus := step_status htag (Json.commaMember (key, value) ++ ['}'])
  have hcomma : Json.nextMember (Json.commaMember (key, value) ++ ['}']) =
      .ok (.more (key.toList.flatMap encodeChar ++ '"' :: ':' :: (value.text ++ ['}']))) := by
    simpa [Json.commaMember] using Json.nextMember_comma key (':' :: (value.text ++ ['}']))
  have hfield := step_field { status := some status } hkey value ['}']
  rw [Json.memberTail, List.append_assoc, List.cons_append, List.cons_append,
    Json.foldMembers_more, hstatus]
  simp only [Except.bind, hcomma, Json.mapError_ok]
  rw [Json.foldMembers_more, hfield]
  by_cases hdepth : value.json.depth ≤ maxDepth - 1
  · rw [if_pos hdepth, if_pos hdepth]
    simp [Except.bind, Json.nextMember_close, Json.foldMembers]
  · rw [if_neg hdepth, if_neg hdepth]
    rfl

theorem parse_text {tag key : String} {status : Status} (htag : Status.ofTag tag = .ok status)
    (hkey : key ≠ "status") (value : Document) :
    parse (String.ofList (Document.object [("status", .string tag), (key, value)]).text) =
      if value.json.depth ≤ maxDepth - 1 then status.readNamed [(key, value.json)]
      else .error (.malformed .tooDeep) := by
  have htext : (Document.object [("status", .string tag), (key, value)]).text = '{' :: '"' ::
      (Json.memberTail ("status", .string tag) ++ (Json.commaMember (key, value) ++ ['}'])) := by
    simpa using Json.text_object_cons ("status", .string tag) [(key, value)] []
  have hfold := foldMembers_snapshot htag hkey value
  rw [parse, String.toList_ofList, htext]
  generalize Json.memberTail ("status", .string tag) ++ (Json.commaMember (key, value) ++ ['}']) =
    cs at hfold
  have hopen : readOutcome ('{' :: '"' :: cs) = readObject ('"' :: cs) := by
    simp [readOutcome, Json.skipGap, Json.isGap]
  have hfirst : Json.firstMember ('"' :: cs) = .ok (.more cs) := by
    simp [Json.firstMember, Json.skipGap, Json.isGap]
  have hend : Json.expectEnd [] = .ok () := rfl
  rw [hopen, readObject, hfirst]
  simp only [Json.mapError_ok, bind, Except.bind, List.length_cons, hfold cs.length]
  by_cases hdepth : value.json.depth ≤ maxDepth - 1
  · rw [if_pos hdepth, if_pos hdepth]
    cases hread : status.readNamed [(key, value.json)] with
    | error fault => simp [hread]
    | ok outcome => simp [hread, hend]
  · rw [if_neg hdepth, if_neg hdepth]

theorem encodeReturned_eq (value : Value) :
    encodeReturned value = String.ofList (returnedNode value).text := by
  rw [← String.toList_inj]
  change ("\x7b\"status\":\"ok\",\"value\":" ++ encodeNode value 0 ++ "\x7d").toList = _
  simp (disch := decide) [encodeNode_eq, returnedNode, Document.text, Document.memberTexts,
    toList_encodeText_of_isPlain]

theorem encodeThrown_eq (cause : String) :
    encodeThrown cause = String.ofList (thrownNode cause).text := by
  rw [← String.toList_inj]
  change ("\x7b\"status\":\"fault\",\"cause\":" ++ encodeText cause ++ "\x7d").toList = _
  simp (disch := decide) [thrownNode, Document.text, Document.memberTexts,
    toList_encodeText_of_isPlain]

theorem parse_encodeReturned (value : Value) :
    parse (encodeReturned value) =
      if (node value 0).json.depth + 1 ≤ maxDepth then .ok (.returned value.pruned)
      else .error (.malformed .tooDeep) := by
  have hnode : (node value 0).json.depth + 1 ≤ maxDepth ↔ (node value 0).json.depth ≤ maxDepth - 1 := by
    simp only [maxDepth]
    omega
  have hread : Status.readNamed [("value", (node value 0).json)] .ok =
      .ok (.returned value.pruned) := by
    simp [Status.readNamed, readSole, readNode_json_zero, Except.map]
  rw [encodeReturned_eq]
  simp only [hnode]
  rw [returnedNode, parse_text rfl (by decide), hread]

theorem parse_encodeThrown (cause : String) :
    parse (encodeThrown cause) = .ok (.threw cause) := by
  have hread : Status.readNamed [("cause", (Document.string cause).json)] .fault =
      .ok (.threw cause) := by
    simp [Status.readNamed, readSole, readText, Document.json, Except.map]
  rw [encodeThrown_eq, thrownNode, parse_text rfl (by decide), hread, Document.json, Json.depth, if_pos]
  exact Nat.zero_le _

theorem nesting_encodeReturned (value : Value) :
    Json.nesting (encodeReturned value) = (node value 0).json.depth + 1 := by
  rw [encodeReturned_eq, Json.nesting_text]
  simp only [returnedNode, Document.json, Document.membersJson, Json.depth, Json.membersDepth]
  omega

/-- **Writer, reader and display agree.** A snapshot that nests at most 127 deep is read as the
value it was written for, pruned, and a deeper one is refused for its depth. The pruned value is shown the
same as before, up to a depth that no longer can be counted in 64 bits. The cause of an exception is read
as it was. -/
theorem decode_encode_agrees (value : Value) (cause : String) :
    decode (encodeReturned value) =
        (if Json.nesting (encodeReturned value) ≤ 127 then .ok value.pruned
          else .error (.unreadable Json.TextFault.tooDeep.message)) ∧
      (Json.nesting (encodeReturned value) < UInt64.size → value.pruned.format 0 = value.format 0) ∧
      decode (encodeThrown cause) = .error (.thrown cause) := by
  refine ⟨?_, fun hnesting => ?_, ?_⟩
  · rw [decode, parse_encodeReturned, nesting_encodeReturned]
    by_cases hdepth : (node value 0).json.depth + 1 ≤ 127
    · rw [if_pos hdepth, if_pos (show _ ≤ maxDepth from hdepth)]
    · rw [if_neg hdepth, if_neg (show ¬ _ ≤ maxDepth from hdepth)]
      rfl
  · have hreach := reachFromTop_lt_depth value
    rw [nesting_encodeReturned] at hnesting
    exact Value.format_pruned (by omega)
  · rw [decode, parse_encodeThrown]

/-- A list with an object that is shown by its own text: its members are not written. -/
theorem decode_encode_agrees_hidden :
    let value : Value := .sequence "Point[]" [.composite "Point" "(1, 2)" [("X", .int 1)], .null]
    Json.nesting (encodeReturned value) = 5 ∧
      decode (encodeReturned value) =
        .ok (.sequence "Point[]" [.composite "Point" "(1, 2)" [], .null]) ∧
      value.pruned.format 0 = value.format 0 := by
  intro value
  have hnesting : Json.nesting (encodeReturned value) = 5 := by decide +kernel
  obtain ⟨hdecode, hformat, -⟩ := decode_encode_agrees value ""
  rw [hnesting] at hdecode hformat
  exact ⟨hnesting, hdecode, hformat (by decide)⟩

end Scratchpad.Snapshot
