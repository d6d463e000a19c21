import Scratchpad.Proofs.Json.Limit
import Scratchpad.Snapshot.Decode

/-!
# Snapshots as trees

A snapshot is understood while its text is read: the tag of the outcome is looked at as soon as it comes
by. That order decides which fault is reported, but not what is found, so a text may as well be read as a
tree first and the tree looked at afterwards (`Outcome.ofJson`). `parse_toOption` says that both ways find
the same outcome.

* `readStatus_toOption`: the tag is a value like any other;
* `foldMembers_step`: the members that come by with the tag among them are all members but the tag;
* `readList_toOption`, `readObject_toOption`: the two ways to write an outcome.
-/

namespace Scratchpad.Snapshot

open Json (skipGap readValue readItems readMembers)

/-- The status that a tag names. Only a text does. -/
def Status.ofJson : Json → Except Fault Status
  | .string tag => Status.ofTag tag
  | other => .error (.unexpected (.ofJson other) "variant identifier")

/-- The outcome that a tree describes. -/
def Outcome.ofJson : Json → Except Fault Outcome
  | .object members => do
    let status ← readSole "status" Status.ofJson members none
    status.readNamed members
  | .array [] => .error (.missingField "status")
  | .array (tag :: values) => do
    let status ← Status.ofJson tag
    status.readPlaced values
  | other => .error (.unexpected (.ofJson other) "internally tagged enum Outcome")

/-! ## The tag -/

theorem readValue_of_list {cs ds rest : List Char} {n : Nat} {json : Json}
    (hstart : skipGap cs = '[' :: ds) (h : readValue n cs = .ok (json, rest)) :
    ∃ items, json = .array items := by
  cases n with
  | zero =>
    rw [readValue, Json.readWith_of_list hstart] at h
    cases h
  | succ n =>
    rw [Json.readValue_succ, Json.readWith_of_list hstart] at h
    obtain ⟨follow, -, h⟩ := bind_eq_ok.mp h
    obtain ⟨⟨items, left⟩, -, h⟩ := bind_eq_ok.mp h
    cases h
    exact ⟨items, rfl⟩

theorem readValue_of_object {cs ds rest : List Char} {n : Nat} {json : Json}
    (hstart : skipGap cs = '{' :: ds) (h : readValue n cs = .ok (json, rest)) :
    ∃ members, json = .object members := by
  cases n with
  | zero =>
    rw [readValue, Json.readWith_of_object hstart] at h
    cases h
  | succ n =>
    rw [Json.readValue_succ, Json.readWith_of_object hstart] at h
    obtain ⟨follow, -, h⟩ := bind_eq_ok.mp h
    obtain ⟨⟨members, left⟩, -, h⟩ := bind_eq_ok.mp h
    cases h
    exact ⟨members, rfl⟩

theorem readValue_of_string {cs ds : List Char} (n : Nat) (hstart : skipGap cs = '"' :: ds) :
    readValue n cs = (Json.readString ds).map fun (s, rest) => (.string s, rest) := by
  cases n <;> simp [readValue, Json.readWith, hstart, Char.isDigit]

theorem refused_toOption {α : Type} (cs : List Char) (fault : Json → Fault) :
    (do
      let (value, _) ← (readValue 0 cs).mapError Fault.malformed
      .error (fault value) : Except Fault α).toOption = none := by
  rcases readValue 0 cs with fault | ⟨value, rest⟩ <;> rfl

theorem readStatus_toOption (n : Nat) (cs : List Char) :
    (readStatus cs).toOption =
      (readValue n cs).toOption.bind fun (json, rest) =>
        (Status.ofJson json).toOption.map fun status => (status, rest) := by
  -- What is not a text is refused, before or after it is read.
  have hrefused (hbad : ∀ json rest, readValue n cs = .ok (json, rest) →
      (Status.ofJson json).toOption = none) :
      none = (readValue n cs).toOption.bind fun (json, rest) =>
        (Status.ofJson json).toOption.map fun status => (status, rest) := by
    rcases hread : readValue n cs with fault | ⟨json, rest⟩
    · rfl
    · simp [hbad json rest hread]
  unfold readStatus
  split
  · rename_i rest hstart
    rw [readValue_of_string n hstart]
    rcases Json.readString rest with fault | ⟨tag, left⟩
    · rfl
    · rcases hstatus : Status.ofTag tag with fault | status <;>
        simp [Except.map, Status.ofJson, hstatus]
  · rename_i rest hstart
    refine hrefused fun json rest hread => ?_
    obtain ⟨items, rfl⟩ := readValue_of_list hstart hread
    rfl
  · rename_i rest hstart
    refine hrefused fun json rest hread => ?_
    obtain ⟨members, rfl⟩ := readValue_of_object hstart hread
    rfl
  · rename_i hquote hlist hobject
    refine (refused_toOption _ fun value => .unexpected (.ofJson value) _).trans ?_
    refine hrefused fun json rest hread => ?_
    rcases Json.opening_cases cs with ⟨ds, hstart⟩ | ⟨ds, hstart⟩ | hsame
    · exact absurd hstart (hlist ds)
    · exact absurd hstart (hobject ds)
    · rw [Json.readValue_of_same hsame] at hread
      rcases Json.readValue_zero_cases hread with
        ⟨s, ds, -, hstart⟩ | rfl | ⟨b, rfl⟩ | ⟨number, rfl⟩
      · exact absurd hstart (hquote ds)
      all_goals rfl

/-! ## Lists -/

theorem readList_toOption (cs : List Char) :
    (readList cs).toOption =
      (do
        let follow ← Json.firstItem cs
        readItems (readValue (maxDepth - 1)) (cs.length + 1) follow).toOption.bind
      fun (values, rest) =>
        (Outcome.ofJson (.array values)).toOption.map fun outcome => (outcome, rest) := by
  unfold readList
  rcases hfirst : Json.firstItem cs with fault | follow
  · rfl
  have hcs := Json.length_firstItem hfirst
  rcases follow with rest | start
  · rfl
  simp only [Json.mapError_ok, toOption_bind, toOption_ok, Option.bind_some, readItems,
    readStatus_toOption (maxDepth - 1)]
  rcases hread : readValue (maxDepth - 1) start with fault | ⟨tag, rest⟩
  · rfl
  have hrest := Json.shrinks_readValue _ _ _ _ hread
  rcases hnext : Json.nextItem rest with fault | follow
  · rcases htag : Status.ofJson tag with fault | status <;> simp [hnext, htag]
  have hfollow := Json.length_nextItem hnext
  change start.length ≤ cs.length at hcs
  have hbound := Json.readItems_bound (Json.shrinks_readValue (maxDepth - 1)) (rest.length + 1)
    cs.length follow (by omega) (by omega)
  rcases hitems : readItems (readValue (maxDepth - 1)) cs.length follow with fault | ⟨values, left⟩
  · rcases htag : Status.ofJson tag with fault | status <;> simp [htag, hnext, hbound, hitems]
  rcases htag : Status.ofJson tag with fault | status
  · simp [htag, hnext, hitems, Outcome.ofJson]
  rcases hplaced : status.readPlaced values with fault | outcome <;>
    simp [htag, hnext, hbound, hitems, hplaced, Outcome.ofJson]

/-! ## Objects -/

/-- One more member, for a reader that looks for the one with the given name: it may come once. -/
def soleStep {α : Type} (name : String) (read : Json → Except Fault α) (found : Option α)
    (member : String × Json) : Option (Option α) :=
  if member.1 = name then
    match found with
    | some _ => none
    | none => (read member.2).toOption.map some
  else some found

theorem readSole_toOption {α : Type} (name : String) (read : Json → Except Fault α)
    (members : List (String × Json)) (found : Option α) :
    (readSole name read members found).toOption =
      (members.foldlM (soleStep name read) found).bind id := by
  fun_induction readSole name read members found with
  | case1 a => rfl
  | case2 => rfl
  | case3 => simp [soleStep]
  | case4 json members a hread ih => simp [soleStep, hread, ih]
  | case5 => simp_all [soleStep]
  | case6 key json members found hkey ih => simp [soleStep, hkey, ih]

def besidesTag (members : List (String × Json)) : List (String × Json) :=
  members.filter (·.1 != "status")

theorem besidesTag_cons (member : String × Json) (members : List (String × Json)) :
    besidesTag (member :: members) = besidesTag [member] ++ besidesTag members :=
  List.filter_append [member] members

theorem readSole_besidesTag {α : Type} {name : String} (hname : name ≠ "status")
    (read : Json → Except Fault α) (members : List (String × Json)) (found : Option α) :
    readSole name read (besidesTag members) found = readSole name read members found := by
  unfold besidesTag
  fun_induction readSole name read members found with
  | case1 a => rfl
  | case2 => rfl
  | case3 json members a => simp [hname, readSole]
  | case4 => simp_all [readSole]
  | case5 => simp_all [readSole]
  | case6 key json members found hkey ih =>
    by_cases htag : key = "status"
    · simp [htag, ih]
    · simp [htag, readSole, hkey, ih]

theorem readNamed_besidesTag (status : Status) (members : List (String × Json)) :
    status.readNamed (besidesTag members) = status.readNamed members := by
  cases status with
  | ok => simp [Status.readNamed, readSole_besidesTag]
  | fault => simp [Status.readNamed, readSole_besidesTag]

theorem step_toOption (opened : Opened) (key : String) (cs : List Char) :
    (opened.step key cs).toOption =
      (do
        let cs ← Json.skipColon cs
        readValue (maxDepth - 1) cs).toOption.bind fun (json, rest) =>
        (soleStep "status" Status.ofJson opened.status (key, json)).map fun status =>
          ({ status, members := opened.members ++ besidesTag [(key, json)] }, rest) := by
  unfold Opened.step
  rcases hcolon : Json.skipColon cs with fault | ds
  · by_cases hkey : key = "status"
    · cases opened.status <;> simp [hkey]
    · simp [hkey]
  rcases hread : readValue (maxDepth - 1) ds with fault | ⟨json, rest⟩
  · by_cases hkey : key = "status"
    · cases opened.status <;> simp [hkey, readStatus_toOption (maxDepth - 1), hread]
    · simp [hkey, hread]
  by_cases hkey : key = "status"
  · cases opened.status with
    | some status => simp [hkey, hread, soleStep]
    | none =>
      rcases hstatus : Status.ofJson json with fault | status <;>
        simp [hkey, readStatus_toOption (maxDepth - 1), hread, hstatus, soleStep, besidesTag]
  · simp [hkey, hread, soleStep, besidesTag]

theorem foldMembers_step (bound : Nat) (opened : Opened) (follow : Json.Follow) :
    (Json.foldMembers .malformed Opened.step bound opened follow).toOption =
      (readMembers (maxDepth - 1) bound follow).toOption.bind fun (members, rest) =>
        (members.foldlM (soleStep "status" Status.ofJson) opened.status).map fun status =>
          ({ status, members := opened.members ++ besidesTag members }, rest) := by
  induction bound generalizing opened follow with
  | zero => cases follow <;> simp [Json.foldMembers, readMembers, besidesTag]
  | succ bound ih =>
    cases follow with
    | closed rest => simp [Json.foldMembers, readMembers, besidesTag]
    | more cs =>
      rw [Json.foldMembers, readMembers]
      rcases Json.readString cs with fault | ⟨key, afterKey⟩
      · rfl
      simp only [Json.mapError_ok, toOption_bind, toOption_ok, Option.bind_some, step_toOption, ih]
      rcases Json.skipColon afterKey with fault | afterColon
      · rfl
      rcases hread : readValue (maxDepth - 1) afterColon with fault | ⟨json, afterValue⟩
      · simp [hread]
      rcases hnext : Json.nextMember afterValue with fault | follow
      · cases soleStep "status" Status.ofJson opened.status (key, json) <;> simp [hread, hnext]
      rcases hothers : readMembers (maxDepth - 1) bound follow with fault | ⟨members, rest⟩
      · cases soleStep "status" Status.ofJson opened.status (key, json) <;>
          simp [hread, hnext, hothers]
      cases hstep : soleStep "status" Status.ofJson opened.status (key, json) with
      | none => simp [hread, hnext, hothers, hstep]
      | some status =>
        simp [hread, hnext, hothers, hstep, besidesTag_cons (key, json) members]

theorem readObject_toOption (cs : List Char) :
    (readObject cs).toOption =
      (do
        let follow ← Json.firstMember cs
        readMembers (maxDepth - 1) (cs.length + 1) follow).toOption.bind
      fun (members, rest) =>
        (Outcome.ofJson (.object members)).toOption.map fun outcome => (outcome, rest) := by
  unfold readObject
  rcases Json.firstMember cs with fault | follow
  · rfl
  simp only [Json.mapError_ok, toOption_bind, toOption_ok, Option.bind_some, foldMembers_step]
  rcases readMembers (maxDepth - 1) (cs.length + 1) follow with fault | ⟨members, rest⟩
  · rfl
  simp only [toOption_ok, Option.bind_some, Outcome.ofJson, toOption_bind, readSole_toOption]
  rcases members.foldlM (soleStep "status" Status.ofJson) none with _ | _ | status
  · rfl
  · rfl
  · rcases hnamed : status.readNamed members with fault | outcome <;>
      simp [readNamed_besidesTag, hnamed]

/-! ## Texts -/

theorem readOutcome_toOption (cs : List Char) :
    (readOutcome cs).toOption =
      (readValue maxDepth cs).toOption.bind fun (json, rest) =>
        (Outcome.ofJson json).toOption.map fun outcome => (outcome, rest) := by
  unfold readOutcome
  have hvalue := Json.readValue_succ (maxDepth - 1) cs
  change readValue maxDepth cs = _ at hvalue
  split
  · rename_i rest hstart
    rw [hvalue, Json.readWith_of_object hstart, readObject_toOption]
    simp only [toOption_bind, Option.bind_assoc, toOption_ok, Option.bind_some]
  · rename_i rest hstart
    rw [hvalue, Json.readWith_of_list hstart, readList_toOption]
    simp only [toOption_bind, Option.bind_assoc, toOption_ok, Option.bind_some]
  · rename_i hobject hlist
    refine (refused_toOption _ fun value => .unexpected (.ofJson value) _).trans ?_
    rcases Json.opening_cases cs with ⟨ds, hstart⟩ | ⟨ds, hstart⟩ | hsame
    · exact absurd hstart (hlist ds)
    · exact absurd hstart (hobject ds)
    · rw [Json.readValue_of_same hsame]
      rcases hread : readValue 0 cs with fault | ⟨json, rest⟩
      · rfl
      · rcases Json.readValue_zero_cases hread with
          ⟨s, ds, rfl, -⟩ | rfl | ⟨b, rfl⟩ | ⟨number, rfl⟩ <;> rfl

/-- **A text is understood as the tree it is read as**, to the greatest depth. -/
theorem parse_toOption (text : String) :
    (parse text).toOption =
      (Json.document? maxDepth text).bind fun json => (Outcome.ofJson json).toOption := by
  unfold parse Json.document?
  simp only [toOption_bind, readOutcome_toOption]
  rcases readValue maxDepth text.toList with fault | ⟨json, rest⟩
  · rfl
  rcases hend : Json.expectEnd rest with fault | ⟨⟩ <;> rcases hjson : Outcome.ofJson json with fault | outcome <;>
    simp [hend, hjson]

end Scratchpad.Snapshot
