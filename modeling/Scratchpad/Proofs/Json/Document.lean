import Scratchpad.Json.Reader
import Scratchpad.Snapshot.Encode

/-!
# Written documents are read back

A snapshot is written with strings, lists and objects only, and without gaps. `Document` is the
tree of such a text, `text` the text itself and `json` the value it stands for; `depth` is how deep lists
and objects are nested in a value. The main fact is `readValue_text`: a reader that may go `n` deep reads the
text of a document whose value has at most that depth back, whatever follows it, and gives up on any other
document with `tooDeep`, never with another fault.

* `readChars_encodeChar`, `readString_encodeText`: what is written for a character is read as it;
* `readItems_text`, `foldMembers_text`: items and members are read one after the other, up to the
  first one that is too deep;
* `readValue_text`: by induction on the document, for every bound at once.
-/

namespace Scratchpad.Json

open Snapshot (encodeChar encodeText hex4)

/-! ## Strings -/

theorem hexDigit?_digitChar : ∀ d < 16, hexDigit? (Nat.digitChar d) = some d := by
  decide

theorem readChars_hex4 (n : Nat) (hn : n < 0x20) (cs : List Char) :
    readChars (.hex none 4 0) (hex4 n ++ cs) = consChar (Char.ofNat n) (readChars .plain cs) := by
  have h1 := hexDigit?_digitChar (n / 4096 % 16) (Nat.mod_lt _ (by decide))
  have h2 := hexDigit?_digitChar (n / 256 % 16) (Nat.mod_lt _ (by decide))
  have h3 := hexDigit?_digitChar (n / 16 % 16) (Nat.mod_lt _ (by decide))
  have h4 := hexDigit?_digitChar (n % 16) (Nat.mod_lt _ (by decide))
  have hunit : 16 * (16 * (16 * (n / 4096 % 16) + n / 256 % 16) + n / 16 % 16) + n % 16 = n := by omega
  have hlead : isLeading n = false := by simp [isLeading]; omega
  have htrail : isTrailing n = false := by simp [isTrailing]; omega
  simp only [hex4, List.map_cons, List.map_nil, List.cons_append, List.nil_append]
  simp [readChars, h1, h2, h3, h4, hunit, hlead, htrail]

theorem readChars_encodeChar (c : Char) (cs : List Char) :
    readChars .plain (encodeChar c ++ cs) = consChar c (readChars .plain cs) := by
  by_cases hquote : c = '"'
  · subst hquote
    simp [encodeChar, readChars, shortEscape?]
  by_cases hslash : c = '\\'
  · subst hslash
    simp [encodeChar, readChars, shortEscape?]
  by_cases hcontrol : c.toNat < 0x20
  · have hread := readChars_hex4 c.toNat hcontrol cs
    simp [encodeChar, readChars, hquote, hslash, hcontrol, hread]
  · simp [encodeChar, readChars, hquote, hslash, hcontrol]

theorem readChars_flatMap (s cs : List Char) :
    readChars .plain (s.flatMap encodeChar ++ '"' :: cs) = .ok (s, cs) := by
  induction s with
  | nil => simp [readChars]
  | cons c s ih =>
    rw [List.flatMap_cons, List.append_assoc, readChars_encodeChar, ih]
    rfl

theorem toList_encodeText (s : String) :
    (encodeText s).toList = '"' :: (s.toList.flatMap encodeChar ++ ['"']) := by
  simp [encodeText]

theorem readString_encodeText (s : String) (cs : List Char) :
    readString (s.toList.flatMap encodeChar ++ '"' :: cs) = .ok (s, cs) := by
  simp [readString, readChars_flatMap, Except.map]

/-! ## Depth -/

mutual

/-- How deep lists and objects are nested in a value. -/
def depth : Json → Nat
  | .array items => itemsDepth items + 1
  | .object members => membersDepth members + 1
  | .null | .bool _ | .number _ | .string _ => 0

def itemsDepth : List Json → Nat
  | [] => 0
  | item :: items => max item.depth (itemsDepth items)

def membersDepth : List (String × Json) → Nat
  | [] => 0
  | (_, value) :: members => max value.depth (membersDepth members)

end

theorem itemsDepth_cons_le {item : Json} {items : List Json} {n : Nat} :
    itemsDepth (item :: items) ≤ n ↔ item.depth ≤ n ∧ itemsDepth items ≤ n := by
  rw [itemsDepth, Nat.max_le]

theorem membersDepth_cons_le {key : String} {value : Json} {members : List (String × Json)}
    {n : Nat} :
    membersDepth ((key, value) :: members) ≤ n ↔ value.depth ≤ n ∧ membersDepth members ≤ n := by
  rw [membersDepth, Nat.max_le]

theorem membersDepth_le_iff {members : List (String × Json)} {n : Nat} :
    membersDepth members ≤ n ↔ ∀ member ∈ members, member.2.depth ≤ n := by
  induction members with
  | nil => simp [membersDepth]
  | cons member members ih => rw [membersDepth_cons_le, ih, List.forall_mem_cons]

/-! ## Documents -/

/-- A document of strings, lists and objects. -/
inductive Document where
  | string (s : String)
  | list (items : List Document)
  | object (members : List (String × Document))

namespace Document

mutual

/-- The text of a document, without gaps. -/
def text : Document → List Char
  | .string s => (encodeText s).toList
  | .list items => '[' :: ([','].intercalate (itemTexts items) ++ [']'])
  | .object members => '{' :: ([','].intercalate (memberTexts members) ++ ['}'])

def itemTexts : List Document → List (List Char)
  | [] => []
  | item :: items => item.text :: itemTexts items

def memberTexts : List (String × Document) → List (List Char)
  | [] => []
  | (key, value) :: members => ((encodeText key).toList ++ ':' :: value.text) :: memberTexts members

end

mutual

def json : Document → Json
  | .string s => .string s
  | .list items => .array (itemsJson items)
  | .object members => .object (membersJson members)

def itemsJson : List Document → List Json
  | [] => []
  | item :: items => item.json :: itemsJson items

def membersJson : List (String × Document) → List (String × Json)
  | [] => []
  | (key, value) :: members => (key, value.json) :: membersJson members

end

@[elab_as_elim]
theorem parts_induction {P : Document → Prop} (string : ∀ s, P (.string s))
    (list : ∀ items, (∀ item ∈ items, P item) → P (.list items))
    (object : ∀ members, (∀ member ∈ members, P member.2) → P (.object members))
    (document : Document) : P document := by
  refine @Document.rec P (fun items => ∀ item ∈ items, P item)
    (fun members => ∀ member ∈ members, P member.2) (fun member => P member.2)
    string list object ?_ ?_ ?_ ?_ ?_ document
  · intro item hitem
    cases hitem
  · intro item items hitem hitems
    exact List.forall_mem_cons.mpr ⟨hitem, hitems⟩
  · intro member hmember
    cases hmember
  · intro member members hmember hmembers
    exact List.forall_mem_cons.mpr ⟨hmember, hmembers⟩
  · intro key value hvalue
    exact hvalue

theorem text_eq_cons (document : Document) :
    ∃ c cs, document.text = c :: cs ∧ (c = '"' ∨ c = '[' ∨ c = '{') := by
  cases document with
  | string s => exact ⟨_, _, toList_encodeText s, by simp⟩
  | list items => exact ⟨_, _, rfl, by simp⟩
  | object members => exact ⟨_, _, rfl, by simp⟩

theorem itemTexts_eq_map (items : List Document) : itemTexts items = items.map text := by
  induction items with
  | nil => rfl
  | cons item items ih => rw [itemTexts, ih, List.map_cons]

theorem memberTexts_eq_map (members : List (String × Document)) :
    memberTexts members =
      members.map fun member => (encodeText member.1).toList ++ ':' :: member.2.text := by
  induction members with
  | nil => rfl
  | cons member members ih => rw [memberTexts, ih, List.map_cons]

end Document

/-! ## Reading documents -/

theorem intercalate_comma_cons (x : List Char) (xs : List (List Char)) :
    [','].intercalate (x :: xs) = x ++ xs.flatMap (',' :: ·) := by
  induction xs generalizing x with
  | nil => simp
  | cons y ys ih => rw [List.intercalate_cons_cons, ih]; simp

section Value

variable (list object : List Char → Except TextFault (Json × List Char))

theorem readWith_string (s : String) (rest : List Char) :
    readWith list object ((Document.string s).text ++ rest) = .ok (.string s, rest) := by
  have hread := readString_encodeText s rest
  simp [readWith, Document.text, toList_encodeText, skipGap, isGap, Char.isDigit, hread, Except.map]

theorem readWith_list (cs : List Char) : readWith list object ('[' :: cs) = list cs := by
  simp [readWith, skipGap, isGap, Char.isDigit]

theorem readWith_object (cs : List Char) : readWith list object ('{' :: cs) = object cs := by
  simp [readWith, skipGap, isGap, Char.isDigit]

end Value

theorem firstItem_text (document : Document) (cs : List Char) :
    firstItem (document.text ++ cs) = .ok (.more (document.text ++ cs)) := by
  obtain ⟨c, ds, htext, hc⟩ := document.text_eq_cons
  rw [htext]
  rcases hc with rfl | rfl | rfl <;> simp [firstItem, skipGap, isGap]

theorem nextItem_comma (document : Document) (cs : List Char) :
    nextItem (',' :: (document.text ++ cs)) = .ok (.more (document.text ++ cs)) := by
  obtain ⟨c, ds, htext, hc⟩ := document.text_eq_cons
  rw [htext]
  rcases hc with rfl | rfl | rfl <;> simp [nextItem, skipGap, isGap]

theorem nextItem_close (cs : List Char) : nextItem (']' :: cs) = .ok (.closed cs) := by
  simp [nextItem, skipGap, isGap]

/-- `Reads n document`: read to depth `n`, the text of the document gives its value and leaves what
follows it, or is given up as too deep. -/
def Reads (n : Nat) (document : Document) : Prop :=
  ∀ rest, readValue n (document.text ++ rest) =
    if document.json.depth ≤ n then .ok (document.json, rest) else .error .tooDeep

theorem readItems_text (n : Nat) (items : List Document) :
    ∀ (item : Document) (bound : Nat) (rest : List Char), (∀ d ∈ item :: items, Reads n d) →
      items.length < bound →
      readItems (readValue n) bound
          (.more (item.text ++ (items.flatMap (fun d => ',' :: d.text) ++ ']' :: rest))) =
        if itemsDepth (Document.itemsJson (item :: items)) ≤ n then
          .ok (Document.itemsJson (item :: items), rest) else .error .tooDeep := by
  induction items with
  | nil =>
    intro item bound rest hreads hbound
    obtain ⟨bound, rfl⟩ := Nat.exists_eq_add_of_lt hbound
    have hitem := hreads item (by simp) (']' :: rest)
    by_cases hdepth : item.json.depth ≤ n
    · simp [readItems, hitem, hdepth, nextItem_close, itemsDepth, Document.itemsJson, bind,
        Except.bind]
    · simp [readItems, hitem, hdepth, itemsDepth, Document.itemsJson, bind, Except.bind]
  | cons next items ih =>
    intro item bound rest hreads hbound
    obtain ⟨bound, rfl⟩ : ∃ b, bound = b + 1 := ⟨bound - 1, by omega⟩
    have hitem := hreads item (by simp)
      (',' :: (next.text ++ (items.flatMap (fun d => ',' :: d.text) ++ ']' :: rest)))
    have hnext := ih next bound rest (fun d hd => hreads d (List.mem_cons_of_mem _ hd))
      (by simp at hbound; omega)
    have hjson : Document.itemsJson (item :: next :: items) =
        item.json :: Document.itemsJson (next :: items) := rfl
    rw [List.flatMap_cons, List.cons_append, List.cons_append, List.append_assoc, readItems, hitem, hjson]
    by_cases hdepth : item.json.depth ≤ n
    · rw [if_pos hdepth]
      simp only [bind, Except.bind, nextItem_comma, hnext]
      by_cases hrest : itemsDepth (Document.itemsJson (next :: items)) ≤ n
      · rw [if_pos hrest, if_pos (itemsDepth_cons_le.mpr ⟨hdepth, hrest⟩)]
      · rw [if_neg hrest, if_neg fun h => hrest (itemsDepth_cons_le.mp h).2]
    · rw [if_neg hdepth, if_neg fun h => hdepth (itemsDepth_cons_le.mp h).1]
      rfl

/-! ### Members -/

theorem nextMember_comma (key : String) (cs : List Char) :
    nextMember (',' :: ((encodeText key).toList ++ cs)) =
      .ok (.more (key.toList.flatMap encodeChar ++ '"' :: cs)) := by
  simp [toList_encodeText, nextMember, skipGap, isGap]

theorem nextMember_close (cs : List Char) : nextMember ('}' :: cs) = .ok (.closed cs) := by
  simp [nextMember, skipGap, isGap]

theorem skipColon_cons (cs : List Char) : skipColon (':' :: cs) = .ok cs := by
  simp [skipColon, skipGap, isGap]

@[simp] theorem mapError_ok {α ε δ : Type} (f : ε → δ) (a : α) :
    (Except.ok a : Except ε α).mapError f = .ok a :=
  rfl

@[simp] theorem mapError_error {α ε δ : Type} (f : ε → δ) (fault : ε) :
    (Except.error fault : Except ε α).mapError f = .error (f fault) :=
  rfl

theorem foldMembers_more {σ ε : Type} (malformed : TextFault → ε)
    (step : σ → String → List Char → Except ε (σ × List Char)) (bound : Nat) (state : σ)
    (key : String) (cs : List Char) :
    foldMembers malformed step (bound + 1) state
        (.more (key.toList.flatMap encodeChar ++ '"' :: cs)) =
      (step state key cs).bind fun (state, cs) =>
        ((nextMember cs).mapError malformed).bind fun follow =>
          foldMembers malformed step bound state follow := by
  rw [foldMembers, readString_encodeText]
  rfl

/-- The step that reads the members of an object to depth `n`. -/
def memberStep (n : Nat) (members : List (String × Json)) (key : String) (cs : List Char) :
    Except TextFault (List (String × Json) × List Char) := do
  let cs ← skipColon cs
  let (value, rest) ← readValue n cs
  .ok (members ++ [(key, value)], rest)

theorem memberStep_text {n : Nat} {value : Document} (hreads : Reads n value)
    (members : List (String × Json)) (key : String) (rest : List Char) :
    memberStep n members key (':' :: (value.text ++ rest)) =
      if value.json.depth ≤ n then .ok (members ++ [(key, value.json)], rest) else .error .tooDeep := by
  have hvalue := hreads rest
  by_cases hdepth : value.json.depth ≤ n
  · simp [memberStep, skipColon_cons, hvalue, hdepth, bind, Except.bind]
  · simp [memberStep, skipColon_cons, hvalue, hdepth, bind, Except.bind]

/-- The text of a member without its opening quote, which the reader has taken already. -/
def memberTail (member : String × Document) : List Char :=
  member.1.toList.flatMap encodeChar ++ '"' :: ':' :: member.2.text

/-- The text of a member behind a comma. -/
def commaMember (member : String × Document) : List Char :=
  ',' :: ((encodeText member.1).toList ++ ':' :: member.2.text)

theorem foldMembers_text (n : Nat) (members : List (String × Document)) :
    ∀ (member : String × Document) (bound : Nat) (found : List (String × Json)) (rest : List Char),
      (∀ m ∈ member :: members, Reads n m.2) → members.length < bound →
      foldMembers id (memberStep n) bound found
          (.more (memberTail member ++ (members.flatMap commaMember ++ '}' :: rest))) =
        if membersDepth (Document.membersJson (member :: members)) ≤ n then
          .ok (found ++ Document.membersJson (member :: members), rest) else .error .tooDeep := by
  induction members with
  | nil =>
    rintro ⟨key, value⟩ bound found rest hreads hbound
    obtain ⟨bound, rfl⟩ : ∃ b, bound = b + 1 := ⟨bound - 1, by omega⟩
    have hstep := memberStep_text (hreads (key, value) (by simp)) found key ('}' :: rest)
    simp only [memberTail, List.flatMap_nil, List.nil_append, List.append_assoc, List.cons_append]
    rw [foldMembers_more, hstep]
    by_cases hdepth : value.json.depth ≤ n
    · simp [hdepth, Except.bind, nextMember_close, foldMembers,
        membersDepth, Document.membersJson]
    · simp [hdepth, Except.bind, membersDepth, Document.membersJson]
  | cons next members ih =>
    rintro ⟨key, value⟩ bound found rest hreads hbound
    obtain ⟨bound, rfl⟩ : ∃ b, bound = b + 1 := ⟨bound - 1, by omega⟩
    have hnext := ih next bound (found ++ [(key, value.json)]) rest
      (fun m hm => hreads m (List.mem_cons_of_mem _ hm)) (by simp at hbound; omega)
    have hstep := memberStep_text (hreads (key, value) (by simp)) found key
      (commaMember next ++ (members.flatMap commaMember ++ '}' :: rest))
    have hcomma : nextMember (commaMember next ++ (members.flatMap commaMember ++ '}' :: rest)) =
        .ok (.more (memberTail next ++ (members.flatMap commaMember ++ '}' :: rest))) := by
      simpa [commaMember, memberTail] using
        nextMember_comma next.1 (':' :: (next.2.text ++ (members.flatMap commaMember ++ '}' :: rest)))
    have hjson : Document.membersJson ((key, value) :: next :: members) =
        (key, value.json) :: Document.membersJson (next :: members) := rfl
    rw [memberTail, List.flatMap_cons, List.append_assoc, List.append_assoc, List.cons_append,
      List.cons_append, foldMembers_more, hstep, hjson]
    by_cases hdepth : value.json.depth ≤ n
    · rw [if_pos hdepth]
      simp only [Except.bind, hcomma, mapError_ok]
      rw [hnext]
      by_cases hrest : membersDepth (Document.membersJson (next :: members)) ≤ n
      · rw [if_pos hrest, if_pos (membersDepth_cons_le.mpr ⟨hdepth, hrest⟩),
          List.append_assoc]
        rfl
      · rw [if_neg hrest, if_neg fun h => hrest (membersDepth_cons_le.mp h).2]
    · rw [if_neg hdepth, if_neg fun h => hdepth (membersDepth_cons_le.mp h).1]
      rfl

/-! ### Whole documents -/

theorem text_list_cons (item : Document) (items : List Document) (rest : List Char) :
    (Document.list (item :: items)).text ++ rest =
      '[' :: (item.text ++ (items.flatMap (fun d => ',' :: d.text) ++ ']' :: rest)) := by
  rw [Document.text, Document.itemTexts, intercalate_comma_cons, Document.itemTexts_eq_map]
  simp [List.flatMap_map]

theorem text_object_cons (member : String × Document) (members : List (String × Document))
    (rest : List Char) :
    (Document.object (member :: members)).text ++ rest =
      '{' :: '"' :: (memberTail member ++ (members.flatMap commaMember ++ '}' :: rest)) := by
  rw [Document.text, Document.memberTexts, intercalate_comma_cons, Document.memberTexts_eq_map,
    List.flatMap_map]
  change _ :: (_ ++ members.flatMap commaMember ++ _) ++ _ = _
  simp [memberTail, toList_encodeText]

theorem length_le_length_flatMap {α : Type} (f : α → List Char) (hf : ∀ a, f a ≠ [])
    (as : List α) : as.length ≤ (as.flatMap f).length := by
  induction as with
  | nil => simp
  | cons a as ih =>
    have hpos := List.length_pos_iff.mpr (hf a)
    rw [List.flatMap_cons, List.length_append, List.length_cons]
    omega

theorem reads_list {n : Nat} {items : List Document} (hitems : ∀ item ∈ items, Reads n item) :
    Reads (n + 1) (.list items) := by
  intro rest
  cases items with
  | nil =>
    have hfirst : firstItem (']' :: rest) = .ok (.closed rest) := by
      simp [firstItem, skipGap, isGap]
    change readValue (n + 1) ('[' :: ']' :: rest) = _
    rw [readValue, readWith_list, hfirst]
    simp [bind, Except.bind, readItems, depth, itemsDepth, Document.json,
      Document.itemsJson]
  | cons item items =>
    -- every item takes room, so the length of the text bounds how many there are
    have hroom := length_le_length_flatMap (fun d : Document => ',' :: d.text) (by simp) items
    have hread := readItems_text n items item
      ((item.text ++ (items.flatMap (fun d => ',' :: d.text) ++ ']' :: rest)).length + 1) rest hitems
      (by simp only [List.length_append, List.length_cons]; omega)
    rw [text_list_cons, readValue, readWith_list, firstItem_text]
    simp only [bind, Except.bind, hread, Document.json, depth, Nat.add_le_add_iff_right]
    by_cases hdepth : itemsDepth (Document.itemsJson (item :: items)) ≤ n
    · rw [if_pos hdepth, if_pos hdepth]
    · rw [if_neg hdepth, if_neg hdepth]

theorem reads_object {n : Nat} {members : List (String × Document)}
    (hmembers : ∀ member ∈ members, Reads n member.2) : Reads (n + 1) (.object members) := by
  intro rest
  cases members with
  | nil =>
    have hfirst : firstMember ('}' :: rest) = .ok (.closed rest) := by
      simp [firstMember, skipGap, isGap]
    change readValue (n + 1) ('{' :: '}' :: rest) = _
    rw [readValue, readWith_object, hfirst]
    simp [bind, Except.bind, foldMembers, depth, membersDepth, Document.json,
      Document.membersJson]
  | cons member members =>
    have hroom := length_le_length_flatMap commaMember (by simp [commaMember]) members
    have hfirst : firstMember
        ('"' :: (memberTail member ++ (members.flatMap commaMember ++ '}' :: rest))) =
        .ok (.more (memberTail member ++ (members.flatMap commaMember ++ '}' :: rest))) := by
      simp [firstMember, skipGap, isGap]
    have hread := foldMembers_text n members member
      (('"' :: (memberTail member ++ (members.flatMap commaMember ++ '}' :: rest))).length + 1) []
      rest hmembers (by simp only [List.length_append, List.length_cons]; omega)
    rw [text_object_cons, readValue, readWith_object, hfirst]
    change Except.bind (foldMembers id (memberStep n) _ [] _) _ = _
    rw [hread]
    simp only [Except.bind, Document.json, depth, Nat.add_le_add_iff_right, List.nil_append]
    by_cases hdepth : membersDepth (Document.membersJson (member :: members)) ≤ n
    · rw [if_pos hdepth, if_pos hdepth]
    · rw [if_neg hdepth, if_neg hdepth]

/-- **Written documents are read back**, up to the depth of the reader. -/
theorem readValue_text (document : Document) (n : Nat) : Reads n document := by
  induction document using Document.parts_induction generalizing n with
  | string s =>
    intro rest
    cases n <;> rw [readValue, readWith_string] <;> simp [depth, Document.json]
  | list items ih =>
    cases n with
    | zero =>
      intro rest
      rw [Document.text, List.cons_append, readValue, readWith_list]
      simp [depth, Document.json]
    | succ n => exact reads_list fun item hitem => ih item hitem n
  | object members ih =>
    cases n with
    | zero =>
      intro rest
      rw [Document.text, List.cons_append, readValue, readWith_object]
      simp [depth, Document.json]
    | succ n => exact reads_object fun member hmember => ih member hmember n

end Scratchpad.Json
