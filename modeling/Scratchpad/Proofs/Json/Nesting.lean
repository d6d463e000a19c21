import Scratchpad.Proofs.Json.Document

/-!
# How deep a text is nested

`nesting` counts the brackets of a text from the left, outside its strings, and gives the greatest
number of lists and objects that are open at once. It knows nothing of the reader. On the text of
a document it is the depth of its value (`nestingFrom_text`), so what the reader can take is a
property of the text alone.
-/

namespace Scratchpad.Json

open Snapshot (encodeChar encodeText hex4)

/-- Where a scan of a text stands. -/
inductive Spot where
  /-- Outside all strings. -/
  | outside
  /-- Inside a string. -/
  | inside
  /-- Inside a string, after a backslash. -/
  | escaped

def Spot.next : Spot → Char → Spot
  | .outside, c => if c = '"' then .inside else .outside
  | .inside, c => if c = '"' then .outside else if c = '\\' then .escaped else .inside
  | .escaped, _ => .inside

/-- How many lists and objects are open after a character. -/
def Spot.count : Spot → Char → Nat → Nat
  | .outside, c, opened =>
    if c = '[' ∨ c = '{' then opened + 1 else if c = ']' ∨ c = '}' then opened - 1 else opened
  | .inside, _, opened | .escaped, _, opened => opened

/-- The greatest number of lists and objects that are open at once, given how many are open at the
start of the text. -/
def nestingFrom : Spot → Nat → List Char → Nat
  | _, opened, [] => opened
  | spot, opened, c :: cs => max opened (nestingFrom (spot.next c) (spot.count c opened) cs)

/-- How deep lists and objects are nested in a text. -/
def nesting (text : String) : Nat :=
  nestingFrom .outside 0 text.toList

theorem le_nestingFrom (spot : Spot) (opened : Nat) (cs : List Char) :
    opened ≤ nestingFrom spot opened cs := by
  cases cs with
  | nil => exact Nat.le_refl opened
  | cons c cs => exact Nat.le_max_left _ _

/-! ## Strings -/

theorem nestingFrom_inside {c : Char} (hquote : c ≠ '"') (hslash : c ≠ '\\') (opened : Nat)
    (cs : List Char) : nestingFrom .inside opened (c :: cs) = nestingFrom .inside opened cs := by
  rw [nestingFrom, Spot.next, if_neg hquote, if_neg hslash, Spot.count]
  exact Nat.max_eq_right (le_nestingFrom _ _ _)

theorem nestingFrom_escape (c : Char) (opened : Nat) (cs : List Char) :
    nestingFrom .inside opened ('\\' :: c :: cs) = nestingFrom .inside opened cs := by
  have hle := le_nestingFrom .inside opened cs
  simp [nestingFrom, Spot.next, Spot.count, hle]

theorem digitChar_plain : ∀ d < 16, Nat.digitChar d ≠ '"' ∧ Nat.digitChar d ≠ '\\' := by
  decide

theorem nestingFrom_hex4 (n opened : Nat) (cs : List Char) :
    nestingFrom .inside opened (hex4 n ++ cs) = nestingFrom .inside opened cs := by
  have hdigit (m : Nat) (ds : List Char) :
      nestingFrom .inside opened (Nat.digitChar (m % 16) :: ds) = nestingFrom .inside opened ds := by
    obtain ⟨hquote, hslash⟩ := digitChar_plain (m % 16) (Nat.mod_lt _ (by decide))
    exact nestingFrom_inside hquote hslash opened ds
  simp only [hex4, List.map_cons, List.map_nil, List.cons_append, List.nil_append, hdigit]

theorem nestingFrom_encodeChar (c : Char) (opened : Nat) (cs : List Char) :
    nestingFrom .inside opened (encodeChar c ++ cs) = nestingFrom .inside opened cs := by
  by_cases hquote : c = '"'
  · subst hquote
    exact nestingFrom_escape '"' opened cs
  by_cases hslash : c = '\\'
  · subst hslash
    exact nestingFrom_escape '\\' opened cs
  by_cases hcontrol : c.toNat < 0x20
  · simp [encodeChar, hquote, hslash, hcontrol, nestingFrom_escape, nestingFrom_hex4]
  · simp [encodeChar, hquote, hslash, hcontrol, nestingFrom_inside hquote hslash]

theorem nestingFrom_encodeText (s : String) (opened : Nat) (cs : List Char) :
    nestingFrom .outside opened ((encodeText s).toList ++ cs) = nestingFrom .outside opened cs := by
  have hle := le_nestingFrom .outside opened cs
  have hchars : ∀ chars : List Char,
      nestingFrom .inside opened (chars.flatMap encodeChar ++ '"' :: cs) =
        nestingFrom .outside opened cs := by
    intro chars
    induction chars with
    | nil => simp [nestingFrom, Spot.next, Spot.count, hle]
    | cons c chars ih => rw [List.flatMap_cons, List.append_assoc, nestingFrom_encodeChar, ih]
  rw [toList_encodeText]
  simp [nestingFrom, Spot.next, Spot.count, hchars, hle]

/-! ## Documents -/

theorem nestingFrom_mark {c : Char} (hc : c = ',' ∨ c = ':') (opened : Nat) (cs : List Char) :
    nestingFrom .outside opened (c :: cs) = nestingFrom .outside opened cs := by
  have hle := le_nestingFrom .outside opened cs
  rcases hc with rfl | rfl <;> simp [nestingFrom, Spot.next, Spot.count, hle]

theorem nestingFrom_open {c : Char} (hc : c = '[' ∨ c = '{') (opened : Nat) (cs : List Char) :
    nestingFrom .outside opened (c :: cs) = nestingFrom .outside (opened + 1) cs := by
  have hle := le_nestingFrom .outside (opened + 1) cs
  rcases hc with rfl | rfl <;> simp [nestingFrom, Spot.next, Spot.count] <;> omega

theorem nestingFrom_close {c : Char} (hc : c = ']' ∨ c = '}') (opened : Nat) (cs : List Char) :
    nestingFrom .outside (opened + 1) (c :: cs) =
      max (opened + 1) (nestingFrom .outside opened cs) := by
  rcases hc with rfl | rfl <;> simp [nestingFrom, Spot.next, Spot.count]

/-- `Nests document`: in any text, the document reaches its depth above what is open around it. -/
def Nests (document : Document) : Prop :=
  ∀ opened rest, nestingFrom .outside opened (document.text ++ rest) =
    max (opened + document.json.depth) (nestingFrom .outside opened rest)

theorem nestingFrom_items {items : List Document} (hitems : ∀ item ∈ items, Nests item)
    (opened : Nat) (rest : List Char) :
    nestingFrom .outside opened (items.flatMap (fun d => ',' :: d.text) ++ rest) =
      max (opened + itemsDepth (Document.itemsJson items)) (nestingFrom .outside opened rest) := by
  have hle := le_nestingFrom .outside opened rest
  induction items with
  | nil => simp [Document.itemsJson, itemsDepth, hle]
  | cons item items ih =>
    rw [List.flatMap_cons, List.cons_append, List.cons_append, List.append_assoc,
      nestingFrom_mark (Or.inl rfl), hitems item (by simp),
      ih fun d hd => hitems d (List.mem_cons_of_mem _ hd), Document.itemsJson, itemsDepth]
    omega

theorem nestingFrom_members {members : List (String × Document)}
    (hmembers : ∀ member ∈ members, Nests member.2) (opened : Nat) (rest : List Char) :
    nestingFrom .outside opened (members.flatMap commaMember ++ rest) =
      max (opened + membersDepth (Document.membersJson members)) (nestingFrom .outside opened rest) := by
  have hle := le_nestingFrom .outside opened rest
  induction members with
  | nil => simp [Document.membersJson, membersDepth, hle]
  | cons member members ih =>
    rw [List.flatMap_cons, commaMember, List.append_assoc, List.cons_append, List.append_assoc,
      List.cons_append, nestingFrom_mark (Or.inl rfl), nestingFrom_encodeText,
      nestingFrom_mark (Or.inr rfl), hmembers member (by simp),
      ih fun m hm => hmembers m (List.mem_cons_of_mem _ hm), Document.membersJson, membersDepth]
    omega

theorem nestingFrom_text (document : Document) : Nests document := by
  induction document using Document.parts_induction with
  | string s =>
    intro opened rest
    have hle := le_nestingFrom .outside opened rest
    rw [Document.text, nestingFrom_encodeText, Document.json, depth]
    omega
  | list items ih =>
    intro opened rest
    cases items with
    | nil =>
      change nestingFrom .outside opened ('[' :: ']' :: rest) = _
      rw [nestingFrom_open (Or.inl rfl), nestingFrom_close (Or.inl rfl)]
      rfl
    | cons item items =>
      rw [text_list_cons, nestingFrom_open (Or.inl rfl), ih item (by simp),
        nestingFrom_items fun d hd => ih d (List.mem_cons_of_mem _ hd),
        nestingFrom_close (Or.inl rfl), Document.json, depth, Document.itemsJson, itemsDepth]
      omega
  | object members ih =>
    intro opened rest
    cases members with
    | nil =>
      change nestingFrom .outside opened ('{' :: '}' :: rest) = _
      rw [nestingFrom_open (Or.inr rfl), nestingFrom_close (Or.inr rfl)]
      rfl
    | cons member members =>
      have hkey : ('"' :: (memberTail member ++ (members.flatMap commaMember ++ '}' :: rest))) =
          (encodeText member.1).toList ++
            ':' :: (member.2.text ++ (members.flatMap commaMember ++ '}' :: rest)) := by
        simp [memberTail, toList_encodeText]
      rw [text_object_cons, hkey, nestingFrom_open (Or.inr rfl), nestingFrom_encodeText,
        nestingFrom_mark (Or.inr rfl), ih member (by simp),
        nestingFrom_members fun m hm => ih m (List.mem_cons_of_mem _ hm),
        nestingFrom_close (Or.inr rfl), Document.json, depth, Document.membersJson, membersDepth]
      omega

theorem nesting_text (document : Document) :
    nesting (String.ofList document.text) = document.json.depth := by
  have htext := nestingFrom_text document 0 []
  simpa [nesting, nestingFrom] using htext

example : nesting "[\"[[\\\"[\",[]]" = 2 := by decide +kernel

end Scratchpad.Json
