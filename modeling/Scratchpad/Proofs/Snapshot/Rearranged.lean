import Mathlib.Data.List.Forall2
import Mathlib.Order.MinMax
import Scratchpad.Proofs.Snapshot.Places

/-!
# Snapshots with their members rearranged

A snapshot says the same when the members of its objects stand in another order, when members are added
that do not count where they stand, and when a composite value without members says so (`Rearranged`).
The relation goes along with the places of a snapshot, since the same name may count in one object and not
in another. At every place the same is found before and after (`Rearranged.read?_eq`, by induction on the
relation, one lemma per place for lists and one for objects), and nothing gets less deep
(`Rearranged.depth_le`). So texts of the two documents are decoded alike (`decode_rearranged`).
-/

namespace Scratchpad.Snapshot

open Json (Document Spells)

/-- `Rearranged place json json'`: the second value says at its place what the first one does, with the
members of objects in another order, with further members that do not count, and with the members of a
composite value given where there are none. -/
inductive Rearranged : Place → Json → Json → Prop
  | same (place : Place) (json : Json) : Rearranged place json json
  | array {place : Place} {items items' : List Json} (hlength : items.length = items'.length)
      (hitems : ∀ (i : Nat) (json json' : Json), items[i]? = some json → items'[i]? = some json' →
        Rearranged (place.at items i) json json') :
      Rearranged place (.array items) (.array items')
  | object {place : Place} {members renewed added members' : List (String × Json)}
      (hkeys : members.map Prod.fst = renewed.map Prod.fst)
      (hvalues : ∀ (i : Nat) (member member' : String × Json), members[i]? = some member →
        renewed[i]? = some member' → Rearranged (place.under members member.1) member.2 member'.2)
      (hadded : ∀ member ∈ added, place.under members member.1 = .ignored)
      (hperm : (added ++ renewed).Perm members') :
      Rearranged place (.object members) (.object members')
  | noMembers {members : List (String × Json)} {json : Json} (hkind : kindOf members = some .composite)
      (hnone : ∀ member ∈ members, member.1 ≠ "members")
      (hgiven : Rearranged .node (.object (members ++ [("members", .array [])])) json) :
      Rearranged .node (.object members) json
  | noMembersListed {tag type display json : Json} (hkind : Kind.ofJson tag = .ok .composite)
      (hgiven : Rearranged .node (.array [tag, type, display, .array []]) json) :
      Rearranged .node (.array [tag, type, display]) json

/-! ## Members -/

theorem Rearranged.of_added_perm {place : Place} {members added members' : List (String × Json)}
    (hadded : ∀ member ∈ added, place.under members member.1 = .ignored)
    (hperm : (added ++ members).Perm members') :
    Rearranged place (.object members) (.object members') := by
  refine .object rfl ?_ hadded hperm
  intro i member member' hmember hmember'
  rw [hmember] at hmember'
  cases hmember'
  exact .same _ _

/-- `Shuffled R ignored members members'`: up to their order, the second members are the first ones, with
other values that are related, and ignored ones. -/
inductive Shuffled (R : String → Json → Json → Prop) (ignored : String → Prop)
    (members members' : List (String × Json)) : Prop
  | mk {renewed added : List (String × Json)}
      (hrenewed : List.Forall₂ (fun m m' => m.1 = m'.1 ∧ R m.1 m.2 m'.2) members renewed)
      (hadded : ∀ m ∈ added, ignored m.1) (hperm : (added ++ renewed).Perm members')

section Shuffled

variable {σ : Type} {R : String → Json → Json → Prop} {ignored : String → Prop}
  {members members' : List (String × Json)}

theorem foldlM_perm {f : σ → String × Json → Option σ}
    (hswap : ∀ s m m', (f s m).bind (f · m') = (f s m').bind (f · m))
    (hperm : members.Perm members') (s : σ) : members.foldlM f s = members'.foldlM f s := by
  induction hperm generalizing s with
  | nil => rfl
  | cons m _ ih =>
    simp only [List.foldlM_cons]
    congr 1
    funext s
    exact ih s
  | swap m m' ms =>
    simp only [List.foldlM_cons]
    have hstep := congrArg (·.bind fun s => ms.foldlM f s) (hswap s m' m)
    simpa [Option.bind_assoc] using hstep
  | trans _ _ ih ih' => exact (ih s).trans (ih' s)

theorem foldlM_renewed {f : σ → String × Json → Option σ}
    (hsame : ∀ s key json json', R key json json' → f s (key, json) = f s (key, json'))
    (hrenewed : List.Forall₂ (fun m m' => m.1 = m'.1 ∧ R m.1 m.2 m'.2) members members') (s : σ) :
    members.foldlM f s = members'.foldlM f s := by
  induction hrenewed generalizing s with
  | nil => rfl
  | cons hm _ ih =>
    rename_i m m' ms ms' _
    obtain ⟨key, json⟩ := m
    obtain ⟨key', json'⟩ := m'
    obtain ⟨rfl, hR⟩ := hm
    simp only [List.foldlM_cons, hsame s key json json' hR]
    congr 1
    funext s
    exact ih s

theorem foldlM_added {f : σ → String × Json → Option σ} {added : List (String × Json)}
    (hadded : ∀ m ∈ added, ∀ s, f s m = some s) (s : σ) :
    (added ++ members).foldlM f s = members.foldlM f s := by
  induction added with
  | nil => rfl
  | cons m added ih =>
    rw [List.cons_append, List.foldlM_cons, hadded m (by simp)]
    exact ih fun m hm => hadded m (List.mem_cons_of_mem _ hm)

/-- A fold does not see how members are shuffled if its steps may be swapped, come to the same on related
values and do nothing on ignored members. -/
theorem Shuffled.foldlM_eq (h : Shuffled R ignored members members')
    {f : σ → String × Json → Option σ}
    (hswap : ∀ s m m', (f s m).bind (f · m') = (f s m').bind (f · m))
    (hsame : ∀ s key json json', R key json json' → f s (key, json) = f s (key, json'))
    (hignored : ∀ s key json, ignored key → f s (key, json) = some s) (s : σ) :
    members.foldlM f s = members'.foldlM f s := by
  obtain ⟨hrenewed, hadded, hperm⟩ := h
  rw [foldlM_renewed hsame hrenewed, ← foldlM_perm hswap hperm,
    foldlM_added fun m hm s => hignored s m.1 m.2 (hadded m hm)]

theorem Shuffled.readSole_eq {α : Type} {name : String} {read : Json → Except Fault α}
    (h : Shuffled R ignored members members') (hname : ¬ignored name)
    (hsame : ∀ json json', R name json json' → (read json).toOption = (read json').toOption) :
    (readSole name read members none).toOption = (readSole name read members' none).toOption := by
  rw [readSole_toOption, readSole_toOption, h.foldlM_eq (soleStep_swap name read)]
  · intro found key json json' hR
    by_cases hkey : key = name
    · subst hkey
      simp [soleStep, hsame json json' hR]
    · simp [soleStep, hkey]
  · intro found key json hkey
    have hne : key ≠ name := fun heq => hname (heq ▸ hkey)
    simp [soleStep, hne]

end Shuffled

theorem forall₂_of_getElem? {α β : Type} {R : α → β → Prop} {as : List α} {bs : List β}
    (hlength : as.length = bs.length)
    (h : ∀ (i : Nat) (a : α) (b : β), as[i]? = some a → bs[i]? = some b → R a b) :
    List.Forall₂ R as bs := by
  refine List.forall₂_iff_get.mpr ⟨hlength, fun i hi hi' => ?_⟩
  exact h i _ _ (by simp) (by simp)

/-! ## Objects -/

/-- `Alike place members members'`: the members of two objects at the same place, shuffled, with the same
found in their values. -/
def Alike (place : Place) (members members' : List (String × Json)) : Prop :=
  Shuffled
    (fun key json json' =>
      (place.under members key).read? json = (place.under members key).read? json')
    (fun key => place.under members key = .ignored) members members'

theorem Alike.readSole_eq {place : Place} {members members' : List (String × Json)}
    (h : Alike place members members') {name : String} (inner : Place)
    (read : Json → Except Fault inner.Found) (hunder : place.under members name = inner)
    (hinner : inner ≠ .ignored) (hread : ∀ json, inner.read? json = (read json).toOption) :
    (readSole name read members none).toOption = (readSole name read members' none).toOption := by
  subst hunder
  refine Shuffled.readSole_eq h hinner fun json json' hsame => ?_
  rw [← hread, ← hread]
  exact hsame

theorem Alike.outcome {members members' : List (String × Json)} (h : Alike .outcome members members') :
    Place.outcome.read? (.object members) = Place.outcome.read? (.object members') := by
  have htag : (readSole "status" Status.ofJson members none).toOption =
      (readSole "status" Status.ofJson members' none).toOption :=
    h.readSole_eq .status Status.ofJson rfl (by decide) fun json => rfl
  change (Outcome.ofJson (.object members)).toOption = (Outcome.ofJson (.object members')).toOption
  simp only [Outcome.ofJson, toOption_bind, ← htag]
  rcases hstatus : readSole "status" Status.ofJson members none with fault | status
  · rfl
  have hof := statusOf_of_readSole hstatus
  have hfield : Place.outcome.under members status.field = status.place := by
    cases status <;> simp [Place.under, hof, Status.field]
  simp only [toOption_ok, Option.bind_some]
  cases status with
  | ok =>
    have hvalue := h.readSole_eq .node readNode hfield (by decide) fun json => rfl
    simp only [Status.readNamed, toOption_map]
    exact congrArg (Option.map Outcome.returned) hvalue
  | fault =>
    have hcause := h.readSole_eq .text readText hfield (by decide) fun json => rfl
    simp only [Status.readNamed, toOption_map]
    exact congrArg (Option.map Outcome.threw) hcause

theorem Alike.member {members members' : List (String × Json)} (h : Alike .member members members') :
    Place.member.read? (.object members) = Place.member.read? (.object members') := by
  have hname : (readSole "name" readText members none).toOption =
      (readSole "name" readText members' none).toOption :=
    h.readSole_eq .text readText rfl (by decide) fun json => rfl
  have hvalue : (readSole "value" readNode members none).toOption =
      (readSole "value" readNode members' none).toOption :=
    h.readSole_eq .node readNode rfl (by decide) fun json => rfl
  change (readMember (.object members)).toOption = (readMember (.object members')).toOption
  rw [readMember, readMember, readMemberFields_toOption, readMemberFields_toOption, hname, hvalue]

theorem under_node {members : List (String × Json)} {kind : Kind} {key : String} {slot : Slot}
    (hkind : kindOf members = some kind) (hslot : kind.slot? key = some slot) :
    Place.node.under members key = slot.place := by
  have hkey : key ≠ "kind" := by
    rintro rfl
    rw [slot?_kind] at hslot
    cases hslot
  simp [Place.under, hkey, hkind, hslot]

theorem Slot.place_ne_ignored (slot : Slot) : slot.place ≠ .ignored := by
  cases slot <;> decide

theorem Alike.node {members members' : List (String × Json)} (h : Alike .node members members') :
    Place.node.read? (.object members) = Place.node.read? (.object members') := by
  have htag : (readSole "kind" Kind.ofJson members none).toOption =
      (readSole "kind" Kind.ofJson members' none).toOption :=
    h.readSole_eq .kind Kind.ofJson rfl (by decide) fun json => rfl
  change (readNode (.object members)).toOption = (readNode (.object members')).toOption
  simp only [readNode, toOption_bind, amongMembers_eq_readSole, ← htag, readNamed_toOption]
  rcases hkind : readSole "kind" Kind.ofJson members none with fault | kind
  · rfl
  have hof := kindOf_of_readSole hkind
  have hfields : members.foldlM (fieldStep kind) {} = members'.foldlM (fieldStep kind) {} := by
    refine Shuffled.foldlM_eq h (fieldStep_swap kind) ?_ ?_ {}
    · intro fields key json json' hsame
      cases hslot : kind.slot? key with
      | none => simp [fieldStep, hslot]
      | some slot =>
        rw [under_node hof hslot] at hsame
        simp [fieldStep, hslot, Fields.take, hsame]
    · intro fields key json hignored
      cases hslot : kind.slot? key with
      | none => simp [fieldStep, hslot]
      | some slot =>
        rw [under_node hof hslot] at hignored
        exact absurd hignored slot.place_ne_ignored
  simp only [toOption_ok, Option.bind_some, hfields]

theorem Alike.read?_eq {place : Place} {members members' : List (String × Json)}
    (h : Alike place members members') :
    place.read? (.object members) = place.read? (.object members') := by
  cases place with
  | outcome => exact h.outcome
  | node => exact h.node
  | member => exact h.member
  | _ => rfl

/-! ### Members left out -/

theorem Kind.name_of_slot? {kind : Kind} {key : String} {slot : Slot}
    (h : kind.slot? key = some slot) : slot.name = key := by
  have hname := List.find?_some h
  simpa using hname

theorem has_members_fieldStep {kind : Kind} {fields fields' : Fields} {member : String × Json}
    (hkey : member.1 ≠ "members") (h : fieldStep kind fields member = some fields') :
    fields'.has .members = fields.has .members := by
  unfold fieldStep at h
  cases hslot : kind.slot? member.1 with
  | none =>
    simp only [hslot, Option.some.injEq] at h
    rw [h]
  | some slot =>
    have hne : Slot.members ≠ slot := by
      rintro rfl
      exact hkey (Kind.name_of_slot? hslot).symm
    simp only [hslot, Fields.take] at h
    split_ifs at h
    obtain ⟨found, -, rfl⟩ := Option.map_eq_some_iff.mp h
    exact fields.has_put_of_ne found hne

theorem has_members_foldlM {kind : Kind} {members : List (String × Json)} {fields fields' : Fields}
    (hnone : ∀ member ∈ members, member.1 ≠ "members")
    (h : members.foldlM (fieldStep kind) fields = some fields') :
    fields'.has .members = fields.has .members := by
  induction members generalizing fields with
  | nil =>
    cases h
    rfl
  | cons member members ih =>
    rw [List.foldlM_cons] at h
    obtain ⟨middle, hmiddle, h⟩ := Option.bind_eq_some_iff.mp h
    rw [ih (fun m hm => hnone m (List.mem_cons_of_mem _ hm)) h,
      has_members_fieldStep (hnone member (by simp)) hmiddle]

theorem readNode_without_members {members : List (String × Json)}
    (hkind : kindOf members = some .composite) (hnone : ∀ member ∈ members, member.1 ≠ "members") :
    Place.node.read? (.object members) =
      Place.node.read? (.object (members ++ [("members", .array [])])) := by
  have htag : (readSole "kind" Kind.ofJson (members ++ [("members", .array [])]) none).toOption =
      (readSole "kind" Kind.ofJson members none).toOption := by
    simp [readSole_toOption, List.foldlM_append, soleStep]
  change (readNode _).toOption = (readNode _).toOption
  simp only [readNode, toOption_bind, amongMembers_eq_readSole, htag, readNamed_toOption,
    List.foldlM_append]
  rcases hread : readSole "kind" Kind.ofJson members none with fault | kind
  · rfl
  have hcomposite : kind = .composite := by
    have hof := kindOf_of_readSole hread
    rw [hkind] at hof
    exact (Option.some.inj hof).symm
  subst hcomposite
  simp only [toOption_ok, Option.bind_some]
  cases hfold : members.foldlM (fieldStep .composite) {} with
  | none => rfl
  | some fields =>
    have hhas : fields.members.isSome = false := has_members_foldlM hnone hfold
    have hmembers : fields.members = none := by simpa using hhas
    have hslot : Kind.composite.slot? "members" = some .members := by decide
    have htake : fields.take .members (.array []) = some { fields with members := some [] } := by
      rw [Fields.take, if_neg (by simp [Fields.has, hmembers])]
      rfl
    have hstep : [("members", Json.array [])].foldlM (fieldStep .composite) fields =
        some { fields with members := some [] } := by
      simp [fieldStep, hslot, htake]
    change _ = ([("members", Json.array [])].foldlM (fieldStep .composite) fields).bind _
    rw [hstep]
    simp [Fields.assemble, hmembers]

theorem readNode_listed_without_members {tag type display : Json}
    (hkind : Kind.ofJson tag = .ok .composite) :
    Place.node.read? (.array [tag, type, display]) =
      Place.node.read? (.array [tag, type, display, .array []]) := by
  change (readNode _).toOption = (readNode _).toOption
  simp only [readNode, toOption_bind, hkind, toOption_ok, Option.bind_some, Kind.slots, readPlaced,
    readSlot_toOption]
  cases Slot.type.place.read? type with
  | none => rfl
  | some s =>
    cases Slot.display.place.read? display with
    | none => rfl
    | some d => rfl

/-! ## Lists -/

/-- `AlikeItems place items items'`: the elements of two lists at the same place, with the same found in
them. -/
structure AlikeItems (place : Place) (items items' : List Json) : Prop where
  length_eq : items.length = items'.length
  elements : ∀ i json json', items[i]? = some json → items'[i]? = some json' →
    (place.at items i).read? json = (place.at items i).read? json'

theorem readNodeList_congr {items items' : List Json}
    (h : List.Forall₂ (fun json json' => (readNode json).toOption = (readNode json').toOption)
      items items') : (readNodeList items).toOption = (readNodeList items').toOption := by
  induction h with
  | nil => rfl
  | cons hjson _ ih => simp only [readNodeList, toOption_bind, hjson, ih]

theorem readMemberList_congr {items items' : List Json}
    (h : List.Forall₂ (fun json json' => (readMember json).toOption = (readMember json').toOption)
      items items') : (readMemberList items).toOption = (readMemberList items').toOption := by
  induction h with
  | nil => rfl
  | cons hjson _ ih => simp only [readMemberList, toOption_bind, hjson, ih]

theorem readPlaced_congr (slots : List Slot) :
    ∀ (values values' : List Json) (fields : Fields), values.length = values'.length →
      (∀ (i : Nat) (slot : Slot) (json json' : Json), slots[i]? = some slot →
        values[i]? = some json → values'[i]? = some json' →
        slot.place.read? json = slot.place.read? json') →
      (readPlaced slots values fields).toOption = (readPlaced slots values' fields).toOption := by
  induction slots with
  | nil =>
    intro values values' fields _ _
    simp [readPlaced]
  | cons slot slots ih =>
    intro values values' fields hlength h
    match values, values' with
    | [], [] => rfl
    | value :: values, value' :: values' =>
      have hfirst := h 0 slot value value' rfl rfl rfl
      have hrest (fields : Fields) := ih values values' fields (by simpa using hlength)
        fun i slot json json' hslot hjson hjson' => h (i + 1) slot json json' hslot hjson hjson'
      simp only [readPlaced, toOption_bind, readSlot_toOption, hfirst, hrest]

theorem isEmpty_congr {items items' : List Json} (hlength : items.length = items'.length) :
    items.isEmpty = items'.isEmpty := by
  rw [Bool.eq_iff_iff, List.isEmpty_iff_length_eq_zero, List.isEmpty_iff_length_eq_zero, hlength]

theorem readOnly_congr {α : Type} {shape : String} {read : Json → Except Fault α}
    {json json' : Json} {rest rest' : List Json} (hlength : rest.length = rest'.length)
    (hread : (read json).toOption = (read json').toOption) :
    (readOnly shape read (json :: rest)).toOption = (readOnly shape read (json' :: rest')).toOption := by
  simp only [readOnly, toOption_bind, hread, isEmpty_congr hlength, hlength]

theorem AlikeItems.outcome {items items' : List Json} (h : AlikeItems .outcome items items') :
    Place.outcome.read? (.array items) = Place.outcome.read? (.array items') := by
  obtain ⟨hlength, helements⟩ := h
  match items, items' with
  | [], [] => rfl
  | tag :: values, tag' :: values' =>
    have htag : (Status.ofJson tag).toOption = (Status.ofJson tag').toOption :=
      helements 0 tag tag' rfl rfl
    change (Outcome.ofJson _).toOption = (Outcome.ofJson _).toOption
    simp only [Outcome.ofJson, toOption_bind, ← htag]
    rcases hstatus : Status.ofJson tag with fault | status
    · rfl
    simp only [toOption_ok, Option.bind_some]
    rcases values with _ | ⟨value, rest⟩ <;> rcases values' with _ | ⟨value', rest'⟩
    · rfl
    · simp at hlength
    · simp at hlength
    · have hrest : rest.length = rest'.length := by simpa using hlength
      have hvalue := helements 1 value value' rfl rfl
      have hat : Place.outcome.at (tag :: value :: rest) 1 = status.place := by
        simp [Place.at, hstatus]
      rw [hat] at hvalue
      cases status with
      | ok =>
        simp only [Status.readPlaced, toOption_map]
        rw [readOnly_congr hrest hvalue]
      | fault =>
        simp only [Status.readPlaced, toOption_map]
        rw [readOnly_congr hrest hvalue]

theorem AlikeItems.node {items items' : List Json} (h : AlikeItems .node items items') :
    Place.node.read? (.array items) = Place.node.read? (.array items') := by
  obtain ⟨hlength, helements⟩ := h
  match items, items' with
  | [], [] => rfl
  | tag :: values, tag' :: values' =>
    have htag : (Kind.ofJson tag).toOption = (Kind.ofJson tag').toOption :=
      helements 0 tag tag' rfl rfl
    have hvalues : values.length = values'.length := by simpa using hlength
    change (readNode _).toOption = (readNode _).toOption
    simp only [readNode, toOption_bind, ← htag, ← hvalues]
    rcases hkind : Kind.ofJson tag with fault | kind
    · rfl
    have hplaced := readPlaced_congr kind.slots values values' {} hvalues
      fun i slot json json' hslot hjson hjson' => by
        have hsame := helements (i + 1) json json' hjson hjson'
        have hat : Place.node.at (tag :: values) (i + 1) = slot.place := by
          simp [Place.at, hkind, hslot]
        rwa [hat] at hsame
    simp only [toOption_ok, Option.bind_some, hplaced]

theorem AlikeItems.member {items items' : List Json} (h : AlikeItems .member items items') :
    Place.member.read? (.array items) = Place.member.read? (.array items') := by
  obtain ⟨hlength, helements⟩ := h
  change (readMember _).toOption = (readMember _).toOption
  match items, items' with
  | [], [] => rfl
  | [name], [name'] =>
    have hname : (readText name).toOption = (readText name').toOption :=
      helements 0 name name' rfl rfl
    simp only [readMember, toOption_bind, hname]
  | name :: value :: rest, name' :: value' :: rest' =>
    have hname : (readText name).toOption = (readText name').toOption :=
      helements 0 name name' rfl rfl
    have hvalue : (readNode value).toOption = (readNode value').toOption :=
      helements 1 value value' rfl rfl
    have hrest : rest.length = rest'.length := by simpa using hlength
    simp only [readMember, toOption_bind, hname, hvalue, isEmpty_congr hrest, hrest]

theorem AlikeItems.read?_eq {place : Place} {items items' : List Json}
    (h : AlikeItems place items items') :
    place.read? (.array items) = place.read? (.array items') := by
  cases place with
  | outcome => exact h.outcome
  | node => exact h.node
  | nodes => exact readNodeList_congr (forall₂_of_getElem? h.length_eq h.elements)
  | member => exact h.member
  | members => exact readMemberList_congr (forall₂_of_getElem? h.length_eq h.elements)
  | _ => rfl

/-! ## Documents -/

/-- **At every place the same is found** in a value and in the rearranged one. -/
theorem Rearranged.read?_eq {place : Place} {json json' : Json} (h : Rearranged place json json') :
    place.read? json = place.read? json' := by
  induction h with
  | same place json => rfl
  | array hlength _ ih => exact AlikeItems.read?_eq ⟨hlength, ih⟩
  | object hkeys _ hadded hperm ih =>
    rename_i place members renewed added members' hvalues
    refine Alike.read?_eq ⟨forall₂_of_getElem? ?_ ?_, hadded, hperm⟩
    · simpa using congrArg List.length hkeys
    · intro i m m' hm hm'
      have hkey : members[i]?.map Prod.fst = renewed[i]?.map Prod.fst := by
        rw [← List.getElem?_map, ← List.getElem?_map, hkeys]
      rw [hm, hm'] at hkey
      exact ⟨Option.some.inj hkey, ih i m m' hm hm'⟩
  | noMembers hkind hnone _ ih => exact (readNode_without_members hkind hnone).trans ih
  | noMembersListed hkind _ ih => exact (readNode_listed_without_members hkind).trans ih

theorem itemsDepth_mono {items items' : List Json}
    (h : List.Forall₂ (fun json json' => json.depth ≤ json'.depth) items items') :
    Json.itemsDepth items ≤ Json.itemsDepth items' := by
  induction h with
  | nil => exact le_rfl
  | cons hjson _ ih =>
    rw [Json.itemsDepth, Json.itemsDepth]
    exact max_le_max hjson ih

theorem membersDepth_mono {members members' : List (String × Json)}
    (h : List.Forall₂ (fun m m' => m.2.depth ≤ m'.2.depth) members members') :
    Json.membersDepth members ≤ Json.membersDepth members' := by
  induction h with
  | nil => exact le_rfl
  | cons hjson _ ih =>
    rw [Json.membersDepth, Json.membersDepth]
    exact max_le_max hjson ih

theorem membersDepth_subset {members members' : List (String × Json)} (h : members ⊆ members') :
    Json.membersDepth members ≤ Json.membersDepth members' :=
  Json.membersDepth_le_iff.mpr fun member hmember =>
    Json.membersDepth_le_iff.mp le_rfl member (h hmember)

theorem Rearranged.depth_le {place : Place} {json json' : Json} (h : Rearranged place json json') :
    json.depth ≤ json'.depth := by
  induction h with
  | same place json => exact le_rfl
  | array hlength _ ih =>
    rw [Json.depth, Json.depth, Nat.add_le_add_iff_right]
    exact itemsDepth_mono (forall₂_of_getElem? hlength ih)
  | object hkeys _ hadded hperm ih =>
    rename_i place members renewed added members' hvalues
    have hlength : members.length = renewed.length := by simpa using congrArg List.length hkeys
    have hrenewed : renewed ⊆ members' := fun m hm => hperm.subset (List.mem_append_right added hm)
    rw [Json.depth, Json.depth, Nat.add_le_add_iff_right]
    exact (membersDepth_mono (forall₂_of_getElem? hlength ih)).trans (membersDepth_subset hrenewed)
  | noMembers hkind hnone _ ih =>
    rename_i members json hgiven
    refine le_trans ?_ ih
    rw [Json.depth, Json.depth, Nat.add_le_add_iff_right]
    exact membersDepth_subset (List.subset_append_left members _)
  | noMembersListed hkind _ ih =>
    refine le_trans ?_ ih
    simp only [Json.depth, Json.itemsDepth]
    omega

/-! ## Texts -/

/-- Two reports agree, up to the words for a text that cannot be understood. -/
inductive SameReport : Except Failure Value → Except Failure Value → Prop
  | value (value : Value) : SameReport (.ok value) (.ok value)
  | thrown (cause : String) : SameReport (.error (.thrown cause)) (.error (.thrown cause))
  | unreadable (message message' : String) :
      SameReport (.error (.unreadable message)) (.error (.unreadable message'))

theorem sameReport_of_toOption {text text' : String}
    (h : (parse text).toOption = (parse text').toOption) : SameReport (decode text) (decode text') := by
  unfold decode
  rcases hparse : parse text with fault | outcome
  · rcases hparse' : parse text' with fault' | outcome'
    · exact .unreadable _ _
    · simp [hparse, hparse'] at h
  · rcases hparse' : parse text' with fault' | outcome'
    · simp [hparse, hparse'] at h
    · rw [hparse, hparse'] at h
      cases h
      cases outcome with
      | returned value => exact .value value
      | threw cause => exact .thrown cause

theorem SameReport.eq_ok {report report' : Except Failure Value} {value : Value}
    (h : SameReport report report') (hreport : report = .ok value) : report' = .ok value := by
  cases h with
  | value => exact hreport
  | thrown => cases hreport
  | unreadable => cases hreport

theorem decode_of_spells {text : String} {json : Json} {value : Value} (hjson : Spells text json)
    (hdepth : json.depth ≤ maxDepth) (h : Outcome.ofJson json = .ok (.returned value)) :
    decode text = .ok value := by
  have hparse : (parse text).toOption = some (.returned value) := by
    rw [parse_toOption, Json.document?_of_spells hjson, if_pos hdepth, Option.bind_some, h]
    rfl
  unfold decode
  rcases hresult : parse text with fault | outcome
  · simp [hresult] at hparse
  · rw [hresult] at hparse
    cases hparse
    rfl

/-- **Decoding depends on the members that count, and not on their order.** -/
theorem decode_rearranged {text text' : String} {json json' : Json} (hjson : Spells text json)
    (hjson' : Spells text' json') (h : Rearranged .outcome json json')
    (hdepth : json.depth ≤ maxDepth → json'.depth ≤ maxDepth) :
    SameReport (decode text) (decode text') := by
  apply sameReport_of_toOption
  have hfound : (Outcome.ofJson json).toOption = (Outcome.ofJson json').toOption := h.read?_eq
  have hsame : json'.depth ≤ maxDepth ↔ json.depth ≤ maxDepth := ⟨h.depth_le.trans, hdepth⟩
  rw [parse_toOption, parse_toOption, Json.document?_of_spells hjson, Json.document?_of_spells hjson']
  by_cases hfits : json.depth ≤ maxDepth
  · simp [hsame, hfits, hfound]
  · simp [hsame, hfits]

/-- The status comes after the value it is about, the kind after the fields it governs, the members are given
instead of left out, and two members stand where they do not count: one of them would in another outcome. -/
theorem decode_rearranged_composite :
    decode (String.ofList (Document.object [("status", .string "ok"),
        ("value", .object [("kind", .string "composite"), ("type", .string "T"),
          ("display", .string "d")])]).text) = .ok (.composite "T" "d" []) ∧
      decode (String.ofList (Document.object [
        ("value", .object [("members", .list []), ("display", .string "d"), ("type", .string "T"),
          ("kind", .string "composite"), ("note", .list [.string "n"])]),
        ("status", .string "ok"), ("cause", .string "c")]).text) = .ok (.composite "T" "d" []) := by
  refine (and_iff_left_of_imp fun hfirst =>
    (decode_rearranged (Json.spells_text _) (Json.spells_text _) ?_ ?_).eq_ok hfirst).mpr ?_
  · simp only [Document.json, Document.membersJson, Document.itemsJson]
    refine @Rearranged.object .outcome _ [("status", .string "ok"), ("value", _)]
      [("cause", .string "c")] _ ?_ ?_ ?_ (List.reverse_perm _).symm
    · rfl
    · intro i member member' hmember hmember'
      rcases i with _ | _ | i
      · cases hmember
        cases hmember'
        exact .same _ _
      · cases hmember
        cases hmember'
        refine .noMembers (by decide) (by decide) ?_
        refine @Rearranged.of_added_perm .node _ [("note", .array [.string "n"])] _ ?_
          (List.reverse_perm _).symm
        intro member hmember
        cases List.mem_singleton.mp hmember
        decide
      · cases hmember
    · intro member hmember
      cases List.mem_singleton.mp hmember
      decide
  · simp only [Document.json, Document.membersJson, Document.itemsJson]
    decide
  · refine decode_of_spells (Json.spells_text _) ?_ ?_
    · simp only [Document.json, Document.membersJson]
      decide
    · cbv

end Scratchpad.Snapshot
