import Scratchpad.Value.Display

/-!
# What of a value is shown

Below the top, an object with a text of its own is shown by that text, so its members are not looked
at. Values that differ in such members only are `Alike`, and are shown the same (`Alike.format_eq`) as
long as the levels are counted: `reach` is how far down a value is shown, and there is room for it if its
level and its reach are together below `UInt64.size`. At the top this is `AlikeBelow.format_eq`.

`bare` leaves out the members of all objects with a text of their own, `pruned` only of those below the
top. Both are said without levels. Pruning changes nothing that is shown (`format_pruned`).
-/

namespace Scratchpad.Value

@[elab_as_elim]
theorem parts_induction {P : Value → Prop} (null : P .null)
    (sequence : ∀ typeName items, (∀ item ∈ items, P item) → P (.sequence typeName items))
    (text : ∀ content, P (.text content))
    (composite : ∀ typeName display members, (∀ member ∈ members, P member.2) →
      P (.composite typeName display members))
    (primitive : ∀ typeName shown, P (.primitive typeName shown)) (value : Value) : P value := by
  refine @Value.rec P (fun items => ∀ item ∈ items, P item)
    (fun members => ∀ member ∈ members, P member.2) (fun member => P member.2)
    null sequence text composite primitive ?_ ?_ ?_ ?_ ?_ value
  · intro item hitem
    cases hitem
  · intro item items hitem hitems
    exact List.forall_mem_cons.mpr ⟨hitem, hitems⟩
  · intro member hmember
    cases hmember
  · intro member members hmember hmembers
    exact List.forall_mem_cons.mpr ⟨hmember, hmembers⟩
  · intro name value hvalue
    exact hvalue

/-! ## How far down a value is shown -/

mutual

/-- How many levels below its own a value is shown, if its own is not the top. -/
def reach : Value → Nat
  | .null | .text _ | .primitive _ _ => 0
  | .sequence _ items => reachItems items
  | .composite typeName display members => if display = typeName then reachMembers members else 0

def reachItems : List Value → Nat
  | [] => 0
  | item :: items => max (item.reach + 1) (reachItems items)

def reachMembers : List (String × Value) → Nat
  | [] => 0
  | (_, value) :: members => max (value.reach + 1) (reachMembers members)

end

/-- How many levels below the top a value is shown that stands there. -/
def reachFromTop : Value → Nat
  | .composite _ _ members => reachMembers members
  | value => value.reach

theorem level_succ {level : UInt64} {n : Nat} (hroom : level.toNat + (n + 1) < UInt64.size) :
    level + 1 ≠ 0 ∧ (level + 1).toNat + n < UInt64.size := by
  unfold UInt64.size at hroom ⊢
  have hnext : (level + 1).toNat = level.toNat + 1 := by
    rw [UInt64.toNat_add, UInt64.toNat_one, Nat.mod_eq_of_lt (by omega)]
  refine ⟨fun hzero => ?_, by omega⟩
  rw [hzero, UInt64.toNat_zero] at hnext
  omega

theorem format_of_shown {typeName display : String} {level : UInt64}
    (hshown : display = typeName ∨ level = 0) (members : List (String × Value)) :
    (composite typeName display members).format level =
      typeName ++ "(" ++ ", ".intercalate (formatMembers members (level + 1)) ++ ")" := by
  rw [format, if_pos hshown]

theorem format_of_hidden {typeName display : String} {level : UInt64} (hown : display ≠ typeName)
    (hlevel : level ≠ 0) (members : List (String × Value)) :
    (composite typeName display members).format level = typeName ++ "(" ++ display ++ ")" := by
  rw [format, if_neg (not_or.mpr ⟨hown, hlevel⟩)]

/-! ## Values that differ in what is not shown -/

mutual

/-- Values that differ at most in the members of objects with a text of their own. -/
inductive Alike : Value → Value → Prop
  | same (value : Value) : Alike value value
  | sequence {typeName : String} {items others : List Value} (hitems : AlikeItems items others) :
      Alike (.sequence typeName items) (.sequence typeName others)
  | members {typeName display : String} {members others : List (String × Value)}
      (hmembers : AlikeMembers members others) :
      Alike (.composite typeName display members) (.composite typeName display others)
  | hidden {typeName display : String} (hown : display ≠ typeName)
      (members others : List (String × Value)) :
      Alike (.composite typeName display members) (.composite typeName display others)

inductive AlikeItems : List Value → List Value → Prop
  | nil : AlikeItems [] []
  | cons {item other : Value} {items others : List Value} (hitem : Alike item other)
      (hitems : AlikeItems items others) : AlikeItems (item :: items) (other :: others)

inductive AlikeMembers : List (String × Value) → List (String × Value) → Prop
  | nil : AlikeMembers [] []
  | cons {name : String} {value other : Value} {members others : List (String × Value)}
      (hvalue : Alike value other) (hmembers : AlikeMembers members others) :
      AlikeMembers ((name, value) :: members) ((name, other) :: others)

end

/-- Values that differ at most in the members of objects with a text of their own that lie below the
top. -/
inductive AlikeBelow : Value → Value → Prop
  | same (value : Value) : AlikeBelow value value
  | sequence {typeName : String} {items others : List Value} (hitems : AlikeItems items others) :
      AlikeBelow (.sequence typeName items) (.sequence typeName others)
  | members {typeName display : String} {members others : List (String × Value)}
      (hmembers : AlikeMembers members others) :
      AlikeBelow (.composite typeName display members) (.composite typeName display others)

mutual

theorem Alike.format_eq {value other : Value} {level : UInt64} (halike : Alike value other)
    (hlevel : level ≠ 0) (hroom : level.toNat + value.reach < UInt64.size) :
    value.format level = other.format level := by
  cases halike with
  | same => rfl
  | sequence hitems =>
    rw [reach] at hroom
    rw [format, format, hitems.formatItems_eq hroom]
  | @members typeName display members others hmembers =>
    by_cases hown : display = typeName
    · rw [reach, if_pos hown] at hroom
      rw [format, format, hmembers.formatMembers_eq hroom]
    · rw [format_of_hidden hown hlevel, format_of_hidden hown hlevel]
  | hidden hown => rw [format_of_hidden hown hlevel, format_of_hidden hown hlevel]

theorem AlikeItems.formatItems_eq {items others : List Value} {level : UInt64}
    (hitems : AlikeItems items others) (hroom : level.toNat + reachItems items < UInt64.size) :
    formatItems items (level + 1) = formatItems others (level + 1) := by
  cases hitems with
  | nil => rfl
  | @cons item other items others hitem hitems =>
    rw [reachItems] at hroom
    obtain ⟨hlevel, hbelow⟩ := level_succ (by omega : level.toNat + (item.reach + 1) < UInt64.size)
    rw [formatItems, formatItems, hitem.format_eq hlevel hbelow, hitems.formatItems_eq (by omega)]

theorem AlikeMembers.formatMembers_eq {members others : List (String × Value)} {level : UInt64}
    (hmembers : AlikeMembers members others)
    (hroom : level.toNat + reachMembers members < UInt64.size) :
    formatMembers members (level + 1) = formatMembers others (level + 1) := by
  cases hmembers with
  | nil => rfl
  | @cons name value other members others hvalue hmembers =>
    rw [reachMembers] at hroom
    obtain ⟨hlevel, hbelow⟩ := level_succ (by omega : level.toNat + (value.reach + 1) < UInt64.size)
    rw [formatMembers, formatMembers, hvalue.format_eq hlevel hbelow,
      hmembers.formatMembers_eq (by omega)]

end

theorem AlikeBelow.format_eq {value other : Value} (halike : AlikeBelow value other)
    (hroom : value.reachFromTop < UInt64.size) : value.format 0 = other.format 0 := by
  have htop : (0 : UInt64).toNat + value.reachFromTop < UInt64.size := by simpa using hroom
  cases halike with
  | same => rfl
  | sequence hitems => rw [format, format, hitems.formatItems_eq htop]
  | members hmembers =>
    rw [format_of_shown (Or.inr rfl), format_of_shown (Or.inr rfl), hmembers.formatMembers_eq htop]

/-! ## Pruning -/

mutual

/-- The value without the members of any object that has a text of its own. -/
def bare : Value → Value
  | .null => .null
  | .sequence typeName items => .sequence typeName (bareItems items)
  | .text content => .text content
  | .composite typeName display members =>
    .composite typeName display (if display = typeName then bareMembers members else [])
  | .primitive typeName shown => .primitive typeName shown

def bareItems : List Value → List Value
  | [] => []
  | item :: items => item.bare :: bareItems items

def bareMembers : List (String × Value) → List (String × Value)
  | [] => []
  | (name, value) :: members => (name, value.bare) :: bareMembers members

end

/-- The value without the members of those objects with a text of their own that lie below the top.
An object at the top keeps its members. -/
def pruned : Value → Value
  | .composite typeName display members => .composite typeName display (bareMembers members)
  | value => value.bare

theorem alikeItems_bareItems {items : List Value} (hitems : ∀ item ∈ items, Alike item item.bare) :
    AlikeItems items (bareItems items) := by
  induction items with
  | nil => exact .nil
  | cons item items ih =>
    obtain ⟨hitem, hitems⟩ := List.forall_mem_cons.mp hitems
    exact .cons hitem (ih hitems)

theorem alikeMembers_bareMembers {members : List (String × Value)}
    (hmembers : ∀ member ∈ members, Alike member.2 member.2.bare) :
    AlikeMembers members (bareMembers members) := by
  induction members with
  | nil => exact .nil
  | cons member members ih =>
    obtain ⟨hmember, hmembers⟩ := List.forall_mem_cons.mp hmembers
    exact .cons hmember (ih hmembers)

theorem alike_bare (value : Value) : Alike value value.bare := by
  induction value using parts_induction with
  | null => exact .same _
  | sequence typeName items ih => exact .sequence (alikeItems_bareItems ih)
  | text content => exact .same _
  | composite typeName display members ih =>
    rw [bare]
    by_cases hown : display = typeName
    · rw [if_pos hown]
      exact .members (alikeMembers_bareMembers ih)
    · exact .hidden hown _ _
  | primitive typeName shown => exact .same _

theorem alikeBelow_pruned (value : Value) : AlikeBelow value value.pruned := by
  cases value with
  | sequence typeName items => exact .sequence (alikeItems_bareItems fun item _ => alike_bare item)
  | composite typeName display members =>
    exact .members (alikeMembers_bareMembers fun member _ => alike_bare member.2)
  | _ => exact .same _

theorem format_pruned {value : Value} (hroom : value.reachFromTop < UInt64.size) :
    value.pruned.format 0 = value.format 0 :=
  ((alikeBelow_pruned value).format_eq hroom).symm

end Scratchpad.Value
