import Scratchpad.Proofs.Value.Pruned

/-!
# Levels of showing

A value is shown the same at all levels below the top (`sameBelowTop`), and at the top too unless it is an
object with a text of its own (`format_zero`), as long as there is room for its reach. The bound is exact:
for each level there is a value that reaches one level too far and is shown as at no other level, because
what lies there is taken to be at the top (`exists_format_ne`).
-/

namespace Scratchpad.Value

theorem formatItems_eq_map (items : List Value) (level : UInt64) :
    formatItems items level = items.map (·.format level) := by
  induction items with
  | nil => rfl
  | cons item items ih => rw [formatItems, ih, List.map_cons]

theorem formatMembers_eq_map (members : List (String × Value)) (level : UInt64) :
    formatMembers members level =
      members.map fun member => member.1 ++ "=" ++ member.2.format level := by
  induction members with
  | nil => rfl
  | cons member members ih => rw [formatMembers, ih, List.map_cons]

theorem reach_lt_reachItems {item : Value} {items : List Value} (hitem : item ∈ items) :
    item.reach < reachItems items := by
  induction hitem with
  | head items => exact Nat.lt_of_succ_le (Nat.le_max_left _ _)
  | tail first _ ih => exact Nat.lt_of_lt_of_le ih (Nat.le_max_right _ _)

theorem reach_lt_reachMembers {member : String × Value} {members : List (String × Value)}
    (hmember : member ∈ members) : member.2.reach < reachMembers members := by
  induction hmember with
  | head members => exact Nat.lt_of_succ_le (Nat.le_max_left _ _)
  | tail first _ ih => exact Nat.lt_of_lt_of_le ih (Nat.le_max_right _ _)

/-! ## The same value at two levels -/

/-- An object that has a text of its own. -/
def HasOwnText : Value → Prop
  | .composite typeName display _ => display ≠ typeName
  | _ => False

/-- The value is shown the same at all levels below the top that leave room for its reach. -/
def SameBelowTop (value : Value) : Prop :=
  ∀ a b : UInt64, a ≠ 0 → b ≠ 0 → a.toNat + value.reach < UInt64.size →
    b.toNat + value.reach < UInt64.size → value.format a = value.format b

theorem SameBelowTop.next {value : Value} (hvalue : value.SameBelowTop) {a b : UInt64} {reach : Nat}
    (hreach : value.reach < reach) (ha : a.toNat + reach < UInt64.size)
    (hb : b.toNat + reach < UInt64.size) :
    value.format (a + 1) = value.format (b + 1) := by
  obtain ⟨hnext, hroom⟩ := level_succ (by omega : a.toNat + (value.reach + 1) < UInt64.size)
  obtain ⟨hnext', hroom'⟩ := level_succ (by omega : b.toNat + (value.reach + 1) < UInt64.size)
  exact hvalue (a + 1) (b + 1) hnext hnext' hroom hroom'

theorem formatItems_of_room {items : List Value} (hitems : ∀ item ∈ items, item.SameBelowTop)
    {a b : UInt64} (ha : a.toNat + reachItems items < UInt64.size)
    (hb : b.toNat + reachItems items < UInt64.size) :
    formatItems items (a + 1) = formatItems items (b + 1) := by
  rw [formatItems_eq_map, formatItems_eq_map]
  refine List.map_congr_left fun item hitem => ?_
  exact (hitems item hitem).next (reach_lt_reachItems hitem) ha hb

theorem formatMembers_of_room {members : List (String × Value)}
    (hmembers : ∀ member ∈ members, member.2.SameBelowTop) {a b : UInt64}
    (ha : a.toNat + reachMembers members < UInt64.size)
    (hb : b.toNat + reachMembers members < UInt64.size) :
    formatMembers members (a + 1) = formatMembers members (b + 1) := by
  rw [formatMembers_eq_map, formatMembers_eq_map]
  refine List.map_congr_left fun member hmember => ?_
  rw [(hmembers member hmember).next (reach_lt_reachMembers hmember) ha hb]

theorem sameBelowTop (value : Value) : value.SameBelowTop := by
  induction value using parts_induction with
  | null => exact fun _ _ _ _ _ _ => rfl
  | sequence typeName items ih =>
    intro a b _ _ hroom hroom'
    rw [format, format, formatItems_of_room ih hroom hroom']
  | text content => exact fun _ _ _ _ _ _ => rfl
  | composite typeName display members ih =>
    intro a b ha hb hroom hroom'
    by_cases hown : display = typeName
    · rw [reach, if_pos hown] at hroom hroom'
      rw [format_of_shown (Or.inl hown), format_of_shown (Or.inl hown),
        formatMembers_of_room ih hroom hroom']
    · rw [format_of_hidden hown ha, format_of_hidden hown hb]
  | primitive typeName shown => exact fun _ _ _ _ _ _ => rfl

theorem format_zero {value : Value} (hplain : ¬ value.HasOwnText)
    (hroom : 1 + value.reach < UInt64.size) : value.format 0 = value.format 1 := by
  have hroom₀ : (0 : UInt64).toNat + value.reach < UInt64.size := by
    rw [UInt64.toNat_zero]
    omega
  have hroom₁ : (1 : UInt64).toNat + value.reach < UInt64.size := hroom
  cases value with
  | sequence typeName items =>
    rw [format, format, formatItems_of_room (fun item _ => sameBelowTop item) hroom₀ hroom₁]
  | composite typeName display members =>
    have hsame : display = typeName := Decidable.of_not_not hplain
    rw [reach, if_pos hsame] at hroom₀ hroom₁
    rw [format_of_shown (Or.inl hsame), format_of_shown (Or.inl hsame),
      formatMembers_of_room (fun member _ => sameBelowTop member.2) hroom₀ hroom₁]
  | _ => rfl

/-! ## Without room -/

/-- The value inside so many lists, each with one item. -/
def nested : Nat → Value → Value
  | 0, value => value
  | depth + 1, value => .sequence "Object[]" [nested depth value]

theorem reach_nested (depth : Nat) (value : Value) :
    (nested depth value).reach = value.reach + depth := by
  induction depth with
  | zero => rfl
  | succ depth ih =>
    rw [nested, reach, reachItems, reachItems, ih]
    omega

theorem format_nested_eq_iff (depth : Nat) (value : Value) (a b : UInt64) :
    (nested depth value).format a = (nested depth value).format b ↔
      value.format (a + .ofNat depth) = value.format (b + .ofNat depth) := by
  induction depth generalizing a b with
  | zero =>
    have hzero : UInt64.ofNat 0 = 0 := rfl
    rw [nested, hzero, UInt64.add_zero, UInt64.add_zero]
  | succ depth ih =>
    have hstep (level : UInt64) : level + 1 + .ofNat depth = level + .ofNat (depth + 1) := by
      rw [UInt64.ofNat_add, UInt64.add_assoc, UInt64.add_comm 1]
      rfl
    have hitem (level : UInt64) :
        (nested (depth + 1) value).format level = "[" ++ (nested depth value).format (level + 1) ++ "]" := by
      rw [nested, format, formatItems, formatItems, String.intercalate_singleton]
    rw [hitem, hitem, String.append_left_inj, String.append_right_inj, ih, hstep, hstep]

/-- What lies just beyond the last level is shown as if it were at the top. -/
theorem exists_format_ne {level : UInt64} (hlevel : level ≠ 0) :
    ∃ value : Value, level.toNat + value.reach = UInt64.size ∧
      ∀ other, other ≠ level → value.format other ≠ value.format level := by
  have hbound := level.toNat_lt_size
  have hwrap : level + .ofNat (UInt64.size - level.toNat) = 0 := by
    have hpos : level.toNat ≠ 0 := fun hzero => hlevel (UInt64.toNat_inj.mp hzero)
    rw [← UInt64.toNat_inj, UInt64.toNat_add, UInt64.toNat_ofNat', UInt64.toNat_zero]
    unfold UInt64.size at hbound ⊢
    omega
  refine ⟨nested (UInt64.size - level.toNat) (.composite "Object" "own" []), ?_, ?_⟩
  · rw [reach_nested]
    change _ + (0 + _) = _
    omega
  · intro other hother hsame
    have hbelow : other + .ofNat (UInt64.size - level.toNat) ≠ 0 := by
      rw [← hwrap]
      exact fun h => hother ((UInt64.add_left_inj _).mp h)
    rw [format_nested_eq_iff, hwrap, format_of_hidden (by decide) hbelow,
      format_of_shown (Or.inr rfl)] at hsame
    exact absurd hsame (by decide)

/-- **The level matters only at the top, as long as levels are counted.** All levels below the top that
leave room for a value show it the same, and this bound is exact. The top shows the same as they do, unless
the value is an object with a text of its own. Then the top shows its members, each as it is shown below,
and every other level shows its text whatever the members are. So values that differ only in the members of
such objects below the top are shown alike. -/
theorem level_matters_at_top_while_counted (value : Value) :
    (∀ a b : UInt64, a ≠ 0 → b ≠ 0 → a.toNat + value.reach < UInt64.size →
        b.toNat + value.reach < UInt64.size → value.format a = value.format b) ∧
      (∀ a : UInt64, a ≠ 0 → ∃ far : Value, a.toNat + far.reach = UInt64.size ∧
        ∀ b, b ≠ a → far.format b ≠ far.format a) ∧
      (¬ value.HasOwnText → 1 + value.reach < UInt64.size → value.format 0 = value.format 1) ∧
      (∀ typeName display members, value = composite typeName display members → display ≠ typeName →
        value.format 0 = typeName ++ "(" ++ ", ".intercalate
            (members.map fun member => member.1 ++ "=" ++ member.2.format 1) ++ ")" ∧
          ∀ level, level ≠ 0 → value.format level = typeName ++ "(" ++ display ++ ")") ∧
      ∀ other : Value, AlikeBelow value other → value.reachFromTop < UInt64.size →
        value.format 0 = other.format 0 := by
  refine ⟨sameBelowTop value, fun a ha => exists_format_ne ha, format_zero, ?_,
    fun other halike => halike.format_eq⟩
  rintro typeName display members rfl hown
  refine ⟨?_, fun level hlevel => format_of_hidden hown hlevel members⟩
  rw [format_of_shown (Or.inr rfl), formatMembers_eq_map]
  rfl

/-- An object with a text of its own, in it a list with another one: the members of the inner one are
not shown at any level, those of the outer one at the top. An object without such a text is shown the same
at the top. -/
theorem level_matters_at_top_while_counted_nested :
    let inner (members : List (String × Value)) : Value := .composite "Point" "(1, 2)" members
    let outer (members : List (String × Value)) : Value :=
      .composite "Shape" "a shape" [("Corners", .sequence "Point[]" [inner members, .null])]
    let plain : Value := .composite "Frame" "Frame" [("Shape", outer [])]
    plain.format 3 = plain.format 18446744073709551614 ∧ plain.format 0 = plain.format 1 ∧
      (outer [("X", int 1)]).format 0 = "Shape(Corners=[Point((1, 2)), null])" ∧
      (outer [("X", int 1)]).format 7 = "Shape(a shape)" ∧
      (outer []).format 0 = (outer [("X", int 1)]).format 0 := by
  intro inner outer plain
  obtain ⟨hbelow, -, hplain, -, -⟩ := level_matters_at_top_while_counted plain
  obtain ⟨-, -, -, hown, halike⟩ := level_matters_at_top_while_counted (outer [("X", int 1)])
  obtain ⟨htop, hother⟩ := hown _ _ _ rfl (by decide)
  have hreach : plain.reach = 1 := by decide +kernel
  refine ⟨hbelow 3 _ (by decide) (by decide) (by rw [hreach]; decide) (by rw [hreach]; decide),
    hplain (fun h => h rfl) (by rw [hreach]; decide), ?_, hother 7 (by decide), ?_⟩
  · rw [htop]
    decide +kernel
  · refine (halike _ (.members (.cons (.sequence (.cons ?_ (.cons (.same .null) .nil))) .nil))
      (by decide +kernel)).symm
    exact .hidden (by decide) _ _

/-- At the last level, an object in a list is shown by its members and not by its own text. -/
theorem last_level_shows_members :
    let value : Value :=
      .sequence "Demo.Custom[]" [.composite "Demo.Custom" "custom!" [("Id", int 7)]]
    value.format 18446744073709551615 = "[Demo.Custom(Id=7)]" ∧
      value.format 1 = "[Demo.Custom(custom!)]" ∧
      ¬ ∀ (value : Value) (a b : UInt64), 1 ≤ a → 1 ≤ b → value.format a = value.format b := by
  intro value
  have hlast : value.format 18446744073709551615 = "[Demo.Custom(Id=7)]" := by decide +kernel
  have hfirst : value.format 1 = "[Demo.Custom(custom!)]" := by decide +kernel
  refine ⟨hlast, hfirst, fun hsame => ?_⟩
  have hequal := hsame value 18446744073709551615 1 (by decide) (by decide)
  rw [hlast, hfirst] at hequal
  exact absurd hequal (by decide)

end Scratchpad.Value
