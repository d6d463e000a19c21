import Mathlib.Data.List.TakeWhile
import Scratchpad.LineEdit
import Scratchpad.Proofs.Text.Ends
import Scratchpad.Proofs.Text.Numeral

/-!
# Edits of a program

An edit changes the text at its own number and at no other (`get?_apply`), and keeps the numbers in
ascending order (`ascending_apply`), so each number occurs once. A line whose first character other
than a blank is a digit cannot name a negative number, so the numbers of edits are those from `0` to
`2147483647` (`ofLine?_number`).
-/

namespace Scratchpad

namespace Program

/-! ## Texts at numbers -/

theorem lookup_line (m n : Int) (t : String) (rest : List (Int × String)) :
    ((m, t) :: rest).lookup n = if n = m then some t else rest.lookup n := by
  by_cases hn : n = m
  · simp [hn]
  · simp [List.lookup_cons, hn, beq_eq_false_iff_ne.mpr hn]

theorem lookup_insertLine (number n : Int) (text : String) (lines : List (Int × String)) :
    (insertLine number text lines).lookup n =
      if n = number then some text else lines.lookup n := by
  induction lines with
  | nil => exact lookup_line number n text []
  | cons line rest ih =>
    obtain ⟨m, t⟩ := line
    rw [insertLine]
    split
    · exact lookup_line number n text _
    · split
      · rename_i hsame
        subst hsame
        rw [lookup_line, lookup_line]
        split <;> rfl
      · rw [lookup_line, lookup_line, ih]
        grind

theorem lookup_filter_ne (number n : Int) (lines : List (Int × String)) :
    (lines.filter (·.1 != number)).lookup n = if n = number then none else lines.lookup n := by
  induction lines with
  | nil => simp
  | cons line rest ih =>
    obtain ⟨m, t⟩ := line
    rw [List.filter_cons]
    split
    · rename_i hkept
      have hm : m ≠ number := by simpa using hkept
      rw [lookup_line, lookup_line, ih]
      grind
    · rename_i hdropped
      have hm : m = number := by simpa using hdropped
      rw [ih, lookup_line, hm]
      split <;> rfl

/-! ## The order of the numbers -/

/-- The numbers ascend, so none occurs twice. -/
def Ascending (program : Program) : Prop :=
  program.lines.Pairwise (·.1 < ·.1)

theorem ascending_empty : ({} : Program).Ascending :=
  .nil

theorem mem_insertLine {number : Int} {text : String} {line : Int × String}
    {lines : List (Int × String)} (hline : line ∈ insertLine number text lines) :
    line.1 = number ∨ line ∈ lines := by
  induction lines with
  | nil =>
    rw [insertLine, List.mem_singleton] at hline
    exact Or.inl (by rw [hline])
  | cons first rest ih =>
    obtain ⟨m, t⟩ := first
    rw [insertLine] at hline
    split at hline
    · rcases List.mem_cons.mp hline with rfl | hmem
      · exact Or.inl rfl
      · exact Or.inr hmem
    · split at hline
      · rcases List.mem_cons.mp hline with rfl | hmem
        · exact Or.inl rfl
        · exact Or.inr (List.mem_cons_of_mem _ hmem)
      · rcases List.mem_cons.mp hline with rfl | hmem
        · exact Or.inr List.mem_cons_self
        · exact (ih hmem).imp_right (List.mem_cons_of_mem _)

theorem pairwise_insertLine (number : Int) (text : String) {lines : List (Int × String)}
    (hlines : lines.Pairwise (·.1 < ·.1)) :
    (insertLine number text lines).Pairwise (·.1 < ·.1) := by
  induction lines with
  | nil => exact List.pairwise_singleton _ _
  | cons first rest ih =>
    obtain ⟨m, t⟩ := first
    obtain ⟨hfirst, hrest⟩ := List.pairwise_cons.mp hlines
    rw [insertLine]
    split
    · rename_i hless
      refine List.pairwise_cons.mpr ⟨fun line hline => ?_, hlines⟩
      rcases List.mem_cons.mp hline with rfl | hmem
      · exact hless
      · exact Int.lt_trans hless (hfirst line hmem)
    · rename_i hnotLess
      split
      · rename_i hsame
        subst hsame
        exact List.pairwise_cons.mpr ⟨hfirst, hrest⟩
      · rename_i hne
        refine List.pairwise_cons.mpr ⟨fun line hline => ?_, ih hrest⟩
        rcases mem_insertLine hline with hnumber | hmem
        · rw [hnumber]
          omega
        · exact hfirst line hmem

theorem Ascending.mem_lines_iff {program : Program} (hascending : program.Ascending) (n : Int)
    (text : String) : (n, text) ∈ program.lines ↔ program.get? n = some text := by
  rw [get?]
  rw [Ascending] at hascending
  generalize program.lines = lines at hascending
  induction lines with
  | nil => simp
  | cons first rest ih =>
    obtain ⟨m, t⟩ := first
    obtain ⟨hfirst, hrest⟩ := List.pairwise_cons.mp hascending
    rw [List.mem_cons, ih hrest, lookup_line]
    by_cases hn : n = m
    · subst hn
      -- the number is used up by the first line, so the rest has none of it
      have habsent : rest.lookup n = none := by
        rw [List.lookup_eq_none_iff]
        intro line hline
        have := hfirst line hline
        simp only [bne_iff_ne] at *
        omega
      simp [habsent, eq_comm]
    · simp [hn]

end Program

namespace LineEdit

/-! ## Edits -/

theorem get?_apply (edit : LineEdit) (program : Program) (n : Int) :
    (edit.apply program).get? n = if n = edit.number then edit.text else program.get? n := by
  obtain ⟨number, text⟩ := edit
  cases text with
  | none => exact Program.lookup_filter_ne number n program.lines
  | some text => exact Program.lookup_insertLine number n text program.lines

theorem ascending_apply (edit : LineEdit) {program : Program} (hprogram : program.Ascending) :
    (edit.apply program).Ascending := by
  obtain ⟨number, text⟩ := edit
  cases text with
  | none => exact List.Pairwise.filter _ hprogram
  | some text => exact Program.pairwise_insertLine number text hprogram

/-! ## The lines that edit -/

/-- The edit that a line makes, if it makes one. -/
def ofLine? (line : String) : Option LineEdit :=
  if LineEdit.applies line then (LineEdit.parse line).toOption else none

theorem applies_of_isBlankText {line : String} (hblank : Text.isBlankText line = true) :
    LineEdit.applies line = false := by
  have hnil : line.toList.dropWhile Text.isBlank = [] := by
    rw [List.dropWhile_eq_nil_iff]
    simpa [Text.isBlankText] using hblank
  rw [applies, Text.toList_trimStart, hnil]

end LineEdit

theorem Text.isBlank_of_isDigit {c : Char} (hdigit : c.isDigit = true) : isBlank c = false := by
  obtain ⟨hlow, hhigh⟩ := toNat_of_isDigit hdigit
  simp only [isBlank, Bool.or_eq_false_iff, Bool.and_eq_false_iff, decide_eq_false_iff_not,
    beq_eq_false_iff_ne]
  omega

theorem Text.readInt32?_of_isDigit {s : String} {c : Char} {cs : List Char} {n : Int}
    (hs : s.toList = c :: cs) (hdigit : c.isDigit = true) (hread : readInt32? s = some n) :
    0 ≤ n ∧ n ≤ 2147483647 := by
  obtain ⟨k, rfl, hk, -⟩ := (readInt32?_eq_some_iff hs hdigit).mp hread
  omega

namespace LineEdit

theorem split_of_applies {line : String} (happlies : applies line = true) :
    ∃ c cs, (split line).1.toList = c :: cs ∧ c.isDigit = true := by
  rw [applies] at happlies
  cases hrest : (Text.trimStart line).toList with
  | nil => simp [hrest] at happlies
  | cons c cs =>
    rw [hrest] at happlies
    have hspace : c ≠ ' ' := by rintro rfl; simp at happlies
    rw [split]
    cases hsplit : Text.splitFirst? ' ' (Text.trimStart line) with
    | none =>
      refine ⟨c, Text.dropEndWhile Text.isBlank cs, ?_, happlies⟩
      rw [Text.toList_trimEnd, hrest,
        Text.dropEndWhile_cons (Text.isBlank_of_isDigit happlies)]
    | some parts =>
      refine ⟨c, cs.takeWhile (· != ' '), ?_, happlies⟩
      rw [Text.splitFirst?, hrest] at hsplit
      split at hsplit
      · cases hsplit
      · obtain rfl := Option.some.inj hsplit
        simp [hspace]

/-- **The numbers of edits.** -/
theorem ofLine?_number {line : String} {edit : LineEdit} (hedit : ofLine? line = some edit) :
    0 ≤ edit.number ∧ edit.number ≤ 2147483647 := by
  rw [ofLine?] at hedit
  split at hedit
  · rename_i happlies
    obtain ⟨c, cs, htoken, hdigit⟩ := split_of_applies happlies
    -- the equation of `parse` is slow to derive, for its message
    delta parse at hedit
    dsimp only at hedit
    cases hread : Text.readInt32? (split line).1 with
    | none => simp [hread, Except.toOption] at hedit
    | some number =>
      rw [hread] at hedit
      obtain rfl := Option.some.inj hedit
      exact Text.readInt32?_of_isDigit htoken hdigit hread
  · cases hedit

example : ofLine? " 007  x" = some ⟨7, some " x"⟩ := by decide +kernel

end LineEdit

end Scratchpad
