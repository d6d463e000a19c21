import Scratchpad.Proofs.Console.Step
import Scratchpad.Proofs.Text.Ends

/-!
# Commands over several lines

A line that ends in a continuation mark is added to the draft, and the marks are cut off at both ends of
the whole draft each time. Nevertheless the draft is a function of the lines alone: each of them without the
marks at its end, one after the other, and the result without the marks at its start (`joined`). Adding one
more line agrees with that (`joined_concat`) because a draft never has a mark at either end, which is
the invariant of every sequence of lines and resets (`Drafting.clear_foldl`).
-/

namespace Scratchpad

open Text (ClearStart ClearEnd)

/-! ## The text of several lines -/

def isMark (c : Char) : Bool :=
  c == continuationMark

def dropMarksStart (s : String) : String :=
  String.ofList (s.toList.dropWhile isMark)

def dropMarksEnd (s : String) : String :=
  String.ofList (Text.dropEndWhile isMark s.toList)

/-- What lines that go on come to. Blank lines count for nothing. -/
def joined (lines : List String) : String :=
  dropMarksStart (String.join ((lines.filter fun line => !Text.isBlankText line).map dropMarksEnd))

theorem toList_stripContinuation (s : String) :
    (stripContinuation s).toList = Text.dropEndWhile isMark (s.toList.dropWhile isMark) := by
  unfold stripContinuation Text.trimChar
  rw [String.toList_ofList]
  rfl

theorem stripContinuation_clear (s : String) :
    ClearStart isMark (stripContinuation s) ∧ ClearEnd isMark (stripContinuation s) := by
  constructor
  · intro c hc
    rw [toList_stripContinuation, Text.dropEndWhile_dropWhile] at hc
    exact Text.head?_dropWhile hc
  · unfold ClearEnd
    rw [← Text.dropEndWhile_eq_self, toList_stripContinuation, Text.dropEndWhile_idem]

theorem dropEndWhile_join (lines : List String) :
    Text.dropEndWhile isMark (String.join (lines.map dropMarksEnd)).toList =
      (String.join (lines.map dropMarksEnd)).toList := by
  induction lines using List.reverseRecOn with
  | nil => rfl
  | append_singleton lines line ih =>
    rw [List.map_append, String.join_append, String.toList_append, Text.dropEndWhile_append ih]
    simp [dropMarksEnd, Text.dropEndWhile_idem]

theorem joined_concat_blank (lines : List String) {line : String}
    (hblank : Text.isBlankText line = true) : joined (lines ++ [line]) = joined lines := by
  simp [joined, hblank]

theorem joined_concat (lines : List String) {line : String}
    (hblank : Text.isBlankText line = false) :
    joined (lines ++ [line]) = stripContinuation (joined lines ++ line) := by
  rw [← String.toList_inj, toList_stripContinuation, String.toList_append]
  unfold joined dropMarksStart
  have hfilter : (lines ++ [line]).filter (fun line => !Text.isBlankText line) =
      lines.filter (fun line => !Text.isBlankText line) ++ [line] := by
    simp [hblank]
  have hclear := dropEndWhile_join (lines.filter fun line => !Text.isBlankText line)
  rw [hfilter, List.map_append, String.join_append]
  generalize String.join ((lines.filter fun line => !Text.isBlankText line).map dropMarksEnd) =
    whole at hclear
  calc (String.ofList ((whole ++ String.join ([line].map dropMarksEnd)).toList.dropWhile
          isMark)).toList
      = (whole.toList ++ Text.dropEndWhile isMark line.toList).dropWhile isMark := by
        simp [dropMarksEnd]
    _ = (Text.dropEndWhile isMark (whole.toList ++ line.toList)).dropWhile isMark := by
        rw [Text.dropEndWhile_append hclear]
    _ = Text.dropEndWhile isMark ((whole.toList.dropWhile isMark ++ line.toList).dropWhile
          isMark) := by
        rw [Text.dropWhile_dropWhile_append, Text.dropEndWhile_dropWhile]
    _ = _ := by rw [String.toList_ofList]

/-! ## Lines and what they mean -/

structure GoesOn (line : String) : Prop where
  noEdit : LineEdit.applies line = false
  marked : Text.endsWithChar continuationMark line = true

structure Completes (line : String) : Prop where
  notBlank : Text.isBlankText line = false
  noEdit : LineEdit.applies line = false
  unmarked : Text.endsWithChar continuationMark line = false

instance (line : String) : Decidable (GoesOn line) :=
  decidable_of_iff (LineEdit.applies line = false ∧ Text.endsWithChar continuationMark line = true)
    ⟨fun h => ⟨h.1, h.2⟩, fun h => ⟨h.noEdit, h.marked⟩⟩

instance (line : String) : Decidable (Completes line) :=
  decidable_of_iff (Text.isBlankText line = false ∧ LineEdit.applies line = false ∧
      Text.endsWithChar continuationMark line = false)
    ⟨fun h => ⟨h.1, h.2.1, h.2.2⟩, fun h => ⟨h.notBlank, h.noEdit, h.unmarked⟩⟩

theorem GoesOn.notBlank {line : String} (hgoes : GoesOn line) :
    Text.isBlankText line = false := by
  have hlast : line.toList.getLast? = some continuationMark := by
    simpa [Text.endsWithChar] using hgoes.marked
  rw [Bool.eq_false_iff]
  intro hblank
  have hall : ∀ c ∈ line.toList, Text.isBlank c = true := by simpa [Text.isBlankText] using hblank
  have hmark := hall continuationMark (List.mem_of_getLast? hlast)
  revert hmark
  decide

theorem Intake.ofLine_blank {line : String} (hblank : Text.isBlankText line = true)
    (draft : String) : Intake.ofLine draft line = .ignored := by
  rw [ofLine, if_pos hblank]

theorem Intake.ofLine_goesOn {line : String} (hgoes : GoesOn line) (draft : String) :
    Intake.ofLine draft line = .continued (stripContinuation (draft ++ line)) := by
  simp [ofLine, hgoes.notBlank, hgoes.noEdit, hgoes.marked]

theorem Intake.ofLine_completes {line : String} (hcompletes : Completes line) (draft : String) :
    Intake.ofLine draft line = .command (draft ++ line) := by
  simp [ofLine, hcompletes.notBlank, hcompletes.noEdit, hcompletes.unmarked]

/-! ## Feeding lines -/

/-- A desk with the text of an unfinished command. -/
structure Drafting (E : Engine) where
  desk : Desk E
  draft : String := ""

namespace Drafting

variable {E : Engine}

/-- Feeds a line, with the replies to answer a question from. -/
def feed (site : Site) (line : String) (answers : List Reply) (drafting : Drafting E) :
    Except Failure Unit × List Reply × Drafting E :=
  let fed := drafting.desk.feed site drafting.draft line
  let settled := Desk.settle site answers fed.2
  (settled.1, settled.2.1, { desk := settled.2.2, draft := fed.1 })

def feedAll (site : Site) : List String → List Reply → Drafting E →
    List (Except Failure Unit) × List Reply × Drafting E
  | [], answers, drafting => ([], answers, drafting)
  | line :: lines, answers, drafting =>
    let fed := drafting.feed site line answers
    let others := feedAll site lines fed.2.1 fed.2.2
    (fed.1 :: others.1, others.2)

theorem feedAll_append (site : Site) (lines more : List String) (answers : List Reply)
    (drafting : Drafting E) :
    feedAll site (lines ++ more) answers drafting =
      let fed := feedAll site lines answers drafting
      let others := feedAll site more fed.2.1 fed.2.2
      (fed.1 ++ others.1, others.2) := by
  induction lines generalizing answers drafting with
  | nil => rfl
  | cons line lines ih =>
    rw [List.cons_append, feedAll, feedAll, ih]
    rfl

theorem feed_blank {line : String} (hblank : Text.isBlankText line = true) (site : Site)
    (answers : List Reply) (drafting : Drafting E) :
    drafting.feed site line answers = (.ok (), answers, drafting) := by
  rw [feed, Desk.feed, Intake.ofLine_blank hblank]
  rfl

theorem feed_goesOn {line : String} (hgoes : GoesOn line) (site : Site) (answers : List Reply)
    (drafting : Drafting E) :
    drafting.feed site line answers =
      (.ok (), answers,
        { drafting with draft := stripContinuation (drafting.draft ++ line) }) := by
  rw [feed, Desk.feed, Intake.ofLine_goesOn hgoes]
  rfl

theorem feed_completes {line : String} (hcompletes : Completes line) (site : Site)
    (answers : List Reply) (drafting : Drafting E) :
    drafting.feed site line answers =
      let carried := drafting.desk.carryOut site (.parse (drafting.draft ++ line)) answers
      (carried.1, carried.2.1, { desk := carried.2.2 }) := by
  rw [feed, Desk.feed_command (Intake.ofLine_completes hcompletes drafting.draft), Desk.carryOut]

/-- Lines that go on, and blank ones among them, change nothing but the draft. -/
theorem feedAll_joined (site : Site) (desk : Desk E) (answers : List Reply) {lines : List String}
    (hlines : ∀ line ∈ lines, Text.isBlankText line = true ∨ GoesOn line) (before : List String) :
    feedAll site lines answers { desk, draft := joined before } =
      (lines.map fun _ => .ok (), answers, { desk, draft := joined (before ++ lines) }) := by
  induction lines generalizing before with
  | nil => rw [feedAll, List.append_nil, List.map_nil]
  | cons line lines ih =>
    have hrest := ih (fun l hl => hlines l (List.mem_cons_of_mem _ hl)) (before ++ [line])
    have hfeed : feed site line answers { desk, draft := joined before } =
        (.ok (), answers, { desk, draft := joined (before ++ [line]) }) := by
      rcases hlines line List.mem_cons_self with hblank | hgoes
      · rw [feed_blank hblank, joined_concat_blank before hblank]
      · rw [feed_goesOn hgoes, joined_concat before hgoes.notBlank]
    rw [feedAll, hfeed]
    dsimp only
    rw [hrest, List.append_assoc]
    rfl

/-! ## Drafts at any time -/

/-- A line that is fed, with the replies at hand, or a reset. -/
inductive Entry where
  | line (text : String) (answers : List Reply)
  | reset

def enter (site : Site) (drafting : Drafting E) : Entry → Drafting E
  | .line text answers => (drafting.feed site text answers).2.2
  | .reset => { drafting with draft := "" }

theorem draft_feed (site : Site) (line : String) (answers : List Reply) (drafting : Drafting E) :
    (drafting.feed site line answers).2.2.draft =
      match Intake.ofLine drafting.draft line with
      | .ignored => drafting.draft
      | .continued draft => draft
      | _ => "" := by
  change (drafting.desk.feed site drafting.draft line).1 = _
  rw [Desk.feed]
  cases Intake.ofLine drafting.draft line with
  | edit parsed => cases parsed <;> rfl
  | _ => rfl

theorem draft_feed_of_applies {line : String} (happlies : LineEdit.applies line = true)
    (site : Site) (answers : List Reply) (drafting : Drafting E) :
    (drafting.feed site line answers).2.2.draft = "" := by
  rw [draft_feed, Intake.ofLine_of_applies happlies]

def Clear (drafting : Drafting E) : Prop :=
  ClearStart isMark drafting.draft ∧ ClearEnd isMark drafting.draft

theorem clear_enter {drafting : Drafting E} (hclear : drafting.Clear) (site : Site)
    (entry : Entry) : (drafting.enter site entry).Clear := by
  have hempty : ClearStart isMark "" ∧ ClearEnd isMark "" :=
    ⟨Text.clearStart_empty, Text.clearEnd_empty⟩
  cases entry with
  | reset => exact hempty
  | line text answers =>
    unfold Clear Drafting.enter
    rw [draft_feed]
    unfold Intake.ofLine
    split_ifs
    · exact hclear
    · exact hempty
    · exact stripContinuation_clear _
    · exact hempty

theorem clear_foldl {drafting : Drafting E} (hclear : drafting.Clear) (site : Site)
    (entries : List Entry) : (entries.foldl (enter site) drafting).Clear := by
  induction entries generalizing drafting with
  | nil => exact hclear
  | cons entry entries ih => exact ih (clear_enter hclear site entry)

end Drafting

/-- **Lines that go on form one command.** Lines that go on, with blank ones anywhere among them, succeed and
change nothing but the draft, and the line that completes the command has the result and the effects of
the command whose text is `joined` and that line; no draft is left. Whatever was fed or
reset before, a draft has no mark at either end, and an edit drops it. -/
theorem continued_lines_form_one_command {E : Engine} (site : Site) (desk : Desk E)
    (answers : List Reply) :
    (∀ lines last, (∀ line ∈ lines, Text.isBlankText line = true ∨ GoesOn line) → Completes last →
      (∀ before, before <+: lines →
        Drafting.feedAll site before answers { desk } =
          (before.map fun _ => .ok (), answers, { desk, draft := joined before })) ∧
      let carried := desk.carryOut site (.parse (joined lines ++ last)) answers
      Drafting.feedAll site (lines ++ [last]) answers { desk } =
        (lines.map (fun _ => .ok ()) ++ [carried.1], carried.2.1, { desk := carried.2.2 })) ∧
    ∀ entries : List Drafting.Entry,
      let after := entries.foldl (Drafting.enter site) { desk }
      ClearStart isMark after.draft ∧ ClearEnd isMark after.draft ∧
        ∀ line replies, LineEdit.applies line = true →
          (after.feed site line replies).2.2.draft = "" := by
  refine ⟨fun lines last hlines hlast => ?_, fun entries => ?_⟩
  · have hfed : ∀ before, before <+: lines →
        Drafting.feedAll site before answers { desk } =
          (before.map fun _ => .ok (), answers, { desk, draft := joined before }) := by
      intro before hbefore
      exact Drafting.feedAll_joined site desk answers
        (fun line hline => hlines line (hbefore.subset hline)) []
    refine ⟨hfed, ?_⟩
    intro carried
    rw [Drafting.feedAll_append, hfed lines (List.prefix_refl lines)]
    dsimp only [Drafting.feedAll]
    rw [Drafting.feed_completes hlast]
  · have hstart : Drafting.Clear { desk } := ⟨Text.clearStart_empty, Text.clearEnd_empty⟩
    obtain ⟨hfront, hback⟩ := Drafting.clear_foldl hstart site entries
    exact ⟨hfront, hback, fun line replies happlies =>
      Drafting.draft_feed_of_applies happlies site replies _⟩

/-- Marks at both ends of a line, a line of marks only and a blank line leave the command whole. -/
theorem continued_lines_form_one_command_using :
    let site : Site := { frameworkDir := "", identifier := fun _ => "", clock := fun _ => 0 }
    let desk : Desk .refusing := { engine := () }
    let lines := ["\\us\\\\", " \t", "\\\\", "ing \\"]
    let fed := Drafting.feedAll site (lines ++ ["Demo"]) [] { desk }
    (∀ line ∈ lines, Text.isBlankText line = true ∨ GoesOn line) ∧ Completes "Demo" ∧
      joined lines = "using " ∧ fed.1 = [.ok (), .ok (), .ok (), .ok (), .ok ()] ∧
      fed.2.2.desk.session.settings = Settings.default.addUsing "Demo" ∧ fed.2.2.draft = "" := by
  intro site desk lines fed
  have hlines : ∀ line ∈ lines, Text.isBlankText line = true ∨ GoesOn line := by decide +kernel
  have hlast : Completes "Demo" := by decide +kernel
  have hfed := ((continued_lines_form_one_command site desk []).1 lines "Demo" hlines hlast).2
  refine ⟨hlines, hlast, by decide +kernel, ?_⟩
  unfold fed
  rw [hfed]
  decide +kernel

end Scratchpad
