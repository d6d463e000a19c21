import Scratchpad.Console.Loop
import Scratchpad.Proofs.Console.Execute
import Scratchpad.Proofs.LineEdit

/-!
# One step of the console

What a console does with one reply, case by case: `hear_line`, `hear_end`, `hear_failed` at the main
prompt, `hear_confirming` for the answer to a question. A line leads to a question exactly if it
completes a reset (`feed_asking_iff`); otherwise it carries out another command, or edits the
program, or does nothing (`feed_done`). Closing, proceeding and concluding are clerical, so what an
exchange does to the session, which prompts it shows and how it calls the engine is settled before
them (`hear_heard`).

`Sound` is the invariant of every run: a console that is not closed has not been left, and while a
question is open there is no draft.
-/

namespace Scratchpad

def Engine.refusing : Engine where
  State := Unit
  Entry := Unit
  compile _ state := (.error (.uncompiled ["refused"]), state)
  run _ state := ({ result := .ok .null }, state)

/-- The command that a line completes after a draft, if it completes one. -/
def Intake.command? (draft line : String) : Option Command :=
  match Intake.ofLine draft line with
  | .command text => some (.parse text)
  | _ => none

theorem Intake.ofLine_of_applies {line : String} (happlies : LineEdit.applies line = true)
    (draft : String) : Intake.ofLine draft line = .edit (LineEdit.parse line) := by
  have hblank : ¬ Text.isBlankText line = true := by
    intro h
    simp [LineEdit.applies_of_isBlankText h] at happlies
  rw [ofLine, if_neg hblank, if_pos happlies]

theorem LineEdit.ofLine?_of_ne_edit (draft : String) {line : String}
    (hne : ∀ parsed, Intake.ofLine draft line ≠ .edit parsed) : LineEdit.ofLine? line = none := by
  rw [ofLine?, if_neg]
  intro happlies
  exact hne _ (Intake.ofLine_of_applies happlies draft)

namespace Desk

variable {E : Engine}

/-- The desk after an edit of the program, if there is one. -/
def edited (desk : Desk E) : Option LineEdit → Desk E
  | none => desk
  | some edit =>
    { desk with session := { desk.session with program := edit.apply desk.session.program } }

theorem answer_line (site : Site) (reset : Reset) (text : String) (desk : Desk E) :
    desk.answer site reset (some (.line text)) =
      if isAffirmative text then
        (Action.carryOut site reset).perform (desk.note (.prompted reset.question))
      else (.ok (), desk.note (.prompted reset.question)) :=
  rfl

theorem submit_of_ne_reset (site : Site) {command : Command}
    (hcommand : ∀ reset, command ≠ .reset reset) (desk : Desk E) :
    desk.submit site command = .done ((Action.execute site command).perform desk).1
      ((Action.execute site command).perform desk).2 := by
  cases command with
  | reset what => exact absurd rfl (hcommand what)
  | _ => rfl

theorem feed_command {draft line text : String} (hintake : Intake.ofLine draft line = .command text)
    (site : Site) (desk : Desk E) :
    desk.feed site draft line = ("", desk.submit site (.parse text)) := by
  rw [feed, hintake]

theorem feed_asking_iff {site : Site} {draft line rest : String} {reset : Reset}
    {desk after : Desk E} :
    desk.feed site draft line = (rest, .asking reset after) ↔
      Intake.command? draft line = some (.reset reset) ∧ rest = "" ∧ after = desk := by
  cases hintake : Intake.ofLine draft line with
  | command text =>
    rw [feed_command hintake, Intake.command?, hintake]
    rcases (Command.parse text).reset_or_ne with ⟨what, hwhat⟩ | hne
    · simp only [hwhat, submit, Prod.mk.injEq, Turn.asking.injEq, Option.some.injEq,
        Command.reset.injEq]
      grind
    · rw [submit_of_ne_reset site hne]
      simp [hne]
  | edit parsed => cases parsed <;> simp [feed, Intake.command?, hintake]
  | _ => simp [feed, Intake.command?, hintake]

/-- What a line comes to that does not lead to a question: it completed a command, which was carried
out, or it edited the program if it is an edit and did nothing if it is none. -/
theorem feed_done {site : Site} {draft line rest : String} {result : Except Failure Unit}
    {desk after : Desk E} (hfeed : desk.feed site draft line = (rest, .done result after)) :
    (∃ command, Intake.command? draft line = some command ∧
      (∀ reset, command ≠ .reset reset) ∧
      (Action.execute site command).perform desk = (result, after)) ∨
    (Intake.command? draft line = none ∧ after = desk.edited (LineEdit.ofLine? line)) := by
  rw [Intake.command?]
  cases hintake : Intake.ofLine draft line with
  | command text =>
    rw [feed_command hintake] at hfeed
    dsimp only
    generalize Command.parse text = command at hfeed
    have hne : ∀ reset, command ≠ .reset reset := by
      rintro reset rfl
      cases hfeed
    rw [submit_of_ne_reset site hne] at hfeed
    obtain ⟨-, hturn⟩ := Prod.mk.inj hfeed
    obtain ⟨rfl, rfl⟩ := Turn.done.inj hturn
    exact Or.inl ⟨command, rfl, hne, rfl⟩
  | edit parsed =>
    have happlies : LineEdit.applies line = true := by
      rw [Intake.ofLine] at hintake
      split at hintake
      · cases hintake
      · split at hintake
        · assumption
        · split at hintake <;> cases hintake
    rw [feed, Intake.ofLine_of_applies happlies] at hfeed
    rw [LineEdit.ofLine?, if_pos happlies]
    cases hparse : LineEdit.parse line with
    | error failure =>
      rw [hparse] at hfeed
      cases hfeed
      exact Or.inr ⟨rfl, rfl⟩
    | ok edit =>
      rw [hparse] at hfeed
      cases hfeed
      exact Or.inr ⟨rfl, rfl⟩
  | ignored =>
    rw [feed, hintake] at hfeed
    cases hfeed
    rw [LineEdit.ofLine?_of_ne_edit draft (by simp [hintake])]
    exact Or.inr ⟨rfl, rfl⟩
  | continued text =>
    rw [feed, hintake] at hfeed
    cases hfeed
    rw [LineEdit.ofLine?_of_ne_edit draft (by simp [hintake])]
    exact Or.inr ⟨rfl, rfl⟩

end Desk

namespace Console

variable {E : Engine} {site : Site} {console : Console E}

/-! ## Going on -/

theorem desk_close (site : Site) (console : Console E) :
    (console.close site).desk =
      { console.desk with
        tally := { console.desk.tally with flushes := console.desk.tally.flushes + 1 } } :=
  Action.desk_flush site console.desk

theorem close_clerical (site : Site) (console : Console E) :
    console.desk.Clerical (console.close site).desk :=
  Action.Clerical.flush site console.desk

theorem proceed_clerical (site : Site) (console : Console E) :
    console.desk.Clerical (console.proceed site).desk := by
  rw [proceed]
  split
  · exact close_clerical site console
  · exact .refl _

theorem proceed_quiet (site : Site) (console : Console E) :
    console.desk.Quiet (console.proceed site).desk :=
  (proceed_clerical site console).toQuiet

theorem transcript_proceed (site : Site) (console : Console E) :
    (console.proceed site).desk.transcript = console.desk.transcript := by
  rw [proceed]
  split
  · rw [desk_close]
  · rfl

theorem conclude_error (site : Site) (console : Console E) (failure : Failure) :
    conclude site console (.error failure) =
      match site.refusal .err console.desk.tally.writesToErr with
      | some why =>
        { console with
          desk := { console.desk with tally := console.desk.tally.countWrite .err }
          phase := .closed (.error (.io why)) }
      | none =>
        proceed site
          { console with
            desk := { console.desk with tally := console.desk.tally.countWrite .err }.note
              (.wrote .err (failure.report ++ "\n"))
            draft := "" } := by
  have hwrites : console.desk.tally.writes .err = console.desk.tally.writesToErr := rfl
  rw [conclude, Action.perform_writeLine, hwrites]
  cases site.refusal .err console.desk.tally.writesToErr <;> rfl

theorem conclude_clerical (site : Site) (console : Console E) (result : Except Failure Unit) :
    console.desk.Clerical (conclude site console result).desk := by
  cases result with
  | ok _ => exact proceed_clerical site console
  | error failure =>
    have hwrite := Action.Clerical.writeLines site .err [failure.report] console.desk
    rw [conclude]
    rcases hwritten : (Action.writeLines site .err [failure.report]).perform console.desk with
      ⟨written, desk⟩
    rw [hwritten] at hwrite
    cases written with
    | ok _ => exact hwrite.trans (proceed_clerical site { console with desk, draft := "" })
    | error refused => exact hwrite

/-! ## Hearing -/

theorem hear_closed {result : Except Failure Unit} (hphase : console.phase = .closed result)
    (reply : Option Reply) : console.hear site reply = console := by
  rw [hear, hphase]

theorem hear_confirming {reset : Reset} (hphase : console.phase = .confirming reset)
    (reply : Option Reply) :
    console.hear site reply =
      conclude site { console with desk := (console.desk.answer site reset reply).2 }
        (console.desk.answer site reset reply).1 := by
  rw [hear, hphase]

theorem hear_end (hphase : console.phase = .ready) :
    console.hear site none =
      close site { console with desk := console.desk.note (.prompted mainPrompt) } := by
  rw [hear, hphase]
  rfl

theorem hear_failed (hphase : console.phase = .ready) (why : String) :
    console.hear site (some (.failed why)) =
      match (Action.writeLines site .err ["Input error: " ++ why]).perform
        (console.desk.note (.prompted mainPrompt)) with
      | (.ok (), desk) => close site { console with desk }
      | (.error refused, desk) => { console with desk, phase := .closed (.error refused) } := by
  rw [hear, hphase]
  rfl

theorem hear_line (hphase : console.phase = .ready) (text : String) :
    console.hear site (some (.line text)) =
      match (console.desk.note (.prompted mainPrompt)).feed site console.draft text with
      | (draft, .asking reset desk) => { desk, draft, phase := .confirming reset }
      | (draft, .done result desk) => conclude site { console with desk, draft } result := by
  rw [hear, hphase]
  rfl

/-- What a reply comes to at an open console, before it goes on. -/
inductive Heard (site : Site) (console : Console E) (reply : Option Reply) : Desk E → Prop where
  /-- There was no line at the main prompt. -/
  | unread (hphase : console.phase = .ready) (hreply : ∀ text, reply ≠ some (.line text)) :
      Heard site console reply (console.desk.note (.prompted mainPrompt))
  /-- The line completed a reset, and nothing was done yet. -/
  | asked (hphase : console.phase = .ready) (text : String) (hreply : reply = some (.line text))
      (reset : Reset) (hcommand : Intake.command? console.draft text = some (.reset reset)) :
      Heard site console reply (console.desk.note (.prompted mainPrompt))
  /-- The line led to no question. -/
  | fed (hphase : console.phase = .ready) (text : String) (hreply : reply = some (.line text))
      (rest : String) (result : Except Failure Unit) (after : Desk E)
      (hfeed : (console.desk.note (.prompted mainPrompt)).feed site console.draft text =
        (rest, .done result after)) :
      Heard site console reply after
  /-- The reply answered a question. -/
  | answered (reset : Reset) (hphase : console.phase = .confirming reset) :
      Heard site console reply (console.desk.answer site reset reply).2

theorem hear_heard (hopen : console.isClosed = false) (reply : Option Reply) :
    ∃ desk, Heard site console reply desk ∧ desk.Clerical (console.hear site reply).desk := by
  cases hphase : console.phase with
  | closed result => simp [isClosed, hphase] at hopen
  | confirming reset =>
    refine ⟨_, .answered reset hphase, ?_⟩
    rw [hear_confirming hphase]
    exact conclude_clerical site { console with desk := (console.desk.answer site reset reply).2 } _
  | ready =>
    rcases reply with _ | text | why
    · refine ⟨_, .unread hphase (by simp), ?_⟩
      rw [hear_end hphase]
      exact close_clerical site { console with desk := console.desk.note (.prompted mainPrompt) }
    · rw [hear_line hphase]
      rcases hfeed : (console.desk.note (.prompted mainPrompt)).feed site console.draft text with
        ⟨rest, turn⟩
      cases turn with
      | asking reset after =>
        obtain ⟨hcommand, -, rfl⟩ := Desk.feed_asking_iff.mp hfeed
        exact ⟨_, .asked hphase text rfl reset hcommand, .refl _⟩
      | done result after =>
        exact ⟨after, .fed hphase text rfl rest result after hfeed,
          conclude_clerical site { console with desk := after, draft := rest } result⟩
    · refine ⟨_, .unread hphase (by simp), ?_⟩
      have hwrite := Action.Clerical.writeLines site .err ["Input error: " ++ why]
        (console.desk.note (.prompted mainPrompt))
      rw [hear_failed hphase]
      rcases hwritten : (Action.writeLines site .err ["Input error: " ++ why]).perform
        (console.desk.note (.prompted mainPrompt)) with ⟨written, desk⟩
      rw [hwritten] at hwrite
      -- if the report is refused, the console is closed without a flush
      cases written with
      | ok _ => exact hwrite.trans (close_clerical site { console with desk })
      | error refused => exact hwrite

/-! ## The invariant -/

/-- A console that is not closed has not been left, and while a question is open there is no
draft. -/
structure Sound (console : Console E) : Prop where
  awake : console.isClosed = false → console.desk.session.exited = false
  tidy : ∀ reset, console.phase = .confirming reset → console.draft = ""

theorem close_isClosed (site : Site) (console : Console E) :
    (console.close site).isClosed = true :=
  rfl

theorem sound_of_isClosed (hclosed : console.isClosed = true) : console.Sound where
  awake hopen := by simp [hclosed] at hopen
  tidy reset hphase := by simp [isClosed, hphase] at hclosed

theorem proceed_sound (site : Site) (console : Console E) : (console.proceed site).Sound := by
  rw [proceed]
  split
  · exact sound_of_isClosed (close_isClosed site console)
  · rename_i hexited
    exact ⟨fun _ => by simpa using hexited, fun reset hphase => by cases hphase⟩

theorem conclude_sound (site : Site) (console : Console E) (result : Except Failure Unit) :
    (conclude site console result).Sound := by
  cases result with
  | ok _ => exact proceed_sound site console
  | error failure =>
    rw [conclude_error]
    cases site.refusal .err console.desk.tally.writesToErr with
    | some why => exact sound_of_isClosed rfl
    | none => exact proceed_sound site _

theorem start_sound (site : Site) (desk : Desk E) : (start site desk).Sound :=
  proceed_sound site { desk }

theorem hear_sound (hsound : console.Sound) (reply : Option Reply) :
    (console.hear site reply).Sound := by
  cases hphase : console.phase with
  | closed result => rwa [hear_closed hphase]
  | confirming reset =>
    rw [hear_confirming hphase]
    exact conclude_sound site _ _
  | ready =>
    rcases reply with _ | text | why
    · rw [hear_end hphase]
      exact sound_of_isClosed (close_isClosed site _)
    · have hawake := hsound.awake (by simp [isClosed, hphase])
      rw [hear_line hphase]
      rcases hfeed : (console.desk.note (.prompted mainPrompt)).feed site console.draft text with
        ⟨rest, turn⟩
      cases turn with
      | done result desk => exact conclude_sound site _ result
      | asking reset desk =>
        obtain ⟨-, rfl, rfl⟩ := Desk.feed_asking_iff.mp hfeed
        exact ⟨fun _ => hawake, fun _ _ => rfl⟩
    · rw [hear_failed hphase]
      rcases (Action.writeLines site .err ["Input error: " ++ why]).perform
        (console.desk.note (.prompted mainPrompt)) with ⟨written, desk⟩
      cases written with
      | ok _ => exact sound_of_isClosed (close_isClosed site _)
      | error refused => exact sound_of_isClosed rfl

end Console

end Scratchpad
