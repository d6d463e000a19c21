import Scratchpad.Proofs.Console.Step

/-!
# Failures are all or nothing

A line or a command that fails leaves the session as it was. The only exception is a reset that was
agreed to and carried out, and of which only the acknowledgement could not be written: then the
session is the one that the reset leaves where everything can be written.

* `carryOut_failed`: the case of a command, from what commands can do (`Action.executed`);
* `feed_failed`: a line that fails has left no draft;
* `runKept_eq_run`: hence a console that does not drop its draft after a failure runs the same.
-/

namespace Scratchpad

/-- The same site with streams that take everything. -/
def Site.accepting (site : Site) : Site :=
  { site with refusal := fun _ _ => none, flushRefusal := fun _ => none }

namespace Desk

variable {E : Engine}

/-- What a failed command leaves behind. -/
def AllOrNothing (site : Site) (command : Command) (answers : List Reply) (before : Desk E)
    (failure : Failure) (after : Session) : Prop :=
  after = before.session ∨
    ∃ reset answer, command = .reset reset ∧ answers.head? = some (.line answer) ∧
      (answer = "y" ∨ answer = "Y") ∧ reset.Unacknowledged site before failure after ∧
      (before.carryOut site.accepting command answers).1 = .ok () ∧
      (before.carryOut site.accepting command answers).2.2.session = after

theorem carryOut_reset (site : Site) (reset : Reset) (answers : List Reply) (desk : Desk E) :
    desk.carryOut site (.reset reset) answers =
      ((desk.answer site reset answers.head?).1, answers.tail,
        (desk.answer site reset answers.head?).2) :=
  rfl

theorem carryOut_of_ne_reset (site : Site) {command : Command}
    (hcommand : ∀ reset, command ≠ .reset reset) (answers : List Reply) (desk : Desk E) :
    desk.carryOut site command answers =
      (((Action.execute site command).perform desk).1, answers,
        ((Action.execute site command).perform desk).2) := by
  cases command with
  | reset what => exact absurd rfl (hcommand what)
  | _ => rfl

theorem carryOut_accepting {site : Site} {reset : Reset} {text : String} {answers : List Reply}
    {desk : Desk E} {changed : Session} (hhead : answers.head? = some (.line text))
    (htext : isAffirmative text = true) (happly : reset.apply desk.session = .ok changed) :
    (desk.carryOut site.accepting (.reset reset) answers).1 = .ok () ∧
      (desk.carryOut site.accepting (.reset reset) answers).2.2.session = changed := by
  have hasked : reset.apply (desk.note (.prompted reset.question)).session = .ok changed := happly
  rw [carryOut_reset, hhead, answer_line, if_pos htext, Action.perform_carryOut, hasked]
  exact ⟨rfl, rfl⟩

theorem answer_failed {site : Site} {reset : Reset} {reply : Option Reply} {desk : Desk E}
    {failure : Failure} (hfailed : (desk.answer site reset reply).1 = .error failure) :
    (desk.answer site reset reply).2.session = desk.session ∨
      ∃ text, reply = some (.line text) ∧ isAffirmative text = true ∧
        reset.Unacknowledged site desk failure (desk.answer site reset reply).2.session := by
  cases reply with
  | none => cases hfailed
  | some reply =>
    cases reply with
    | failed why => exact Or.inl rfl
    | line text =>
      rw [answer_line] at hfailed ⊢
      by_cases htext : isAffirmative text = true
      · rw [if_pos htext] at hfailed ⊢
        have hexecuted := Action.executed_reset site reset (desk.note (.prompted reset.question))
        rcases hexecuted.failed failure hfailed with hsame | ⟨_, hreset, hrefused⟩
        · exact Or.inl hsame
        · cases hreset
          exact Or.inr ⟨text, rfl, htext, hrefused.applied, hrefused.refused⟩
      · rw [if_neg htext] at hfailed
        cases hfailed

theorem AllOrNothing.session_eq {site : Site} {command : Command} {answers : List Reply}
    {before : Desk E} {failure : Failure} {after : Session}
    (h : before.AllOrNothing site command answers failure after)
    (haccepts : ∀ n, site.refusal .out n = none) : after = before.session := by
  rcases h with hsame | ⟨reset, answer, -, -, -, ⟨-, why, hwhy, -⟩, -⟩
  · exact hsame
  · simp [haccepts] at hwhy

theorem carryOut_failed {site : Site} {command : Command} {answers : List Reply} {desk : Desk E}
    {failure : Failure} (hfailed : (desk.carryOut site command answers).1 = .error failure) :
    desk.AllOrNothing site command answers failure
      (desk.carryOut site command answers).2.2.session := by
  rcases command.reset_or_ne with ⟨reset, rfl⟩ | hne
  · rw [carryOut_reset] at hfailed ⊢
    rcases answer_failed hfailed with hsame | ⟨text, hhead, htext, hrefused⟩
    · exact Or.inl hsame
    · exact Or.inr ⟨reset, text, rfl, hhead, (isAffirmative_iff text).mp htext, hrefused,
        carryOut_accepting hhead htext hrefused.applied⟩
  · rw [carryOut_of_ne_reset site hne] at hfailed ⊢
    rcases (Action.executed site command desk).failed failure hfailed with hsame | ⟨reset, h, -⟩
    · exact Or.inl hsame
    · exact absurd h (hne reset)

theorem settle_feed_command {draft line text : String}
    (hintake : Intake.ofLine draft line = .command text) (site : Site) (answers : List Reply)
    (desk : Desk E) :
    settle site answers (desk.feed site draft line).2 =
      desk.carryOut site (.parse text) answers := by
  rw [feed_command hintake, carryOut]

theorem feed_failed {site : Site} {draft line : String} {answers : List Reply} {desk : Desk E}
    {failure : Failure} (hfailed : (settle site answers (desk.feed site draft line).2).1 =
      .error failure) :
    (desk.feed site draft line).1 = "" ∧
      ((settle site answers (desk.feed site draft line).2).2.2.session = desk.session ∨
        ∃ text, Intake.ofLine draft line = .command text ∧
          desk.AllOrNothing site (.parse text) answers failure
            (settle site answers (desk.feed site draft line).2).2.2.session) := by
  cases hintake : Intake.ofLine draft line with
  | ignored =>
    rw [feed, hintake] at hfailed
    cases hfailed
  | continued rest =>
    rw [feed, hintake] at hfailed
    cases hfailed
  | edit parsed =>
    rw [feed, hintake] at hfailed ⊢
    cases parsed with
    | error malformed => exact ⟨rfl, Or.inl rfl⟩
    | ok edit => cases hfailed
  | command text =>
    rw [settle_feed_command hintake] at hfailed ⊢
    rw [feed_command hintake]
    exact ⟨rfl, Or.inr ⟨text, rfl, carryOut_failed hfailed⟩⟩

end Desk

/-! ## A console that keeps its draft -/

namespace Console

variable {E : Engine}

/-- Goes on after a command as `conclude` does, but keeps the draft after a failure. -/
def concludeKept (site : Site) (console : Console E) : Except Failure Unit → Console E
  | .ok () => console.proceed site
  | .error failure =>
    match (Action.writeLines site .err [failure.report]).perform console.desk with
    | (.ok (), desk) => proceed site { console with desk }
    | (.error refused, desk) => { console with desk, phase := .closed (.error refused) }

def hearKept (site : Site) (console : Console E) (reply : Option Reply) : Console E :=
  match console.phase, reply with
  | .ready, some (.line text) =>
    match (console.desk.note (.prompted mainPrompt)).feed site console.draft text with
    | (draft, .asking reset desk) => { desk, draft, phase := .confirming reset }
    | (draft, .done result desk) => concludeKept site { console with desk, draft } result
  | .confirming reset, reply =>
    let (result, desk) := console.desk.answer site reset reply
    concludeKept site { console with desk } result
  | _, reply => console.hear site reply

def runKept (site : Site) (console : Console E) : List Reply → Console E × List Reply
  | [] => ((console.hearKept site none).hearKept site none, [])
  | reply :: replies =>
    if console.isClosed then (console, reply :: replies)
    else runKept site (console.hearKept site (some reply)) replies

theorem concludeKept_eq {console : Console E} {result : Except Failure Unit} (site : Site)
    (hdraft : ∀ failure, result = .error failure → console.draft = "") :
    concludeKept site console result = conclude site console result := by
  cases result with
  | ok _ => rfl
  | error failure =>
    obtain ⟨desk, draft, phase⟩ := console
    obtain rfl : draft = "" := hdraft failure rfl
    rfl

theorem feed_done_failed {site : Site} {draft line rest : String} {desk after : Desk E}
    {failure : Failure} (hfeed : desk.feed site draft line = (rest, .done (.error failure) after)) :
    rest = "" := by
  have hfailed : (Desk.settle site [] (desk.feed site draft line).2).1 = .error failure := by
    rw [hfeed]
    rfl
  have hdraft := (Desk.feed_failed hfailed).1
  rwa [hfeed] at hdraft

theorem hearKept_eq {console : Console E} (hsound : console.Sound) (site : Site)
    (reply : Option Reply) : console.hearKept site reply = console.hear site reply := by
  cases hphase : console.phase with
  | closed result => simp [hearKept, hphase]
  | confirming reset =>
    rw [hear_confirming hphase]
    simp only [hearKept, hphase]
    exact concludeKept_eq site fun _ _ => hsound.tidy reset hphase
  | ready =>
    rcases reply with _ | text | why
    · simp [hearKept, hphase]
    · rw [hear_line hphase]
      simp only [hearKept, hphase]
      rcases hfeed : (console.desk.note (.prompted mainPrompt)).feed site console.draft text with
        ⟨rest, turn⟩
      cases turn with
      | asking reset after => rfl
      | done result after =>
        refine concludeKept_eq site fun failure hresult => ?_
        subst hresult
        exact feed_done_failed hfeed
    · simp [hearKept, hphase]

theorem runKept_eq_run {console : Console E} (hsound : console.Sound) (site : Site)
    (replies : List Reply) : console.runKept site replies = console.run site replies := by
  induction replies generalizing console with
  | nil =>
    rw [runKept, run, hearEnd, hearKept_eq hsound, hearKept_eq (hear_sound hsound none)]
  | cons reply replies ih =>
    rw [runKept, run, hearKept_eq hsound, ih (hear_sound hsound (some reply))]

end Console

/-- **Failures are all or nothing.** A line that fails leaves no draft. A line or a command that fails
leaves the session as it was, unless only the acknowledgement of a reset could not be written; if
the output takes everything, there is no such exception. A console that does not drop its draft
after a failure runs the same on every script. -/
theorem failures_all_or_nothing {E : Engine} (site : Site) (desk : Desk E) (answers : List Reply) :
    (∀ draft line failure,
      (Desk.settle site answers (desk.feed site draft line).2).1 = .error failure →
        let after := (Desk.settle site answers (desk.feed site draft line).2).2.2.session
        (desk.feed site draft line).1 = "" ∧
          (after = desk.session ∨ ∃ text, Intake.ofLine draft line = .command text ∧
            desk.AllOrNothing site (.parse text) answers failure after) ∧
          ((∀ n, site.refusal .out n = none) → after = desk.session)) ∧
      (∀ command failure, (desk.carryOut site command answers).1 = .error failure →
        let after := (desk.carryOut site command answers).2.2.session
        desk.AllOrNothing site command answers failure after ∧
          ((∀ n, site.refusal .out n = none) → after = desk.session)) ∧
      (∀ replies, (Console.start site desk).runKept site replies =
        (Console.start site desk).run site replies) := by
  refine ⟨fun draft line failure hfailed => ?_, fun command failure hfailed => ?_, ?_⟩
  · obtain ⟨hdraft, hsession⟩ := Desk.feed_failed hfailed
    refine ⟨hdraft, hsession, fun haccepts => ?_⟩
    rcases hsession with hsame | ⟨text, -, hcommand⟩
    · exact hsame
    · exact hcommand.session_eq haccepts
  · have hcommand := Desk.carryOut_failed hfailed
    exact ⟨hcommand, fun haccepts => hcommand.session_eq haccepts⟩
  · exact Console.runKept_eq_run (Console.start_sound site desk) site

/-- The exception is real: a program is cleared although saying so fails. -/
theorem failures_all_or_nothing_clear :
    let site : Site :=
      { frameworkDir := "", identifier := fun _ => "", clock := fun _ => 0,
        refusal := fun _ _ => some "refused" }
    let desk : Desk .refusing := { session := { program := ⟨[(10, "x")]⟩ }, engine := () }
    let fed := Desk.settle site [.line "y"] (desk.feed site "" "clear").2
    fed.1 = .error (.io "refused") ∧ fed.2.2.session.program = {} ∧
      (desk.feed site "" "clear").1 = "" := by
  intro site desk fed
  have hfailed : fed.1 = .error (.io "refused") := by rfl
  have hdraft := ((failures_all_or_nothing site desk [.line "y"]).1 "" "clear" _ hfailed).1
  exact ⟨hfailed, by rfl, hdraft⟩

end Scratchpad
