import Scratchpad.Console.OneShot
import Scratchpad.Proofs.Console.Accounting
import Scratchpad.Proofs.Console.Atomicity
import Scratchpad.Proofs.Console.Twins

/-!
# One command with and without a console

A command that is carried out on its own comes to the same as one that is given to a console as its
only line, where the streams take everything. The console notes its own prompt first, so two desks are
compared that agree in everything but the main prompts (`SameBesidesMain`), and by the simulation of
`Twins` the command comes to the same at both (`Twins.carryOut`). What is left is the frame around it:
`runOnce` flushes and reports (`runOnce_spec`), the console reports and hears the end of the input
(`run_command`, `hearEnd_conclude`).
-/

namespace Scratchpad

variable {E : Engine} {site : Site}

/-! ## Transcripts without main prompts -/

namespace Transcript

def besidesMain (transcript : List Event) : List Event :=
  transcript.filter (· ≠ .prompted mainPrompt)

def SameBesidesMain (left right : List Event) : Prop :=
  besidesMain left = besidesMain right

theorem besidesMain_append (before events : List Event) :
    besidesMain (before ++ events) = besidesMain before ++ besidesMain events :=
  List.filter_append _ _

theorem kept_sameBesidesMain : Kept SameBesidesMain := by
  intro left right event hsame
  rw [SameBesidesMain, besidesMain_append, besidesMain_append, hsame]

theorem SameBesidesMain.filterMap_eq {α : Type} {view : Event → Option α} {left right : List Event}
    (hview : view (.prompted mainPrompt) = none) (hsame : SameBesidesMain left right) :
    left.filterMap view = right.filterMap view := by
  have hfilter : ∀ transcript, (besidesMain transcript).filterMap view =
      transcript.filterMap view := by
    intro transcript
    rw [besidesMain, List.filterMap_filter]
    congr 1
    funext event
    by_cases hmain : event = .prompted mainPrompt
    · simp [hmain, hview]
    · simp [hmain]
  rw [← hfilter left, hsame, hfilter right]

theorem besidesMain_main (exited : Bool) :
    besidesMain (if exited then [] else [.prompted mainPrompt]) = [] := by
  cases exited <;> simp [besidesMain]

theorem written_main (stream : Stream) (exited : Bool) :
    written stream (if exited then [] else [.prompted mainPrompt]) = "" := by
  cases exited <;> rfl

/-- The report of a failure, if a command ended in one. -/
def reported : Except Failure Unit → List Event
  | .ok _ => []
  | .error failure => [.wrote .err (failure.report ++ "\n")]

theorem prompts_reported (result : Except Failure Unit) : prompts (reported result) = [] := by
  cases result <;> rfl

end Transcript

/-! ## The command -/

def Command.questions : Command → List String
  | .reset what => [what.question]
  | _ => []

theorem Command.questions_of_ne_reset {command : Command}
    (hne : ∀ reset, command ≠ .reset reset) : command.questions = [] := by
  cases command with
  | reset what => exact absurd rfl (hne what)
  | _ => rfl

theorem Settings.AgreeBut.eq {left right : Settings} (hagree : left.AgreeBut none right) :
    left = right := by
  obtain ⟨htag, hframework, husings, hreferences, hverbose, htypeInfo⟩ := hagree
  cases left
  cases right
  simp_all

theorem Session.AgreeBut.eq {left right : Session} (hagree : left.AgreeBut none right) :
    left = right := by
  obtain ⟨hsettings, hprogram, hexited⟩ := hagree
  have hsame := hsettings.eq
  cases left
  cases right
  simp_all

namespace Desk

theorem prompts_carryOut (site : Site) (command : Command) (answers : List Reply) (desk : Desk E) :
    Transcript.prompts (desk.carryOut site command answers).2.2.transcript =
      Transcript.prompts desk.transcript ++ command.questions := by
  rcases command.reset_or_ne with ⟨reset, rfl⟩ | hne
  · rw [carryOut_reset]
    exact Console.prompts_answer reset answers.head? desk
  · rw [carryOut_of_ne_reset site hne, Command.questions_of_ne_reset hne, List.append_nil]
    exact (Action.executed site command desk).prompts

theorem carryOut_read (site : Site) (command : Command) (answers : List Reply)
    (desk other : Desk E) :
    let left := (desk.carryOut site command answers).2.1
    let read := answers.take (answers.length - left.length)
    read ++ left = answers ∧
      other.carryOut site command read =
        ((other.carryOut site command answers).1, [],
          (other.carryOut site command answers).2.2) := by
  intro left read
  rcases command.reset_or_ne with ⟨reset, rfl⟩ | hne
  · cases answers with
    | nil => exact ⟨rfl, rfl⟩
    | cons answer answers =>
      have hread : read = [answer] := by
        simp [read, left, carryOut_reset]
      rw [hread]
      exact ⟨rfl, rfl⟩
  · have hleft : left = answers := by
      simp only [left, carryOut_of_ne_reset site hne]
    have hread : read = [] := by
      simp [read, hleft]
    rw [hread, hleft, carryOut_of_ne_reset site hne, carryOut_of_ne_reset site hne]
    exact ⟨rfl, rfl⟩

theorem Twins.carryOut (haccepts : ∀ stream n, site.refusal stream n = none) {left right : Desk E}
    (htwins : left.Twins none Transcript.SameBesidesMain right) (command : Command)
    (answers : List Reply) :
    (left.carryOut site command answers).1 = (right.carryOut site command answers).1 ∧
      (left.carryOut site command answers).2.1 = (right.carryOut site command answers).2.1 ∧
      (left.carryOut site command answers).2.2.Twins none Transcript.SameBesidesMain
        (right.carryOut site command answers).2.2 := by
  have hkept := Transcript.kept_sameBesidesMain
  rcases command.reset_or_ne with ⟨reset, rfl⟩ | hne
  · obtain ⟨hresult, hafter⟩ := htwins.answer haccepts hkept reset answers.head?
    exact ⟨hresult, rfl, hafter⟩
  · have hshowing : Desk.Showing Transcript.SameBesidesMain Transcript.SameBesidesMain left right
        (left.evaluation? site command) := by
      refine ⟨fun _ _ _ hsame => hsame, fun evaluation _ l r hsame => ?_⟩
      rw [htwins.session.settings.eq]
      exact hkept.append hsame _
    obtain ⟨hresult, hafter⟩ :=
      Action.twins_execute haccepts hkept hkept command htwins hshowing
    rw [carryOut_of_ne_reset site hne, carryOut_of_ne_reset site hne]
    exact ⟨hresult, rfl, hafter⟩

theorem twins_note_main (desk : Desk E) :
    (desk.note (.prompted mainPrompt)).Twins none Transcript.SameBesidesMain desk where
  session := ⟨⟨rfl, rfl, rfl, rfl, fun _ => rfl, fun _ => rfl⟩, rfl, rfl⟩
  engine := rfl
  tally := ⟨rfl, rfl, rfl⟩
  transcript := by
    rw [note, Transcript.SameBesidesMain, Transcript.besidesMain_append]
    simp [Transcript.besidesMain]

/-- What a single command leaves: its failure is reported and gives the exit code. -/
theorem runOnce_spec (haccepts : ∀ n, site.refusal .err n = none) (text : String)
    (answers : List Reply) (desk : Desk E) :
    let carried := desk.carryOut site (.parse text) answers
    let once := desk.runOnce site text answers
    ((once.1 = 1 ↔ ∃ failure, carried.1 = .error failure) ∧ (once.1 = 0 ↔ carried.1 = .ok ())) ∧
      once.2.1 = carried.2.1 ∧ once.2.2.session = carried.2.2.session ∧
      once.2.2.engine = carried.2.2.engine ∧
      once.2.2.transcript = carried.2.2.transcript ++ Transcript.reported carried.1 := by
  intro carried once
  simp only [carried, once, runOnce]
  rcases desk.carryOut site (.parse text) answers with ⟨result, left, after⟩
  cases result with
  | ok _ => simp [Action.desk_flush, Transcript.reported]
  | error failure =>
    dsimp only
    rw [Action.desk_flush, Action.perform_writeLines_accepted haccepts]
    simp [Transcript.reported]

end Desk

/-! ## The console around it -/

namespace Console

theorem hearEnd_proceed (site : Site) (console : Console E) :
    let final := ((console.proceed site).hearEnd site).desk
    final.session = console.desk.session ∧ final.engine = console.desk.engine ∧
      final.transcript = console.desk.transcript ++
        if console.desk.session.exited then [] else [.prompted mainPrompt] := by
  intro final
  cases hexited : console.desk.session.exited with
  | true =>
    have hfinal : final = (console.close site).desk := by
      simp only [final, proceed, hexited, if_true, hearEnd]
      rw [hear_of_isClosed (close_isClosed site console),
        hear_of_isClosed (close_isClosed site console)]
    rw [hfinal, desk_close]
    simp
  | false =>
    have hfinal : final =
        (close site { console with desk := console.desk.note (.prompted mainPrompt) }).desk := by
      have hready : ({ console with phase := .ready } : Console E).phase = .ready := rfl
      simp only [final, proceed, hexited, Bool.false_eq_true, if_false, hearEnd]
      rw [hear_end hready, hear_of_isClosed (close_isClosed site _)]
      rfl
    rw [hfinal, desk_close]
    exact ⟨rfl, rfl, rfl⟩

section Accepting

variable (haccepts : ∀ n, site.refusal .err n = none)

include haccepts

theorem conclude_phase (desk : Desk E) (phase : Phase) (result : Except Failure Unit) :
    conclude site { desk, draft := "", phase } result = conclude site { desk } result := by
  have hproceed : ∀ desk : Desk E, proceed site { desk, draft := "", phase } =
      proceed site { desk } := fun _ => rfl
  cases result with
  | ok _ => exact hproceed desk
  | error failure =>
    rw [conclude_error, conclude_error, haccepts]
    exact hproceed _

theorem conclude_isClosed_or_ready (desk : Desk E) (result : Except Failure Unit) :
    (conclude site { desk } result).isClosed = true ∨
      (conclude site { desk } result).phase = .ready := by
  cases result with
  | ok _ => exact (proceed_phase site { desk }).2
  | error failure =>
    rw [conclude_error, haccepts]
    exact (proceed_phase site _).2

theorem hearEnd_conclude (desk : Desk E) (result : Except Failure Unit) :
    let final := ((conclude site { desk } result).hearEnd site).desk
    final.session = desk.session ∧ final.engine = desk.engine ∧
      final.transcript = desk.transcript ++ Transcript.reported result ++
        if desk.session.exited then [] else [.prompted mainPrompt] := by
  cases result with
  | ok _ =>
    rw [Transcript.reported, List.append_nil]
    exact hearEnd_proceed site { desk }
  | error failure =>
    rw [conclude_error, haccepts]
    exact hearEnd_proceed site _

/-- A line that completes a command, and the answers it reads, are all that a console hears. -/
theorem run_command {desk after : Desk E} (hawake : desk.session.exited = false) {text : String}
    (hintake : Intake.ofLine "" text = .command text) {read : List Reply}
    {result : Except Failure Unit}
    (hcarried : (desk.note (.prompted mainPrompt)).carryOut site (.parse text) read =
      (result, [], after)) :
    (start site desk).run site (.line text :: read) =
      ((conclude site { desk := after } result).hearEnd site, []) := by
  have hstart : start site desk = { desk } := by
    rw [start, proceed, hawake]
    rfl
  have hopen : ({ desk } : Console E).isClosed = false := rfl
  rw [hstart, run, hopen, if_neg Bool.false_ne_true, hear_line rfl, Desk.feed_command hintake]
  generalize Command.parse text = command at hcarried ⊢
  rcases command.reset_or_ne with ⟨reset, rfl⟩ | hne
  · have hphase : (Console.mk (desk.note (.prompted mainPrompt)) "" (.confirming reset)).phase =
        .confirming reset := rfl
    rw [Desk.carryOut_reset] at hcarried
    obtain ⟨hresult, hrest⟩ := Prod.mk.inj hcarried
    obtain ⟨hall, hafter⟩ := Prod.mk.inj hrest
    dsimp only [Desk.submit]
    cases read with
    | nil =>
      -- the end of the input is the answer, and then closes the console
      have hclosed : ((conclude site { desk := after } result).hear site none).isClosed = true :=
        hear_none_isClosed (conclude_isClosed_or_ready haccepts after result)
      rw [List.head?_nil] at hresult hafter
      rw [run, hearEnd, hear_confirming hphase, hresult, hafter, conclude_phase haccepts, hearEnd,
        hear_of_isClosed hclosed]
    | cons answer rest =>
      obtain rfl : rest = [] := hall
      rw [List.head?_cons] at hresult hafter
      rw [run, if_neg (by simp [isClosed]), hear_confirming hphase, hresult, hafter,
        conclude_phase haccepts, run]
  · rw [Desk.carryOut_of_ne_reset site hne] at hcarried
    obtain ⟨hresult, hrest⟩ := Prod.mk.inj hcarried
    obtain ⟨rfl, hafter⟩ := Prod.mk.inj hrest
    rw [Desk.submit_of_ne_reset site hne, run, hresult, hafter]

theorem run_command_spec {desk after : Desk E} (hawake : desk.session.exited = false)
    {text : String} (hintake : Intake.ofLine "" text = .command text) {read : List Reply}
    {result : Except Failure Unit}
    (hcarried : (desk.note (.prompted mainPrompt)).carryOut site (.parse text) read =
      (result, [], after)) :
    let run := (start site desk).run site (.line text :: read)
    run.2 = [] ∧ run.1.desk.session = after.session ∧ run.1.desk.engine = after.engine ∧
      run.1.desk.transcript = after.transcript ++ Transcript.reported result ++
        if after.session.exited then [] else [.prompted mainPrompt] := by
  rw [run_command haccepts hawake hintake hcarried]
  exact ⟨rfl, hearEnd_conclude haccepts after result⟩

end Accepting

/-- **A single command agrees with the console.** The command is no blank line, no edit and does not go
on, the session has not been left, and the streams take everything. Given the command and the answers
that it reads when it is carried out on its own, the console reads them all, writes the same to both
streams, calls the engine in the same way and asks the same questions; besides them it shows main
prompts only. The exit code is 1 if the line fails at the console, and its report is then the last
that is written to the error stream; otherwise it is 0. -/
theorem runOnce_agrees_with_run (site : Site) (haccepts : ∀ stream n, site.refusal stream n = none)
    (desk : Desk E) (hawake : desk.session.exited = false) (text : String)
    (hblank : Text.isBlankText text = false) (hedit : LineEdit.applies text = false)
    (hends : Text.endsWithChar continuationMark text = false) (answers : List Reply) :
    let once := desk.runOnce site text answers
    let read := answers.take (answers.length - once.2.1.length)
    let run := (start site desk).run site (.line text :: read)
    let fed := Desk.settle site read ((desk.note (.prompted mainPrompt)).feed site "" text).2
    let questions := (Command.parse text).questions
    (read ++ once.2.1 = answers ∧ run.2 = []) ∧
      (∀ stream, Transcript.written stream run.1.desk.transcript =
        Transcript.written stream once.2.2.transcript) ∧
      Transcript.calls run.1.desk.transcript = Transcript.calls once.2.2.transcript ∧
      (Transcript.prompts once.2.2.transcript = Transcript.prompts desk.transcript ++ questions ∧
        Transcript.prompts run.1.desk.transcript =
          Transcript.prompts desk.transcript ++ mainPrompt :: questions ++
            if run.1.desk.session.exited then [] else [mainPrompt]) ∧
      Transcript.besidesMain run.1.desk.transcript = Transcript.besidesMain once.2.2.transcript ∧
      (run.1.desk.session = once.2.2.session ∧ run.1.desk.engine = once.2.2.engine) ∧
      (once.1 = 1 ↔ ∃ failure, fed.1 = .error failure) ∧ (once.1 = 0 ↔ fed.1 = .ok ()) ∧
      ∀ failure, fed.1 = .error failure → ∃ before,
        Transcript.written .err run.1.desk.transcript = before ++ (failure.report ++ "\n") := by
  have hintake : Intake.ofLine "" text = .command text := by
    simp [Intake.ofLine, hblank, hedit, hends]
  have honce := Desk.runOnce_spec (haccepts .err) text answers desk
  obtain ⟨hread, hcarried⟩ :=
    Desk.carryOut_read site (.parse text) answers desk (desk.note (.prompted mainPrompt))
  obtain ⟨hresult, -, htwins⟩ := (Desk.twins_note_main desk).carryOut haccepts (.parse text) answers
  dsimp only
  generalize desk.runOnce site text answers = once at honce ⊢
  obtain ⟨⟨hfailed, hdone⟩, hleft, hsession, hengine, htranscript⟩ := honce
  rw [← hleft] at hread hcarried
  generalize answers.take (answers.length - once.2.1.length) = read at hread hcarried ⊢
  obtain ⟨hunread, hsession', hengine', htranscript'⟩ :=
    run_command_spec (haccepts .err) hawake hintake hcarried
  rw [Desk.settle_feed_command hintake, hcarried, hresult]
  generalize (start site desk).run site (.line text :: read) = run at *
  have hsame : Transcript.SameBesidesMain run.1.desk.transcript once.2.2.transcript := by
    rw [Transcript.SameBesidesMain, htranscript', htranscript]
    simp only [Transcript.besidesMain_append, Transcript.besidesMain_main, List.append_nil]
    rw [htwins.transcript, hresult]
  refine ⟨⟨hread, hunread⟩, fun stream => ?_, ?_, ⟨?_, ?_⟩, hsame, ⟨?_, ?_⟩, hfailed, hdone, ?_⟩
  · rw [Transcript.written, Transcript.written, hsame.filterMap_eq rfl]
  · rw [Transcript.calls, Transcript.calls, ← List.filterMap_eq_filter]
    exact hsame.filterMap_eq rfl
  · rw [htranscript, Transcript.prompts_append, Transcript.prompts_reported, List.append_nil,
      Desk.prompts_carryOut]
  · rw [htranscript', hsession', Transcript.prompts_append, Transcript.prompts_append,
      Transcript.prompts_reported, Desk.prompts_carryOut, prompts_note]
    cases ((desk.note (.prompted mainPrompt)).carryOut site (.parse text)
      answers).2.2.session.exited <;> simp [Transcript.prompts]
  · rw [hsession', hsession]
    exact htwins.session.eq
  · rw [hengine', hengine]
    exact htwins.engine
  · intro failure hfailure
    -- only a main prompt may come after the report
    rw [hresult, hfailure] at htranscript'
    rw [htranscript', Transcript.written_append, Transcript.written_append,
      Transcript.written_main, String.append_empty]
    exact ⟨_, rfl⟩

/-- A switch to an unknown framework fails only after its question was agreed to, and leaves the rest
of the answers unread. -/
theorem runOnce_agrees_with_run_framework :
    let site : Site := { frameworkDir := "", identifier := fun _ => "", clock := fun _ => 0 }
    let desk : Desk .refusing := { engine := () }
    let answers : List Reply := [.line "y", .line "list"]
    let once := desk.runOnce site "framework 9" answers
    let read := answers.take (answers.length - once.2.1.length)
    let final := ((start site desk).run site (.line "framework 9" :: read)).1.desk.transcript
    Transcript.written .err final = Transcript.written .err once.2.2.transcript ∧
      once.1 = 1 ∧ read = [.line "y"] ∧
      Transcript.written .err final = "Error: [CFG001] Framework version '9' not known.\n" ∧
      Transcript.prompts final = ["# ", (Reset.framework "9").question, "# "] := by
  dsimp only
  refine ⟨(runOnce_agrees_with_run _ (fun _ _ => rfl) _ rfl "framework 9" (by decide +kernel)
    (by decide +kernel) (by decide +kernel) _).2.1 .err, ?_⟩
  decide +kernel

end Console

end Scratchpad
