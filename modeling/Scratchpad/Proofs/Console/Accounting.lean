import Scratchpad.Proofs.Console.History

/-!
# Accounting for the input

Every reply that a console is given is read once, in order, or left unread. `Exchange.Stops` lists
the four reasons to read no more; `isClosed_hear_iff` says that an exchange closes the console
exactly for one of them, so a failure of a command never does unless its report is refused. The
result of a run is a failure only if a text written to the error stream or the last flush of the
output was refused (`Refused`, kept by every step).
-/

namespace Scratchpad

variable {E : Engine} {site : Site}

/-! ## Leaving the session -/

theorem Command.effect_exited {command : Command} {session : Session} (hne : command ≠ .exit) :
    (command.effect session).exited = session.exited := by
  cases command with
  | exit => exact absurd rfl hne
  | reset what =>
    rw [effect]
    cases happly : what.apply session with
    | error failure => rfl
    | ok changed => exact (Reset.apply_ok happly).1
  | _ => rfl

theorem Action.execute_exited {command : Command} (hne : command ≠ .exit) (desk : Desk E) :
    ((execute site command).perform desk).2.session.exited = desk.session.exited := by
  rcases (executed site command desk).session_eq with hsame | heffect
  · rw [hsame]
  · rw [heffect, Command.effect_exited hne]

theorem Desk.answer_exited (reset : Reset) (reply : Option Reply) (desk : Desk E) :
    (desk.answer site reset reply).2.session.exited = desk.session.exited := by
  rcases reply with _ | text | why
  · rfl
  · rw [answer_line]
    split
    · exact @Action.execute_exited E site (.reset reset) (by simp) (desk.note _)
    · rfl
  · rfl

theorem Desk.feed_exited {draft line rest : String} {result : Except Failure Unit}
    {desk after : Desk E} (hawake : desk.session.exited = false)
    (hfeed : desk.feed site draft line = (rest, .done result after)) :
    after.session.exited = true ↔ Intake.command? draft line = some .exit := by
  rcases feed_done hfeed with ⟨command, hcommand, -, hperform⟩ | ⟨hcommand, rfl⟩
  · rw [hcommand, Option.some.injEq]
    by_cases hexit : command = .exit
    · subst hexit
      cases hperform
      exact ⟨fun _ => rfl, fun _ => rfl⟩
    · have hsame : after.session.exited = desk.session.exited := by
        have hexited := @Action.execute_exited E site command hexit desk
        rwa [hperform] at hexited
      simp [hsame, hawake, hexit]
  · cases LineEdit.ofLine? line <;> simp [edited, hcommand, hawake]

/-! ## Reasons to stop -/

namespace Exchange

/-- How the line or the answer that was heard turned out, and the desk after it. There is nothing to
say of a line that led to a question, of the end of the input and of a failed attempt to read at the
main prompt. -/
def outcome? (site : Site) (exchange : Exchange E) : Option (Except Failure Unit × Desk E) :=
  match exchange.console.phase, exchange.reply with
  | .ready, some (.line text) =>
    match ((exchange.console.desk.note (.prompted mainPrompt)).feed site exchange.console.draft
      text).2 with
    | .done result desk => some (result, desk)
    | .asking _ _ => none
  | .confirming reset, reply => some (exchange.console.desk.answer site reset reply)
  | _, _ => none

/-- Why a console hears nothing more after an exchange. -/
inductive Stops (site : Site) (exchange : Exchange E) : Prop where
  /-- The command to leave the session was carried out. -/
  | left (hcommand : exchange.command? = some .exit)
  /-- The input ended at the main prompt. -/
  | ended (hmain : exchange.question? = none) (hreply : exchange.reply = none)
  /-- Reading failed at the main prompt. -/
  | unreadable (hmain : exchange.question? = none) (why : String)
      (hreply : exchange.reply = some (.failed why))
  /-- The report of a failure was refused. -/
  | unreported (failure : Failure) (desk : Desk E) (why : String)
      (houtcome : exchange.outcome? site = some (.error failure, desk))
      (hrefused : site.refusal .err desk.tally.writesToErr = some why)

end Exchange

namespace Console

theorem conclude_isClosed_iff (console : Console E) (result : Except Failure Unit) :
    (conclude site console result).isClosed = true ↔
      console.desk.session.exited = true ∨
        ∃ failure why, result = .error failure ∧
          site.refusal .err console.desk.tally.writesToErr = some why := by
  cases result with
  | ok _ =>
    rw [conclude, (proceed_phase site console).1]
    simp
  | error failure =>
    rw [conclude_error]
    cases hrefusal : site.refusal .err console.desk.tally.writesToErr with
    | some why => simp [isClosed]
    | none =>
      dsimp only
      rw [(proceed_phase site _).1]
      simp [Desk.note]

theorem isClosed_hear_confirming {console : Console E} {reset : Reset} {reply : Option Reply}
    (hphase : console.phase = .confirming reset) (hawake : console.desk.session.exited = false) :
    (console.hear site reply).isClosed = true ↔
      Exchange.Stops site ⟨console, reply⟩ := by
  have houtcome : Exchange.outcome? site ⟨console, reply⟩ =
      some (console.desk.answer site reset reply) := by
    simp [Exchange.outcome?, hphase]
  have hquestion : Exchange.question? ⟨console, reply⟩ = some reset := by
    simp [Exchange.question?, hphase]
  rw [hear_confirming hphase, conclude_isClosed_iff]
  simp only [Desk.answer_exited, hawake, Bool.false_eq_true, false_or]
  constructor
  · rintro ⟨failure, why, hresult, hrefused⟩
    refine .unreported failure (console.desk.answer site reset reply).2 why ?_ hrefused
    rw [houtcome, ← hresult]
  · rintro (hcommand | ⟨hmain, -⟩ | ⟨hmain, -, -⟩ | ⟨failure, desk, why, hfailed, hrefused⟩)
    · simp [Exchange.command?, hquestion] at hcommand
    · simp [hquestion] at hmain
    · simp [hquestion] at hmain
    · rw [houtcome, Option.some.injEq] at hfailed
      rw [hfailed]
      exact ⟨failure, why, rfl, hrefused⟩

theorem isClosed_hear_line {console : Console E} {text : String}
    (hphase : console.phase = .ready) (hawake : console.desk.session.exited = false) :
    (console.hear site (some (.line text))).isClosed = true ↔
      Exchange.Stops site ⟨console, some (.line text)⟩ := by
  have hcommand : Exchange.command? ⟨console, some (.line text)⟩ =
      Intake.command? console.draft text := by
    simp [Exchange.command?, Exchange.question?, hphase]
  have houtcome : Exchange.outcome? site ⟨console, some (.line text)⟩ =
      match ((console.desk.note (.prompted mainPrompt)).feed site console.draft text).2 with
      | .done result desk => some (result, desk)
      | .asking _ _ => none := by
    simp [Exchange.outcome?, hphase]
  rw [hear_line hphase]
  rcases hfeed : (console.desk.note (.prompted mainPrompt)).feed site console.draft text with
    ⟨rest, turn⟩
  rw [hfeed] at houtcome
  cases turn with
  | asking reset after =>
    have hasked := (Desk.feed_asking_iff.mp hfeed).1
    refine ⟨fun h => by simp [isClosed] at h, ?_⟩
    rintro (hexit | ⟨-, hreply⟩ | ⟨-, why, hreply⟩ | ⟨failure, desk, why, hfailed, -⟩)
    · simp [hcommand, hasked] at hexit
    · simp at hreply
    · simp at hreply
    · simp [houtcome] at hfailed
  | done result after =>
    have hprompted : (console.desk.note (.prompted mainPrompt)).session.exited = false := hawake
    have hexited := Desk.feed_exited hprompted hfeed
    rw [conclude_isClosed_iff]
    constructor
    · rintro (hleft | ⟨failure, why, rfl, hrefused⟩)
      · exact .left (hcommand.trans (hexited.mp hleft))
      · exact .unreported failure after why houtcome hrefused
    · rintro (hexit | ⟨-, hreply⟩ | ⟨-, why, hreply⟩ | ⟨failure, desk, why, hfailed, hrefused⟩)
      · exact Or.inl (hexited.mpr (hcommand.symm.trans hexit))
      · simp at hreply
      · simp at hreply
      · rw [houtcome, Option.some.injEq, Prod.mk.injEq] at hfailed
        obtain ⟨rfl, rfl⟩ := hfailed
        exact Or.inr ⟨failure, why, rfl, hrefused⟩

/-- **An exchange closes the console exactly for one of the four reasons.** -/
theorem isClosed_hear_iff {console : Console E} (hsound : console.Sound)
    (hopen : console.isClosed = false) (reply : Option Reply) :
    (console.hear site reply).isClosed = true ↔ Exchange.Stops site ⟨console, reply⟩ := by
  have hawake := hsound.awake hopen
  cases hphase : console.phase with
  | closed result => simp [isClosed, hphase] at hopen
  | confirming reset => exact isClosed_hear_confirming hphase hawake
  | ready =>
    have hmain (r : Option Reply) : Exchange.question? ⟨console, r⟩ = none := by
      simp [Exchange.question?, hphase]
    rcases reply with _ | text | why
    · rw [hear_end hphase]
      exact ⟨fun _ => .ended (hmain _) rfl, fun _ => rfl⟩
    · exact isClosed_hear_line hphase hawake
    · refine ⟨fun _ => .unreadable (hmain _) why rfl, fun _ => ?_⟩
      rw [hear_failed hphase]
      rcases (Action.writeLines site .err ["Input error: " ++ why]).perform
        (console.desk.note (.prompted mainPrompt)) with ⟨written, desk⟩
      cases written <;> rfl

/-! ## Prompts and questions -/

theorem prompts_note (desk : Desk E) (text : String) :
    Transcript.prompts (desk.note (.prompted text)).transcript =
      Transcript.prompts desk.transcript ++ [text] :=
  Transcript.prompts_append _ _

theorem prompts_answer (reset : Reset) (reply : Option Reply) (desk : Desk E) :
    Transcript.prompts (desk.answer site reset reply).2.transcript =
      Transcript.prompts desk.transcript ++ [reset.question] := by
  rcases reply with _ | text | why
  · exact prompts_note desk _
  · rw [Desk.answer_line]
    split
    · rw [(Action.executed_reset site reset (desk.note (.prompted reset.question))).prompts,
        prompts_note]
    · exact prompts_note desk _
  · exact prompts_note desk _

theorem prompts_feed {draft line rest : String} {result : Except Failure Unit} {desk after : Desk E}
    (hfeed : desk.feed site draft line = (rest, .done result after)) :
    Transcript.prompts after.transcript = Transcript.prompts desk.transcript := by
  rcases Desk.feed_done hfeed with ⟨command, -, -, hperform⟩ | ⟨-, rfl⟩
  · have hexecuted := Action.executed site command desk
    rw [hperform] at hexecuted
    exact hexecuted.prompts
  · cases LineEdit.ofLine? line <;> rfl

theorem prompts_hear {console : Console E} (hopen : console.isClosed = false)
    (reply : Option Reply) :
    Transcript.prompts (console.hear site reply).desk.transcript =
      Transcript.prompts console.desk.transcript ++ [Exchange.prompt ⟨console, reply⟩] := by
  have hmain (hphase : console.phase = .ready) : Exchange.prompt ⟨console, reply⟩ = mainPrompt := by
    simp [Exchange.prompt, Exchange.question?, hphase]
  obtain ⟨desk, hheard, hquiet⟩ := @hear_heard E site console hopen reply
  rw [hquiet.prompts]
  cases hheard with
  | unread hphase _ => rw [prompts_note, hmain hphase]
  | asked hphase _ _ _ _ => rw [prompts_note, hmain hphase]
  | fed hphase _ _ _ _ _ hfeed => rw [prompts_feed hfeed, prompts_note, hmain hphase]
  | answered reset hphase =>
    rw [prompts_answer, Exchange.prompt, Exchange.question?, hphase]

theorem conclude_phase_ne_confirming (console : Console E) (result : Except Failure Unit)
    (reset : Reset) : (conclude site console result).phase ≠ .confirming reset := by
  have hproceed : ∀ c : Console E, (c.proceed site).phase ≠ .confirming reset := by
    intro c hphase
    rcases (proceed_phase site c).2 with hclosed | hready
    · simp [isClosed, hphase] at hclosed
    · simp [hphase] at hready
  cases result with
  | ok _ => exact hproceed console
  | error failure =>
    rw [conclude_error]
    cases site.refusal .err console.desk.tally.writesToErr with
    | some why => simp
    | none => exact hproceed _

theorem phase_hear_eq_confirming_iff {console : Console E} (hopen : console.isClosed = false)
    (reply : Option Reply) (reset : Reset) :
    (console.hear site reply).phase = .confirming reset ↔
      Exchange.command? ⟨console, reply⟩ = some (.reset reset) := by
  cases hphase : console.phase with
  | closed result => simp [isClosed, hphase] at hopen
  | confirming asked =>
    rw [hear_confirming hphase]
    simp [conclude_phase_ne_confirming, Exchange.command?, Exchange.question?, hphase]
  | ready =>
    rcases reply with _ | text | why
    · rw [hear_end hphase]
      simp [close, Exchange.command?, Exchange.question?, hphase]
    · have hcommand : Exchange.command? ⟨console, some (.line text)⟩ =
          Intake.command? console.draft text := by
        simp [Exchange.command?, Exchange.question?, hphase]
      rw [hear_line hphase, hcommand]
      rcases hfeed : (console.desk.note (.prompted mainPrompt)).feed site console.draft text with
        ⟨rest, turn⟩
      cases turn with
      | asking asked after =>
        rw [(Desk.feed_asking_iff.mp hfeed).1]
        simp
      | done result after =>
        refine ⟨fun h => absurd h (conclude_phase_ne_confirming _ result reset), fun h => ?_⟩
        rcases Desk.feed_done hfeed with ⟨command, hcompleted, hne, -⟩ | ⟨hnone, -⟩
        · rw [hcompleted, Option.some.injEq] at h
          exact absurd h (hne reset)
        · simp [hnone] at h
    · rw [hear_failed hphase]
      rcases (Action.writeLines site .err ["Input error: " ++ why]).perform
        (console.desk.note (.prompted mainPrompt)) with ⟨written, desk⟩
      cases written <;> simp [close, Exchange.command?, Exchange.question?, hphase]

/-! ## The result of a run -/

/-- The last text written to the error stream or the last flush of the output was refused, and the
failure says why. -/
def Refused (site : Site) (desk : Desk E) (failure : Failure) : Prop :=
  ∃ why n, failure = .io why ∧
    (desk.tally.writesToErr = n + 1 ∧ site.refusal .err n = some why ∨
      desk.tally.flushes = n + 1 ∧ site.flushRefusal n = some why)

/-- If the console is closed with a failure, something was refused. -/
def Excused (site : Site) (console : Console E) : Prop :=
  ∀ failure, console.phase = .closed (.error failure) → Refused site console.desk failure

theorem close_excused (console : Console E) : Excused site (console.close site) := by
  intro failure hphase
  rw [close, Action.flush, Action.perform_ofFun] at hphase ⊢
  cases hrefusal : site.flushRefusal console.desk.tally.flushes with
  | none => simp [hrefusal] at hphase
  | some why =>
    simp only [hrefusal, Phase.closed.injEq, Except.error.injEq] at hphase ⊢
    exact ⟨why, _, hphase.symm, Or.inr ⟨rfl, hrefusal⟩⟩

theorem proceed_excused (console : Console E) : Excused site (console.proceed site) := by
  rw [proceed]
  split
  · exact close_excused console
  · intro failure hphase
    cases hphase

theorem writeLine_refused {line : String} {desk after : Desk E} {failure : Failure}
    (hwrite : (Action.writeLines site .err [line]).perform desk = (.error failure, after)) :
    Refused site after failure := by
  rw [Action.perform_writeLine] at hwrite
  cases hrefusal : site.refusal .err (desk.tally.writes .err) with
  | none => simp [hrefusal] at hwrite
  | some why =>
    rw [hrefusal] at hwrite
    cases hwrite
    exact ⟨why, desk.tally.writesToErr, rfl, Or.inl ⟨rfl, hrefusal⟩⟩

theorem conclude_excused (console : Console E) (result : Except Failure Unit) :
    Excused site (conclude site console result) := by
  cases result with
  | ok _ => exact proceed_excused console
  | error failure =>
    rw [conclude]
    rcases hwrite : (Action.writeLines site .err [failure.report]).perform console.desk with
      ⟨written, desk⟩
    cases written with
    | ok _ => exact proceed_excused _
    | error refused =>
      intro failure hphase
      cases hphase
      exact writeLine_refused hwrite

theorem hear_excused (console : Console E) (reply : Option Reply)
    (hexcused : Excused site console) : Excused site (console.hear site reply) := by
  cases hphase : console.phase with
  | closed result => rwa [hear_closed hphase]
  | confirming reset =>
    rw [hear_confirming hphase]
    exact conclude_excused _ _
  | ready =>
    rcases reply with _ | text | why
    · rw [hear_end hphase]
      exact close_excused _
    · rw [hear_line hphase]
      rcases (console.desk.note (.prompted mainPrompt)).feed site console.draft text with
        ⟨rest, turn⟩
      cases turn with
      | asking reset desk =>
        intro failure hphase
        cases hphase
      | done result desk => exact conclude_excused _ result
    · rw [hear_failed hphase]
      rcases hwrite : (Action.writeLines site .err ["Input error: " ++ why]).perform
        (console.desk.note (.prompted mainPrompt)) with ⟨written, desk⟩
      cases written with
      | ok _ => exact close_excused _
      | error refused =>
        intro failure hphase
        cases hphase
        exact writeLine_refused hwrite

theorem run_result_refused (desk : Desk E) (replies : List Reply) {failure : Failure}
    (hresult : ((start site desk).run site replies).1.result = .error failure) :
    Refused site ((start site desk).run site replies).1.desk failure := by
  have hexcused : Excused site ((start site desk).run site replies).1 :=
    run_invariant hear_excused (proceed_excused _) replies
  refine hexcused failure ?_
  rw [result] at hresult
  cases hphase : ((start site desk).run site replies).1.phase with
  | closed result =>
    rw [hphase] at hresult
    rw [show result = .error failure from hresult]
  | _ => simp [hphase] at hresult

/-! ## Whole runs -/

theorem exchanges_eq_nil_iff (console : Console E) (replies : List Reply) :
    console.exchanges site replies = [] ↔ console.isClosed = true := by
  refine ⟨fun hnil => ?_, fun hclosed => exchanges_of_isClosed hclosed replies⟩
  by_contra hopen
  cases replies with
  | nil =>
    rw [exchanges, lastExchanges, if_neg hopen] at hnil
    split at hnil <;> cases hnil
  | cons reply replies =>
    rw [exchanges, if_neg hopen] at hnil
    cases hnil

section Cut

variable {console : Console E} {replies : List Reply} {before rest : List (Exchange E)}
  {exchange : Exchange E}

theorem stops_iff_last (hsound : console.Sound)
    (hcut : console.exchanges site replies = before ++ exchange :: rest) :
    exchange.Stops site ↔ rest = [] := by
  have hlinked : Linked site console (console.exchanges site replies) :=
    exchanges_linked console replies
  have hfinal := @run_eq_foldl E site console replies
  rw [hcut] at hlinked hfinal
  obtain ⟨hfrom, hhere, hopen, hrest⟩ := hlinked.split hsound
  refine (isClosed_hear_iff hhere hopen exchange.reply).symm.trans ?_
  constructor
  · intro hclosed
    cases rest with
    | nil => rfl
    | cons next rest =>
      obtain ⟨-, hnext, -⟩ := hrest
      simp [Exchange.after, hclosed] at hnext
  · rintro rfl
    rw [List.foldl_append, List.foldl_cons, List.foldl_nil, ← hfrom] at hfinal
    rw [← hfinal]
    exact run_isClosed console replies

theorem question_iff {next : Exchange E} {reset : Reset} (hsound : console.Sound)
    (hcut : console.exchanges site replies = before ++ exchange :: next :: rest) :
    next.question? = some reset ↔ exchange.command? = some (.reset reset) := by
  have hlinked : Linked site console (console.exchanges site replies) :=
    exchanges_linked console replies
  rw [hcut] at hlinked
  obtain ⟨-, -, hopen, hnext, -, -⟩ := hlinked.split hsound
  rw [← @phase_hear_eq_confirming_iff E site exchange.console hopen exchange.reply reset,
    Exchange.question?, hnext, Exchange.after]
  cases (exchange.console.hear site exchange.reply).phase <;> simp

end Cut

theorem question?_first {desk : Desk E} {replies : List Reply} {first : Exchange E}
    {rest : List (Exchange E)} (hcut : (start site desk).exchanges site replies = first :: rest) :
    first.question? = none := by
  have hlinked : Linked site (start site desk) ((start site desk).exchanges site replies) :=
    exchanges_linked _ replies
  rw [hcut] at hlinked
  obtain ⟨hfirst, hopen, -⟩ := hlinked
  have hready : (start site desk).phase = .ready :=
    (proceed_phase site { desk }).2.resolve_left (by simpa [start] using hopen)
  rw [Exchange.question?, hfirst, hready]

theorem prompts_run (desk : Desk E) (replies : List Reply) :
    Transcript.prompts ((start site desk).run site replies).1.desk.transcript =
      Transcript.prompts desk.transcript ++
        ((start site desk).exchanges site replies).map (·.prompt) := by
  have hstart : Transcript.prompts (start site desk).desk.transcript =
      Transcript.prompts desk.transcript := (proceed_quiet site { desk }).prompts
  have hfold := run_foldl (fun console : Console E => Transcript.prompts console.desk.transcript)
    (fun prompts exchange => prompts ++ [exchange.prompt])
    (fun console reply _ hopen => @prompts_hear E site console hopen reply)
    (start_sound site desk) replies
  rw [hfold, List.foldl_append_eq_append, hstart, ← List.flatMap_def, ← List.map_eq_flatMap]

/-- **The input is accounted for.** A run ends. Its history goes from the start to the end of the run,
each exchange taking up where the one before it ended. Each reply is heard once and in order, or
left unread, and a prompt is shown for each exchange. The first exchange is at the main prompt, and
any other one is an answer exactly if the line before it completed a reset. Nothing is read in a
session that has been left; otherwise the history ends at the first exchange with a reason to stop.
What is left unread has no influence. The result is a failure only if the error stream or the last
flush was refused. -/
theorem run_accounts_for_input (site : Site) (desk : Desk E) (replies : List Reply) :
    let log := (start site desk).exchanges site replies
    let final := ((start site desk).run site replies).1
    let unread := ((start site desk).run site replies).2
    final.isClosed = true ∧
      Linked site (start site desk) log ∧
      final = log.foldl (fun console exchange => console.hear site exchange.reply)
        (start site desk) ∧
      log.filterMap (·.reply) ++ unread = replies ∧
      Transcript.prompts final.desk.transcript =
        Transcript.prompts desk.transcript ++ log.map (·.prompt) ∧
      (∀ first rest, log = first :: rest → first.question? = none) ∧
      (∀ before exchange next rest reset, log = before ++ exchange :: next :: rest →
        (next.question? = some reset ↔ exchange.command? = some (.reset reset))) ∧
      (log = [] ↔ desk.session.exited = true) ∧
      (∀ before exchange rest, log = before ++ exchange :: rest →
        (exchange.Stops site ↔ rest = [])) ∧
      ((∀ exchange ∈ log, exchange.reply ≠ none) → ∀ other,
        (start site desk).run site (log.filterMap (·.reply) ++ other) = (final, other)) ∧
      (∀ failure, final.result = .error failure → Refused site final.desk failure) := by
  intro log final unread
  have hsound := start_sound site desk
  have hleft : log = [] ↔ desk.session.exited = true := by
    rw [← (proceed_phase site ({ desk } : Console E)).1]
    exact exchanges_eq_nil_iff (start site desk) replies
  exact ⟨run_isClosed _ replies, exchanges_linked _ replies, run_eq_foldl _ replies,
    filterMap_reply_append_unread _ replies, prompts_run desk replies,
    fun _ _ hcut => question?_first hcut, fun _ _ _ _ _ hcut => question_iff hsound hcut, hleft,
    fun _ _ _ hcut => stops_iff_last hsound hcut,
    fun hheard other => run_heard_append _ replies other hheard,
    fun _ hresult => run_result_refused desk replies hresult⟩

end Console

end Scratchpad
