import Scratchpad.Proofs.Console.Step

/-!
# The history of a run

A run is a list of exchanges: how the console stood, and what it heard. The history starts at the
console that is run, each exchange begins where the one before it ended (`exchanges_linked`), and
the run ends where the last one ends (`run_eq_foldl`). An exchange carries out one command, or edits
the program, or does nothing but write (`hear_executed`). What is known of one step is carried to a
whole run by `run_foldl`: any view of the console that each exchange changes in a known way is, in
the end, the fold of these changes over the history.
-/

namespace Scratchpad

/-- How a console stood, and the reply it heard, or the end of the input. -/
structure Exchange (E : Engine) where
  console : Console E
  reply : Option Reply

namespace Exchange

variable {E : Engine}

def after (site : Site) (exchange : Exchange E) : Console E :=
  exchange.console.hear site exchange.reply

/-- The reset whose question was open, if one was. Otherwise the reply was read at the main
prompt. -/
def question? (exchange : Exchange E) : Option Reset :=
  match exchange.console.phase with
  | .confirming reset => some reset
  | _ => none

def prompt (exchange : Exchange E) : String :=
  match exchange.question? with
  | some reset => reset.question
  | none => mainPrompt

/-- The command that was completed, if the reply was a line at the main prompt that completed
one. -/
def command? (exchange : Exchange E) : Option Command :=
  match exchange.question?, exchange.reply with
  | none, some (.line text) => Intake.command? exchange.console.draft text
  | _, _ => none

theorem command?_line {console : Console E} (hphase : console.phase = .ready) (text : String) :
    command? ⟨console, some (.line text)⟩ = Intake.command? console.draft text := by
  simp [command?, question?, hphase]

theorem command?_of_ne_line {exchange : Exchange E}
    (hreply : ∀ text, exchange.reply ≠ some (.line text)) : exchange.command? = none := by
  rw [command?]
  split
  · exact absurd (by assumption) (hreply _)
  · rfl

/-- The command that was carried out: a line completed it and it asks nothing, or its question was
answered with `y` or `Y`. -/
def executed? (exchange : Exchange E) : Option Command :=
  match exchange.question? with
  | some reset =>
    if exchange.reply = some (.line "y") ∨ exchange.reply = some (.line "Y") then
      some (.reset reset)
    else none
  | none =>
    match exchange.command? with
    | some (.reset _) => none
    | completed => completed

theorem executed?_of_command? {exchange : Exchange E} {command : Command}
    (hmain : exchange.question? = none) (hcommand : exchange.command? = some command)
    (hne : ∀ reset, command ≠ .reset reset) : exchange.executed? = some command := by
  rw [executed?, hmain, hcommand]
  cases command with
  | reset what => exact absurd rfl (hne what)
  | _ => rfl

end Exchange

namespace Console

variable {E : Engine} {site : Site}

/-- The exchanges at the end of the input: it is heard as the answer to an open question, and then
at the main prompt. -/
def lastExchanges (site : Site) (console : Console E) : List (Exchange E) :=
  if console.isClosed then []
  else if (console.hear site none).isClosed then [⟨console, none⟩]
  else [⟨console, none⟩, ⟨console.hear site none, none⟩]

def exchanges (site : Site) (console : Console E) : List Reply → List (Exchange E)
  | [] => console.lastExchanges site
  | reply :: replies =>
    if console.isClosed then []
    else ⟨console, some reply⟩ :: exchanges site (console.hear site (some reply)) replies

theorem hear_of_isClosed {console : Console E} (hclosed : console.isClosed = true)
    (reply : Option Reply) : console.hear site reply = console := by
  cases hphase : console.phase with
  | closed result => exact hear_closed hphase reply
  | _ => simp [isClosed, hphase] at hclosed

theorem exchanges_of_isClosed {console : Console E} (hclosed : console.isClosed = true)
    (replies : List Reply) : console.exchanges site replies = [] := by
  cases replies <;> simp [exchanges, lastExchanges, hclosed]

theorem run_of_isClosed {console : Console E} (hclosed : console.isClosed = true)
    (replies : List Reply) : console.run site replies = (console, replies) := by
  cases replies with
  | nil => rw [run, hearEnd, hear_of_isClosed hclosed, hear_of_isClosed hclosed]
  | cons reply replies => rw [run, if_pos hclosed]

theorem hear_command {console : Console E} {reply : Option Reply} {command : Command}
    (hcommand : Exchange.command? ⟨console, reply⟩ = some command)
    (hne : ∀ reset, command ≠ .reset reset) (hopen : console.isClosed = false) :
    console.hear site reply =
      conclude site
        { console with
          desk := ((Action.execute site command).perform
            (console.desk.note (.prompted mainPrompt))).2
          draft := "" }
        ((Action.execute site command).perform (console.desk.note (.prompted mainPrompt))).1 := by
  rw [Exchange.command?] at hcommand
  split at hcommand
  · rename_i text hmain hreply
    dsimp only at hreply hcommand
    subst hreply
    have hphase : console.phase = .ready := by
      cases hphase : console.phase with
      | ready => rfl
      | confirming reset => simp [Exchange.question?, hphase] at hmain
      | closed result => simp [isClosed, hphase] at hopen
    rw [Intake.command?] at hcommand
    split at hcommand
    · rename_i hintake
      obtain rfl := Option.some.inj hcommand
      rw [hear_line hphase, Desk.feed_command hintake, Desk.submit_of_ne_reset site hne]
    · cases hcommand
  · cases hcommand

theorem hear_executed {console : Console E} (hopen : console.isClosed = false)
    (reply : Option Reply) :
    let exchange : Exchange E := ⟨console, reply⟩
    let prompted := console.desk.note (.prompted exchange.prompt)
    ∃ desk, desk.Clerical (console.hear site reply).desk ∧
      ((∃ command, exchange.executed? = some command ∧
          desk = ((Action.execute site command).perform prompted).2) ∨
        (exchange.executed? = none ∧ ∃ edit?, desk = prompted.edited edit?)) := by
  intro exchange prompted
  have hmain (hphase : console.phase = .ready) :
      exchange.question? = none ∧ prompted = console.desk.note (.prompted mainPrompt) := by
    simp [prompted, exchange, Exchange.prompt, Exchange.question?, hphase]
  obtain ⟨desk, hheard, hclerical⟩ := @hear_heard E site console hopen reply
  refine ⟨desk, hclerical, ?_⟩
  cases hheard with
  | unread hphase hreply =>
    obtain ⟨hquestion, hprompted⟩ := hmain hphase
    have hcommand : exchange.command? = none := Exchange.command?_of_ne_line hreply
    refine Or.inr ⟨?_, none, hprompted.symm⟩
    rw [Exchange.executed?, hquestion, hcommand]
  | asked hphase text hreply reset hreset =>
    obtain ⟨hquestion, hprompted⟩ := hmain hphase
    have hcommand : exchange.command? = some (.reset reset) := by
      subst hreply
      rw [← hreset, Exchange.command?_line hphase]
    refine Or.inr ⟨?_, none, hprompted.symm⟩
    rw [Exchange.executed?, hquestion, hcommand]
  | fed hphase text hreply rest result after hfeed =>
    obtain ⟨hquestion, hprompted⟩ := hmain hphase
    have hcommand : exchange.command? = Intake.command? console.draft text := by
      subst hreply
      exact Exchange.command?_line hphase text
    rw [hprompted]
    rcases Desk.feed_done hfeed with ⟨command, hcompleted, hne, hperform⟩ | ⟨hnone, rfl⟩
    · refine Or.inl ⟨command, ?_, by rw [hperform]⟩
      exact Exchange.executed?_of_command? hquestion (hcommand.trans hcompleted) hne
    · refine Or.inr ⟨?_, _, rfl⟩
      rw [Exchange.executed?, hquestion, hcommand, hnone]
  | answered reset hphase =>
    have hquestion : exchange.question? = some reset := by
      simp [exchange, Exchange.question?, hphase]
    have hprompted : prompted = console.desk.note (.prompted reset.question) := by
      simp only [prompted, Exchange.prompt, hquestion]
    rw [Exchange.executed?, hquestion, hprompted]
    rcases reply with _ | text | why
    · exact Or.inr ⟨rfl, none, rfl⟩
    · rw [Desk.answer_line]
      simp only [exchange, Option.some.injEq, Reply.line.injEq, ← isAffirmative_iff]
      split
      · exact Or.inl ⟨_, rfl, rfl⟩
      · exact Or.inr ⟨rfl, none, rfl⟩
    · exact Or.inr ⟨rfl, none, rfl⟩

theorem run_eq_foldl (console : Console E) (replies : List Reply) :
    (console.run site replies).1 =
      (console.exchanges site replies).foldl (fun c exchange => c.hear site exchange.reply)
        console := by
  induction replies generalizing console with
  | nil =>
    rw [run, exchanges, lastExchanges, hearEnd]
    by_cases hclosed : console.isClosed = true
    · rw [if_pos hclosed, hear_of_isClosed hclosed, hear_of_isClosed hclosed]
      rfl
    · rw [if_neg hclosed]
      split
      · rename_i hnext
        rw [hear_of_isClosed hnext]
        rfl
      · rfl
  | cons reply replies ih =>
    rw [run, exchanges]
    split
    · rfl
    · rw [ih, List.foldl_cons]

/-- Each exchange begins where the one before it ended, the first one at the console that is run,
and none begins at a closed console. -/
def Linked (site : Site) : Console E → List (Exchange E) → Prop
  | _, [] => True
  | console, exchange :: rest =>
    exchange.console = console ∧ console.isClosed = false ∧ Linked site (exchange.after site) rest

theorem exchanges_linked (console : Console E) (replies : List Reply) :
    Linked site console (console.exchanges site replies) := by
  induction replies generalizing console with
  | nil =>
    rw [exchanges, lastExchanges]
    split
    · trivial
    · rename_i hopen
      split
      · exact ⟨rfl, by simpa using hopen, trivial⟩
      · rename_i hnext
        exact ⟨rfl, by simpa using hopen, rfl, by simpa [Exchange.after] using hnext, trivial⟩
  | cons reply replies ih =>
    rw [exchanges]
    split
    · trivial
    · rename_i hopen
      exact ⟨rfl, by simpa using hopen, ih _⟩

theorem Linked.of_append {console : Console E} {log rest : List (Exchange E)}
    (hlinked : Linked site console (log ++ rest)) : Linked site console log := by
  induction log generalizing console with
  | nil => trivial
  | cons exchange log ih => exact ⟨hlinked.1, hlinked.2.1, ih hlinked.2.2⟩

theorem Linked.foldl {σ : Type} (view : Console E → σ) (change : σ → Exchange E → σ)
    (hstep : ∀ console reply, console.Sound → console.isClosed = false →
      view (console.hear site reply) = change (view console) ⟨console, reply⟩)
    {console : Console E} {log : List (Exchange E)} (hlinked : Linked site console log)
    (hsound : console.Sound) :
    view (log.foldl (fun c exchange => c.hear site exchange.reply) console) =
      log.foldl change (view console) := by
  induction log generalizing console with
  | nil => rfl
  | cons exchange log ih =>
    obtain ⟨rfl, hopen, hlinked⟩ := hlinked
    rw [List.foldl_cons, List.foldl_cons, ← hstep _ exchange.reply hsound hopen]
    exact ih hlinked (hear_sound hsound exchange.reply)

/-- What each exchange does to a view of the console, a run does to it over its history. -/
theorem run_foldl {σ : Type} (view : Console E → σ) (change : σ → Exchange E → σ)
    (hstep : ∀ console reply, console.Sound → console.isClosed = false →
      view (console.hear site reply) = change (view console) ⟨console, reply⟩)
    {console : Console E} (hsound : console.Sound) (replies : List Reply) :
    view (console.run site replies).1 =
      (console.exchanges site replies).foldl change (view console) := by
  rw [run_eq_foldl]
  exact (exchanges_linked console replies).foldl view change hstep hsound

theorem run_invariant {P : Console E → Prop} (hstep : ∀ console reply, P console →
    P (console.hear site reply)) {console : Console E} (hconsole : P console)
    (replies : List Reply) : P (console.run site replies).1 := by
  rw [run_eq_foldl]
  generalize console.exchanges site replies = log
  induction log generalizing console with
  | nil => exact hconsole
  | cons exchange log ih => exact ih (hstep console exchange.reply hconsole)

/-- Wherever a history is cut, the exchange there begins where the exchanges before it lead, at a
sound console that is open, and the rest is linked to it. -/
theorem Linked.split {console : Console E} {before rest : List (Exchange E)}
    {exchange : Exchange E} (hlinked : Linked site console (before ++ exchange :: rest))
    (hsound : console.Sound) :
    exchange.console = before.foldl (fun c x => c.hear site x.reply) console ∧
      exchange.console.Sound ∧ exchange.console.isClosed = false ∧
      Linked site (exchange.after site) rest := by
  induction before generalizing console with
  | nil =>
    obtain ⟨rfl, hopen, hrest⟩ := hlinked
    exact ⟨rfl, hsound, hopen, hrest⟩
  | cons first before ih =>
    obtain ⟨rfl, -, hrest⟩ := hlinked
    exact ih hrest (hear_sound hsound first.reply)

/-! ## The end of a run -/

theorem proceed_phase (site : Site) (console : Console E) :
    (console.proceed site).isClosed = console.desk.session.exited ∧
      ((console.proceed site).isClosed = true ∨ (console.proceed site).phase = .ready) := by
  rw [proceed]
  cases hexited : console.desk.session.exited with
  | true => exact ⟨rfl, Or.inl rfl⟩
  | false => exact ⟨rfl, Or.inr rfl⟩

theorem hear_none_isClosed {console : Console E}
    (hphase : console.isClosed = true ∨ console.phase = .ready) :
    (console.hear site none).isClosed = true := by
  rcases hphase with hclosed | hready
  · rwa [hear_of_isClosed hclosed]
  · rw [hear_end hready]
    rfl

theorem hearEnd_isClosed (console : Console E) : (console.hearEnd site).isClosed = true := by
  rw [hearEnd]
  cases hphase : console.phase with
  | closed result =>
    exact hear_none_isClosed (Or.inl (by rw [hear_closed hphase, isClosed, hphase]))
  | ready => exact hear_none_isClosed (Or.inl (hear_none_isClosed (Or.inr hphase)))
  | confirming reset =>
    -- the first time it is the answer, after which no question is open
    refine hear_none_isClosed ?_
    rw [hear_confirming hphase]
    exact (proceed_phase site _).2

theorem run_isClosed (console : Console E) (replies : List Reply) :
    (console.run site replies).1.isClosed = true := by
  induction replies generalizing console with
  | nil => exact hearEnd_isClosed console
  | cons reply replies ih =>
    rw [run]
    split
    · assumption
    · exact ih _

/-! ## The replies of a run -/

theorem filterMap_reply_cons (console : Console E) (reply : Reply) (log : List (Exchange E)) :
    (⟨console, some reply⟩ :: log).filterMap (·.reply) = reply :: log.filterMap (·.reply) :=
  rfl

theorem filterMap_reply_append_unread (console : Console E) (replies : List Reply) :
    (console.exchanges site replies).filterMap (·.reply) ++ (console.run site replies).2 =
      replies := by
  induction replies generalizing console with
  | nil =>
    rw [exchanges, lastExchanges, run]
    split
    · rfl
    · split <;> rfl
  | cons reply replies ih =>
    rw [exchanges, run]
    split
    · rfl
    · rw [filterMap_reply_cons, List.cons_append, ih]

/-- A run that did not hear the end of the input does not depend on what it left unread. -/
theorem run_heard_append (console : Console E) (replies other : List Reply)
    (hheard : ∀ exchange ∈ console.exchanges site replies, exchange.reply ≠ none) :
    console.run site ((console.exchanges site replies).filterMap (·.reply) ++ other) =
      ((console.run site replies).1, other) := by
  induction replies generalizing console with
  | nil =>
    by_cases hclosed : console.isClosed = true
    · rw [exchanges_of_isClosed hclosed, run_of_isClosed hclosed, run_of_isClosed hclosed]
      rfl
    -- an open console without replies hears the end of the input
    · refine absurd rfl (hheard ⟨console, none⟩ ?_)
      rw [exchanges, lastExchanges, if_neg hclosed]
      split <;> simp
  | cons reply replies ih =>
    by_cases hclosed : console.isClosed = true
    · rw [exchanges_of_isClosed hclosed, run_of_isClosed hclosed, run_of_isClosed hclosed]
      rfl
    · rw [exchanges, if_neg hclosed] at hheard ⊢
      rw [filterMap_reply_cons, List.cons_append, run, if_neg hclosed, run, if_neg hclosed]
      exact ih _ fun exchange hexchange => hheard exchange (List.mem_cons_of_mem _ hexchange)

end Console

end Scratchpad
