import Mathlib.Data.List.Induction
import Scratchpad.Proofs.Console.History

/-!
# The program as the record of a run

Only two kinds of exchanges touch the program: a line at the main prompt that edits it, and the
answer `y` or `Y` to the question whether to throw it away (`program_hear`). So the program is the
fold of these changes over the history, and a line of it holds what the last edit of its number since
the program was last thrown away says (`records_foldl`).
-/

namespace Scratchpad

variable {E : Engine} {site : Site}

namespace Exchange

/-- The edit that was made, if the reply was a line at the main prompt that makes one. -/
def edit? (exchange : Exchange E) : Option LineEdit :=
  match exchange.question?, exchange.reply with
  | none, some (.line text) => LineEdit.ofLine? text
  | _, _ => none

/-- The program was thrown away: it was asked whether to, and the answer agreed. -/
def Clears (exchange : Exchange E) : Prop :=
  exchange.question? = some .program ∧
    (exchange.reply = some (.line "y") ∨ exchange.reply = some (.line "Y"))

instance (exchange : Exchange E) : Decidable exchange.Clears :=
  inferInstanceAs (Decidable (_ ∧ _))

def revise (program : Program) (exchange : Exchange E) : Program :=
  if exchange.Clears then {}
  else
    match exchange.edit? with
    | some edit => edit.apply program
    | none => program

/-- The last edit of a number in a history, unless the program was thrown away later. Without a text
the edit deletes the line. -/
def LastEdit (log : List (Exchange E)) (number : Int) (text : Option String) : Prop :=
  ∃ before exchange rest, log = before ++ exchange :: rest ∧
    exchange.edit? = some ⟨number, text⟩ ∧
    ∀ later ∈ rest, ¬ later.Clears ∧ ∀ edit, later.edit? = some edit → edit.number ≠ number

/-- Why an exchange leaves the program alone. -/
inductive Idle (exchange : Exchange E) : Prop where
  /-- The line completed a command: an evaluation, or any other one. -/
  | commanded (command : Command) (hcommand : exchange.command? = some command)
  /-- The line does not start with the number of a line. -/
  | malformed (text : String) (failure : Failure) (hmain : exchange.question? = none)
      (hreply : exchange.reply = some (.line text)) (hparse : LineEdit.parse text = .error failure)
  /-- The line goes on with a command. -/
  | continued (text draft : String) (hmain : exchange.question? = none)
      (hreply : exchange.reply = some (.line text))
      (hintake : Intake.ofLine exchange.console.draft text = .continued draft)
  /-- The reply answers a question, and does not agree to throw the program away. -/
  | answered (reset : Reset) (hquestion : exchange.question? = some reset)
      (hanswer : reset = .program →
        exchange.reply ≠ some (.line "y") ∧ exchange.reply ≠ some (.line "Y"))
  /-- There was no line to read. -/
  | silent (hreply : ∀ text, exchange.reply ≠ some (.line text))

end Exchange

/-- The program is the record of a history: a line holds a text exactly if the last edit of its
number says so. The numbers ascend within the range of edits, and the source is the texts in that
order. -/
structure Program.Records (program : Program) (log : List (Exchange E)) : Prop where
  holds : ∀ number text,
    program.get? number = some text ↔ Exchange.LastEdit log number (some text)
  deleted : ∀ number, Exchange.LastEdit log number none → program.get? number = none
  mem_lines : ∀ number text,
    (number, text) ∈ program.lines ↔ program.get? number = some text
  ascending : program.lines.Pairwise (·.1 < ·.1)
  bounded : ∀ line ∈ program.lines, 0 ≤ line.1 ∧ line.1 ≤ 2147483647
  source : program.source = String.join (program.lines.map fun line => line.2 ++ "\n")

/-! ## What one exchange does to the program -/

theorem Action.program_carryOut (reset : Reset) (desk : Desk E) :
    ((carryOut site reset).perform desk).2.session.program =
      if reset = .program then {} else desk.session.program := by
  rw [perform_carryOut]
  cases happly : reset.apply desk.session with
  | ok changed =>
    dsimp only
    rw [(Quiet.writeLines site .out [reset.acknowledgement] _).session]
    exact (Reset.apply_ok happly).2
  | error failure =>
    have hne : reset ≠ .program := by
      rintro rfl
      simp [Reset.apply] at happly
    rw [if_neg hne]

theorem Action.program_execute {command : Command} (hcommand : ∀ reset, command ≠ .reset reset)
    (desk : Desk E) :
    ((execute site command).perform desk).2.session.program = desk.session.program := by
  rcases (executed site command desk).session_eq with hsame | heffect
  · rw [hsame]
  · rw [heffect]
    cases command with
    | reset what => exact absurd rfl (hcommand what)
    | _ => rfl

theorem Desk.program_answer (reset : Reset) (reply : Option Reply) (desk : Desk E) :
    (desk.answer site reset reply).2.session.program =
      if reset = .program ∧ (reply = some (.line "y") ∨ reply = some (.line "Y")) then {}
      else desk.session.program := by
  rcases reply with _ | text | why
  · simp [answer, note]
  · rw [answer_line]
    simp only [Option.some.injEq, Reply.line.injEq, ← isAffirmative_iff]
    cases isAffirmative text with
    | true => simpa [note] using Action.program_carryOut reset (desk.note (.prompted reset.question))
    | false => simp [note]
  · simp [answer, note]

theorem LineEdit.ofLine?_of_command? {draft line : String} {command : Command}
    (hcommand : Intake.command? draft line = some command) : LineEdit.ofLine? line = none := by
  refine ofLine?_of_ne_edit draft fun parsed hintake => ?_
  simp [Intake.command?, hintake] at hcommand

theorem Desk.program_feed {draft line rest : String} {result : Except Failure Unit}
    {desk after : Desk E} (hfeed : desk.feed site draft line = (rest, .done result after)) :
    after.session.program = (desk.edited (LineEdit.ofLine? line)).session.program := by
  rcases feed_done hfeed with ⟨command, hcommand, hne, hperform⟩ | ⟨-, rfl⟩
  · have hkept := @Action.program_execute E site command hne desk
    rw [hperform] at hkept
    rw [LineEdit.ofLine?_of_command? hcommand]
    exact hkept
  · rfl

namespace Exchange

theorem not_clears_of_edit? {exchange : Exchange E} {edit : LineEdit}
    (hedit : exchange.edit? = some edit) : ¬ exchange.Clears := by
  rintro ⟨hquestion, -⟩
  simp [edit?, hquestion] at hedit

theorem revise_of_edit? {exchange : Exchange E} {edit : LineEdit}
    (hedit : exchange.edit? = some edit) (program : Program) :
    exchange.revise program = edit.apply program := by
  rw [revise, if_neg (not_clears_of_edit? hedit), hedit]

theorem revise_of_idle {exchange : Exchange E} (hidle : exchange.Idle) (program : Program) :
    exchange.revise program = program := by
  have hkept : ¬ exchange.Clears ∧ exchange.edit? = none := by
    cases hidle with
    | commanded command hcommand =>
      rw [command?] at hcommand
      split at hcommand
      · rename_i hmain hreply
        simp [Clears, edit?, hmain, hreply, LineEdit.ofLine?_of_command? hcommand]
      · cases hcommand
    | malformed text failure hmain hreply hparse =>
      simp [Clears, edit?, hmain, hreply, LineEdit.ofLine?, hparse, Except.toOption]
    | continued text draft hmain hreply hintake =>
      have hnone : LineEdit.ofLine? text = none :=
        LineEdit.ofLine?_of_ne_edit exchange.console.draft (by simp [hintake])
      simp [Clears, edit?, hmain, hreply, hnone]
    | answered reset hquestion hanswer =>
      refine ⟨fun hclears => ?_, by simp [edit?, hquestion]⟩
      obtain rfl := Option.some.inj (hquestion.symm.trans hclears.1)
      exact hclears.2.elim (hanswer rfl).1 (hanswer rfl).2
    | silent hreply =>
      refine ⟨fun hclears => hclears.2.elim (hreply _) (hreply _), ?_⟩
      rw [edit?]
      split
      · exact absurd (by assumption) (hreply _)
      · rfl
  rw [revise, if_neg hkept.1, hkept.2]

end Exchange

/-- **What an exchange does to the program.** -/
theorem Console.program_hear {console : Console E} (hopen : console.isClosed = false)
    (reply : Option Reply) :
    (console.hear site reply).desk.session.program =
      Exchange.revise console.desk.session.program ⟨console, reply⟩ := by
  obtain ⟨desk, hheard, hquiet⟩ := @hear_heard E site console hopen reply
  rw [hquiet.session]
  cases hheard with
  | unread hphase hreply =>
    rw [Exchange.revise_of_idle (.silent hreply)]
    rfl
  | asked hphase text hreply reset hcommand =>
    rw [Exchange.revise_of_idle (.commanded (.reset reset) ?_)]
    · rfl
    · simp [Exchange.command?, Exchange.question?, hphase, hreply, hcommand]
  | fed hphase text hreply rest result after hfeed =>
    rw [Desk.program_feed hfeed]
    simp only [Exchange.revise, Exchange.Clears, Exchange.edit?, Exchange.question?, hphase, hreply]
    cases LineEdit.ofLine? text <;> simp [Desk.edited, Desk.note]
  | answered reset hphase =>
    simp only [Desk.program_answer, Exchange.revise, Exchange.Clears, Exchange.edit?,
      Exchange.question?, hphase, Option.some.injEq]

/-! ## The last edit -/

namespace Exchange

theorem lastEdit_concat_iff {log : List (Exchange E)} {exchange : Exchange E} {number : Int}
    {text : Option String} :
    LastEdit (log ++ [exchange]) number text ↔
      exchange.edit? = some ⟨number, text⟩ ∨
        (LastEdit log number text ∧ ¬ exchange.Clears ∧
          ∀ edit, exchange.edit? = some edit → edit.number ≠ number) := by
  constructor
  · rintro ⟨before, found, rest, hlog, hedit, hlater⟩
    -- the last exchange is the edit itself, or it comes after it
    rcases rest.eq_nil_or_concat with rfl | ⟨others, last, rfl⟩
    · obtain ⟨-, hlast⟩ := List.append_inj' hlog rfl
      obtain rfl := List.singleton_inj.mp hlast
      exact Or.inl hedit
    · rw [List.concat_eq_append] at hlog hlater
      rw [← List.cons_append, ← List.append_assoc] at hlog
      obtain ⟨hfront, hlast⟩ := List.append_inj' hlog rfl
      obtain rfl := List.singleton_inj.mp hlast
      refine Or.inr ⟨⟨before, found, others, hfront, hedit, fun later hmem => ?_⟩, ?_⟩
      · exact hlater later (List.mem_append_left _ hmem)
      · exact hlater exchange (List.mem_append_right _ List.mem_cons_self)
  · rintro (hedit | ⟨⟨before, found, rest, rfl, hedit, hlater⟩, hlast⟩)
    · exact ⟨log, exchange, [], rfl, hedit, by simp⟩
    · refine ⟨before, found, rest ++ [exchange], by simp, hedit, fun later hmem => ?_⟩
      rcases List.mem_append.mp hmem with hmem | hmem
      · exact hlater later hmem
      · rwa [List.mem_singleton.mp hmem]

theorem get?_of_lastEdit {log : List (Exchange E)} {number : Int} {text : Option String}
    (hlast : LastEdit log number text) : (log.foldl revise {}).get? number = text := by
  induction log using List.reverseRecOn generalizing text with
  | nil =>
    obtain ⟨before, exchange, rest, hlog, -⟩ := hlast
    simp at hlog
  | append_singleton log exchange ih =>
    rw [List.foldl_append, List.foldl_cons, List.foldl_nil]
    rcases lastEdit_concat_iff.mp hlast with hedit | ⟨hbefore, hclears, hother⟩
    · rw [revise_of_edit? hedit, LineEdit.get?_apply, if_pos rfl]
    · cases hedit : exchange.edit? with
      | none => rw [revise, if_neg hclears, hedit, ih hbefore]
      | some edit =>
        rw [revise_of_edit? hedit, LineEdit.get?_apply, if_neg (Ne.symm (hother edit hedit)),
          ih hbefore]

theorem lastEdit_of_get? {log : List (Exchange E)} {number : Int} {text : String}
    (hget : (log.foldl revise {}).get? number = some text) : LastEdit log number (some text) := by
  induction log using List.reverseRecOn with
  | nil => simp [Program.get?] at hget
  | append_singleton log exchange ih =>
    rw [List.foldl_append, List.foldl_cons, List.foldl_nil] at hget
    rw [lastEdit_concat_iff]
    by_cases hclears : exchange.Clears
    · rw [revise, if_pos hclears] at hget
      simp [Program.get?] at hget
    · cases hedit : exchange.edit? with
      | none =>
        rw [revise, if_neg hclears, hedit] at hget
        exact Or.inr ⟨ih hget, hclears, by simp⟩
      | some edit =>
        rw [revise_of_edit? hedit, LineEdit.get?_apply] at hget
        by_cases hnumber : number = edit.number
        · subst hnumber
          rw [if_pos rfl] at hget
          exact Or.inl (by rw [← hget])
        · rw [if_neg hnumber] at hget
          refine Or.inr ⟨ih hget, hclears, ?_⟩
          rintro _ ⟨rfl⟩
          exact Ne.symm hnumber

theorem lastEdit_number {log : List (Exchange E)} {number : Int} {text : Option String}
    (hlast : LastEdit log number text) : 0 ≤ number ∧ number ≤ 2147483647 := by
  obtain ⟨before, exchange, rest, -, hedit, -⟩ := hlast
  rw [edit?] at hedit
  split at hedit
  · exact LineEdit.ofLine?_number hedit
  · cases hedit

theorem ascending_foldl (log : List (Exchange E)) : (log.foldl revise {}).Ascending := by
  induction log using List.reverseRecOn with
  | nil => exact Program.ascending_empty
  | append_singleton log exchange ih =>
    rw [List.foldl_append, List.foldl_cons, List.foldl_nil, revise]
    split
    · exact Program.ascending_empty
    · split
      · exact LineEdit.ascending_apply _ ih
      · exact ih

theorem records_foldl (log : List (Exchange E)) : (log.foldl revise {}).Records log where
  holds _ _ := ⟨lastEdit_of_get?, get?_of_lastEdit⟩
  deleted _ := get?_of_lastEdit
  mem_lines := (ascending_foldl log).mem_lines_iff
  ascending := ascending_foldl log
  bounded := by
    rintro ⟨number, text⟩ hline
    exact lastEdit_number (lastEdit_of_get? (((ascending_foldl log).mem_lines_iff _ _).mp hline))
  source := by rw [Program.source, Text.unlines, List.map_map]; rfl

end Exchange

/-! ## Listing the program -/

theorem Console.written_list {console : Console E} {reply : Option Reply}
    (haccepts : ∀ n, site.refusal .out n = none)
    (hlist : Exchange.command? ⟨console, reply⟩ = some .list) (hopen : console.isClosed = false) :
    Transcript.written .out (console.hear site reply).desk.transcript =
      Transcript.written .out console.desk.transcript ++
        String.join (console.desk.session.program.lines.map fun line =>
          toString line.1 ++ "\t" ++ line.2 ++ "\n") := by
  have hperform : (Action.execute site .list).perform (console.desk.note (.prompted mainPrompt)) =
      (Action.writeLines site .out console.desk.session.program.listing).perform
        (console.desk.note (.prompted mainPrompt)) := rfl
  have hprompt : Transcript.written .out [.prompted mainPrompt] = "" := rfl
  rw [hear_command hlist (by simp) hopen, hperform, Action.perform_writeLines_accepted haccepts]
  dsimp only [conclude]
  rw [transcript_proceed, Desk.note, Transcript.written_append, Transcript.written_append,
    Transcript.written_lines, hprompt, String.append_empty, Program.listing, List.map_map]
  rfl

/-! ## Whole runs -/

/-- **The program is the record of the run.** If it is empty at the start, then at each exchange it is
the record of those before, and at the end of the whole history. The exchanges that are idle leave
it as it is. Listing it writes number, tab and text of its lines in order. -/
theorem Console.run_records_last_edits (site : Site) (desk : Desk E)
    (hempty : desk.session.program = {}) (replies : List Reply) :
    let log := (start site desk).exchanges site replies
    ((start site desk).run site replies).1.desk.session.program.Records log ∧
      ∀ before exchange rest, log = before ++ exchange :: rest →
        exchange.console.desk.session.program.Records before ∧
          (exchange.Idle → (exchange.after site).desk.session.program =
            exchange.console.desk.session.program) ∧
          ((∀ n, site.refusal .out n = none) → exchange.command? = some .list →
            Transcript.written .out (exchange.after site).desk.transcript =
              Transcript.written .out exchange.console.desk.transcript ++
                String.join (exchange.console.desk.session.program.lines.map fun line =>
                  toString line.1 ++ "\t" ++ line.2 ++ "\n")) := by
  intro log
  have hsound := start_sound site desk
  have hlinked : Linked site (start site desk) log := exchanges_linked _ replies
  have hstart : (start site desk).desk.session.program = {} := by
    rw [start, (proceed_quiet site _).session, hempty]
  have hfold : ∀ part : List (Exchange E), Linked site (start site desk) part →
      (part.foldl (fun c exchange => c.hear site exchange.reply)
        (start site desk)).desk.session.program = part.foldl Exchange.revise {} := by
    intro part hpart
    rw [← hstart]
    exact hpart.foldl (fun console => console.desk.session.program) Exchange.revise
      (fun _ reply _ hopen => program_hear hopen reply) hsound
  refine ⟨?_, fun before exchange rest hcut => ?_⟩
  · rw [run_eq_foldl, hfold log hlinked]
    exact Exchange.records_foldl log
  · rw [hcut] at hlinked
    obtain ⟨hfrom, -, hopen, -⟩ := hlinked.split hsound
    refine ⟨?_, fun hidle => ?_, fun haccepts hlist => written_list haccepts hlist hopen⟩
    -- a history that is cut short is linked as well, so the fold reaches this exchange
    · rw [hfrom, hfold before hlinked.of_append]
      exact Exchange.records_foldl before
    · rw [Exchange.after, program_hear hopen exchange.reply]
      exact Exchange.revise_of_idle hidle _

/-- The answer `10 z` is no edit, so the line keeps its text; the other one is deleted. -/
theorem Console.run_records_last_edits_script :
    let site : Site := { frameworkDir := "", identifier := fun _ => "", clock := fun _ => 0 }
    let desk : Desk .refusing := { engine := () }
    let replies : List Reply :=
      [.line "20 b", .line "10 a", .line "clear", .line "10 z", .line "20"]
    let log := (start site desk).exchanges site replies
    Exchange.LastEdit log 10 (some "a") ∧ ¬ Exchange.LastEdit log 20 (some "b") := by
  dsimp only
  constructor
  · refine ((run_records_last_edits _ _ rfl _).1.holds 10 "a").mp ?_
    decide +kernel
  · refine mt ((run_records_last_edits _ _ rfl _).1.holds 20 "b").mpr ?_
    decide +kernel

end Scratchpad
