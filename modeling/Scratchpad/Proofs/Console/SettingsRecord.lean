import Mathlib.Data.List.DropRight
import Mathlib.Data.List.Induction
import Scratchpad.Proofs.Console.History

/-!
# The settings as the record of a run

The settings of a session are the record of the commands that were carried out. The tag is the one
of the last switch to a framework that is known. The usings and the references are two rosters that
are kept alike: a switch fills them with what its framework brings along, a reset of their own leaves
one entry, and what is added later stands behind, in order. So a roster is known from the exchanges
since the last one that set it (`Settings.Reflects`).

`Command.adjust_cases` says what a command can do to the settings, `reflects_concat` that the record
stays right, and `run_reflects_executed_commands` that it is right at every point of a run.
-/

namespace Scratchpad

variable {E : Engine} {site : Site}

/-- The two lists of names among the settings. -/
inductive Roster where
  | usings
  | references

namespace Roster

def entries (settings : Settings) : Roster → List String
  | .usings => settings.usings
  | .references => settings.references

def defaults (framework : Framework) : Roster → List String
  | .usings => framework.defaultUsings
  | .references => framework.defaultReferences

/-- The entries that are left once the roster is cleared. -/
def remainder : Roster → List String
  | .usings => ["System"]
  | .references => ["System.dll"]

def clearing : Roster → Reset
  | .usings => .usings
  | .references => .references

/-- The entry that a command adds to the roster, if it adds one. -/
def addition? : Roster → Command → Option String
  | .usings, .addUsing name => some name
  | .references, .addReference reference => some reference
  | _, _ => none

end Roster

/-- The tag that a command switches to: it is a switch, and the tag names a framework. -/
def Command.switch? : Command → Option String
  | .reset (.framework tag) => if (Framework.ofTag? tag).isSome then some tag else none
  | _ => none

namespace Exchange

def switched? (exchange : Exchange E) : Option String :=
  exchange.executed?.bind Command.switch?

def clears (roster : Roster) (exchange : Exchange E) : Bool :=
  exchange.executed? == some (.reset roster.clearing)

def added? (roster : Roster) (exchange : Exchange E) : Option String :=
  exchange.executed?.bind roster.addition?

/-- The exchanges after the last one of a kind, or all of them if there is none. -/
def sinceLast (kind : Exchange E → Bool) (log : List (Exchange E)) : List (Exchange E) :=
  log.rtakeWhile fun exchange => !kind exchange

/-- Why an exchange leaves the settings alone. -/
inductive KeepsSettings (exchange : Exchange E) : Prop where
  /-- The switch was agreed to, but its tag names no framework. -/
  | unknown (tag : String) (hexecuted : exchange.executed? = some (.reset (.framework tag)))
      (hunknown : Framework.ofTag? tag = none)
  /-- A question was open, and it was declined, or there was no answer. -/
  | declined (reset : Reset) (hquestion : exchange.question? = some reset)
      (hdeclined : exchange.reply ≠ some (.line "y") ∧ exchange.reply ≠ some (.line "Y"))
  /-- A snippet was evaluated, whatever came of it. -/
  | evaluated (command : Command) (hcommand : exchange.command? = some command)
      (hsnippet : command.snippet? exchange.console.desk.session.program ≠ none)

end Exchange

/-- The settings are the record of a history that begins with the default ones. -/
structure Settings.Reflects (settings : Settings) (log : List (Exchange E)) : Prop where
  tag : settings.tag = (log.filterMap (·.switched?)).getLast?.getD "v4.0"
  framework : Framework.ofTag? settings.tag = some settings.framework
  entries : ∀ roster : Roster, roster.entries settings =
    (if (Exchange.sinceLast (·.switched?.isSome) log).any (·.clears roster) then roster.remainder
      else roster.defaults settings.framework) ++
      (Exchange.sinceLast (fun exchange => exchange.switched?.isSome || exchange.clears roster)
        log).filterMap (·.added? roster)

/-! ## What one exchange does to the settings -/

/-- What a command does to the settings when it succeeds. -/
def Command.adjust (settings : Settings) (command : Command) : Settings :=
  (command.effect { settings }).settings

theorem Command.settings_effect (session : Session) (command : Command) :
    (command.effect session).settings = command.adjust session.settings := by
  cases command with
  | reset what =>
    cases what with
    | framework tag =>
      cases hswitch : session.settings.switch tag <;>
        simp [adjust, effect, Reset.apply, hswitch, Except.map]
    | _ => rfl
  | _ => rfl

theorem Action.settings_execute (haccepts : ∀ n, site.refusal .out n = none) (command : Command)
    (desk : Desk E) :
    ((execute site command).perform desk).2.session.settings =
      command.adjust desk.session.settings := by
  have hexecuted := executed site command desk
  cases hresult : ((execute site command).perform desk).1 with
  | ok _ => rw [hexecuted.succeeded hresult, Command.settings_effect]
  | error failure =>
    -- nothing was refused, so the session is as it was and the command changes no settings
    rcases hexecuted.failed failure hresult with hsame | ⟨reset, -, -, why, hwhy, -⟩
    · rw [hsame]
      cases command with
      | addUsing name =>
        rw [execute, perform_bind, perform_writeLines_accepted haccepts] at hresult
        cases hresult
      | addReference reference =>
        rw [execute, perform_bind, perform_writeLines_accepted haccepts] at hresult
        cases hresult
      | reset what =>
        rw [execute, perform_carryOut] at hresult
        rw [← Command.settings_effect desk.session, Command.effect]
        cases happly : what.apply desk.session with
        | error _ => rfl
        | ok changed =>
          rw [happly] at hresult
          dsimp only at hresult
          rw [perform_writeLines_accepted haccepts] at hresult
          cases hresult
      | verbose on => cases hresult
      | typeInfo on => cases hresult
      | _ => rfl
    · rw [haccepts] at hwhy
      cases hwhy

def Exchange.adjust (settings : Settings) (exchange : Exchange E) : Settings :=
  match exchange.executed? with
  | some command => command.adjust settings
  | none => settings

theorem Console.settings_hear (haccepts : ∀ n, site.refusal .out n = none) {console : Console E}
    (hopen : console.isClosed = false) (reply : Option Reply) :
    (console.hear site reply).desk.session.settings =
      Exchange.adjust console.desk.session.settings ⟨console, reply⟩ := by
  obtain ⟨desk, hclerical, hdesk⟩ := @hear_executed E site console hopen reply
  rw [hclerical.session, Exchange.adjust]
  rcases hdesk with ⟨command, hexecuted, rfl⟩ | ⟨hexecuted, edit?, rfl⟩
  · rw [hexecuted, Action.settings_execute haccepts]
    rfl
  · rw [hexecuted]
    cases edit? <;> rfl

/-- **What a command can do to the settings.** It switches to a framework, or it leaves tag and
framework alone and clears a roster or adds at most one entry to it. -/
theorem Command.adjust_cases (settings : Settings) (command : Command) :
    (∃ tag framework, command.switch? = some tag ∧ Framework.ofTag? tag = some framework ∧
      command.adjust settings =
        { settings with
          tag, framework
          usings := framework.defaultUsings
          references := framework.defaultReferences }) ∨
    (command.switch? = none ∧ (command.adjust settings).tag = settings.tag ∧
      (command.adjust settings).framework = settings.framework ∧
      ∀ roster : Roster, roster.entries (command.adjust settings) =
        if command = .reset roster.clearing then roster.remainder
        else roster.entries settings ++ (roster.addition? command).toList) := by
  cases command with
  | reset what =>
    cases what with
    | framework tag =>
      cases htag : Framework.ofTag? tag with
      | some framework =>
        refine Or.inl ⟨tag, framework, by simp [switch?, htag], htag, ?_⟩
        simp [adjust, effect, Reset.apply, Settings.switch, htag, Except.map]
      | none =>
        have hadjust : (Command.reset (.framework tag)).adjust settings = settings := by
          simp [adjust, effect, Reset.apply, Settings.switch, htag, Except.map]
        rw [hadjust]
        refine Or.inr ⟨by simp [switch?, htag], rfl, rfl, fun roster => ?_⟩
        cases roster <;> simp [Roster.clearing, Roster.addition?]
    | _ =>
      refine Or.inr ⟨rfl, rfl, rfl, fun roster => ?_⟩
      cases roster <;> simp [Roster.clearing, Roster.addition?] <;> rfl
  | _ =>
    refine Or.inr ⟨rfl, rfl, rfl, fun roster => ?_⟩
    cases roster <;> simp [Roster.addition?] <;> rfl

namespace Exchange

theorem adjust_of_keepsSettings {exchange : Exchange E} (hkeeps : exchange.KeepsSettings)
    (settings : Settings) : exchange.adjust settings = settings := by
  cases hkeeps with
  | unknown tag hexecuted hunknown =>
    simp [adjust, hexecuted, Command.adjust, Command.effect, Reset.apply, Settings.switch, hunknown,
      Except.map]
  | declined reset hquestion hdeclined =>
    simp [adjust, executed?, hquestion, hdeclined]
  | evaluated command hcommand hsnippet =>
    have hmain : exchange.question? = none := by
      cases hquestion : exchange.question? with
      | none => rfl
      | some reset => simp [command?, hquestion] at hcommand
    have hexecuted : exchange.executed? = some command := by
      refine executed?_of_command? hmain hcommand ?_
      rintro reset rfl
      exact hsnippet rfl
    rw [adjust, hexecuted]
    cases command <;> first | rfl | exact absurd rfl hsnippet

/-! ## The record of a history -/

theorem sinceLast_concat (kind : Exchange E → Bool) (log : List (Exchange E))
    (exchange : Exchange E) :
    sinceLast kind (log ++ [exchange]) =
      if kind exchange then [] else sinceLast kind log ++ [exchange] := by
  rw [sinceLast, List.rtakeWhile_concat, sinceLast]
  cases kind exchange <;> rfl

theorem entries_adjust {exchange : Exchange E} (hswitched : exchange.switched? = none)
    (settings : Settings) :
    (exchange.adjust settings).tag = settings.tag ∧
      (exchange.adjust settings).framework = settings.framework ∧
      ∀ roster : Roster, roster.entries (exchange.adjust settings) =
        if exchange.clears roster then roster.remainder
        else roster.entries settings ++ (exchange.added? roster).toList := by
  cases hexecuted : exchange.executed? with
  | none => simp [adjust, clears, added?, hexecuted]
  | some command =>
    rw [switched?, hexecuted] at hswitched
    rcases Command.adjust_cases settings command with ⟨tag, _, hswitch, -⟩ | ⟨-, hadjust⟩
    · exact absurd (hswitched.symm.trans hswitch) (by simp)
    · simpa [adjust, clears, added?, hexecuted] using hadjust

theorem reflects_concat {settings : Settings} {log : List (Exchange E)}
    (hreflects : settings.Reflects log) (exchange : Exchange E) :
    (exchange.adjust settings).Reflects (log ++ [exchange]) := by
  cases hswitched : exchange.switched? with
  | some tag =>
    -- a switch begins a new record
    obtain ⟨command, hexecuted, hswitch⟩ := Option.bind_eq_some_iff.mp hswitched
    rcases Command.adjust_cases settings command with ⟨_, framework, htag, hknown, hadjust⟩ | ⟨h, -⟩
    · obtain rfl := Option.some.inj (hswitch.symm.trans htag)
      rw [adjust, hexecuted]
      dsimp only
      rw [hadjust]
      refine ⟨by simp [hswitched], hknown, fun roster => ?_⟩
      cases roster <;> simp [sinceLast_concat, hswitched, Roster.entries, Roster.defaults]
    · exact absurd (h.symm.trans hswitch) (by simp)
  | none =>
    obtain ⟨htag, hframework, hentries⟩ := entries_adjust hswitched settings
    refine ⟨?_, by rw [htag, hframework, hreflects.framework], fun roster => ?_⟩
    · simp [htag, hswitched, hreflects.tag]
    · rw [hentries, hframework, hreflects.entries, sinceLast_concat, sinceLast_concat]
      cases hclears : exchange.clears roster with
      | true => simp [hswitched, hclears]
      | false =>
        cases hadded : exchange.added? roster <;> simp [hswitched, hclears, hadded]

theorem reflects_foldl (log : List (Exchange E)) :
    (log.foldl adjust Settings.default).Reflects log := by
  induction log using List.reverseRecOn with
  | nil => exact ⟨rfl, rfl, fun roster => by cases roster <;> rfl⟩
  | append_singleton log exchange ih =>
    rw [List.foldl_append]
    exact reflects_concat ih exchange

end Exchange

/-! ## Whole runs -/

/-- **The settings are the record of the run.** If they are the default ones at the start and the
output takes everything, then at each exchange they are the record of those before, and at the end of
the whole history. A switch to an unknown framework, an answer that does not agree and an evaluation
leave them as they are. -/
theorem Console.run_reflects_executed_commands (site : Site)
    (haccepts : ∀ n, site.refusal .out n = none) (desk : Desk E)
    (hdefault : desk.session.settings = .default) (replies : List Reply) :
    let log := (start site desk).exchanges site replies
    ((start site desk).run site replies).1.desk.session.settings.Reflects log ∧
      ∀ before exchange rest, log = before ++ exchange :: rest →
        exchange.console.desk.session.settings.Reflects before ∧
          (exchange.KeepsSettings → (exchange.after site).desk.session.settings =
            exchange.console.desk.session.settings) := by
  intro log
  have hsound := start_sound site desk
  have hlinked : Linked site (start site desk) log := exchanges_linked _ replies
  have hstart : (start site desk).desk.session.settings = .default := by
    rw [start, (proceed_quiet site _).session, hdefault]
  have hstep : ∀ (console : Console E) (reply : Option Reply), console.Sound →
      console.isClosed = false → (console.hear site reply).desk.session.settings =
        Exchange.adjust console.desk.session.settings ⟨console, reply⟩ :=
    fun _ reply _ hopen => settings_hear haccepts hopen reply
  have hfold : ∀ part : List (Exchange E), Linked site (start site desk) part →
      (part.foldl (fun c exchange => c.hear site exchange.reply)
        (start site desk)).desk.session.settings.Reflects part := by
    intro part hpart
    have hview := hpart.foldl (fun console => console.desk.session.settings) Exchange.adjust hstep
      hsound
    rw [hview, hstart]
    exact Exchange.reflects_foldl part
  refine ⟨?_, fun before exchange rest hcut => ?_⟩
  · rw [run_eq_foldl]
    exact hfold log hlinked
  · rw [hcut] at hlinked
    obtain ⟨hfrom, -, hopen, -⟩ := hlinked.split hsound
    refine ⟨?_, fun hkeeps => ?_⟩
    · rw [hfrom]
      exact hfold before hlinked.of_append
    · rw [Exchange.after, settings_hear haccepts hopen exchange.reply]
      exact Exchange.adjust_of_keepsSettings hkeeps _

/-- A switch drops what was added before it; declining to clear the usings keeps what was added
after it, twice. -/
theorem Console.run_reflects_executed_commands_script :
    let site : Site := { frameworkDir := "", identifier := fun _ => "", clock := fun _ => 0 }
    let desk : Desk .refusing := { engine := () }
    let replies : List Reply :=
      [.line "using A", .line "framework 2", .line "y", .line "using B", .line "framework 9",
        .line "Y", .line "using B", .line "clearusing", .line "using C", .line "ref b.dll",
        .line "clearref", .line "y", .line "ref c.dll"]
    let settings := ((start site desk).run site replies).1.desk.session.settings
    settings.Reflects ((start site desk).exchanges site replies) ∧ settings.tag = "2" ∧
      settings.usings = Framework.v20.defaultUsings ++ ["B", "B"] ∧
      settings.references = ["System.dll", "c.dll"] := by
  dsimp only
  refine ⟨(run_reflects_executed_commands _ (fun _ => rfl) _ rfl _).1, ?_⟩
  decide +kernel

end Scratchpad
