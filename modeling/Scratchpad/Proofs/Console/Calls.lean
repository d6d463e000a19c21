import Scratchpad.Proofs.Console.Evaluation
import Scratchpad.Proofs.Console.History

/-!
# The calls of the engine

A session calls its engine only to evaluate: once to compile, and once to run what was compiled if
that succeeded. The job is made from one state of the session, the one in which the command is
carried out. `Exchange.calls` says so for one exchange without mentioning how commands are carried
out, `called_execute` shows it of every command, and `run_calls_for_evaluations` of every run: no
other line calls the engine or changes its state, and a flush that fails prevents both calls.
-/

namespace Scratchpad

/-- The job of compiling code with the settings of a session, spelled out. -/
def Job.inFull (frameworkDir : String) (settings : Settings) (id code : String) : Job where
  unit := {
    source := Text.unlines
      (settings.usings.map (fun name => "using " ++ name ++ ";") ++
        ["",
          "namespace cscongen \x7b",
          "  public static class class" ++ id ++ " \x7b",
          "    public static object func" ++ id ++ "() \x7b",
          "      " ++ Snippet.ensureReturn (Snippet.prepare code) ++ ";",
          "    \x7d",
          "  \x7d",
          "\x7d"])
    namespaceName := "cscongen"
    className := "class" ++ id
    functionName := "func" ++ id }
  references :=
    let root := settings.framework.family.referenceRoot frameworkDir
    (root ++ "/mscorlib.dll") :: settings.references.map fun path =>
      if Path.isAbsolute path then path else root ++ "/" ++ path
  framework := settings.framework

/-- The calls that a job leads to: it is compiled, and run if that succeeded. With them, the state
that the engine is left in. -/
def Engine.calls (E : Engine) (job : Job) (state : E.State) : List Event × E.State :=
  match E.compile job state with
  | (.error _, compiled) => ([.compiled job], compiled)
  | (.ok build, compiled) => ([.compiled job, .ran], (E.run build.entry compiled).2)

variable {E : Engine} (site : Site)

/-- The calls that evaluating code at a desk leads to, and the state of the engine after them. There
are none if the output cannot be flushed first. -/
def Desk.callsFor (code : String) (desk : Desk E) : List Event × E.State :=
  match site.flushRefusal desk.tally.flushes with
  | some _ => ([], desk.engine)
  | none =>
    E.calls
      (.inFull site.frameworkDir desk.session.settings (site.identifier desk.tally.identifiers) code)
      desk.engine

/-- The calls of an exchange, and the state of the engine after them. -/
def Exchange.calls (exchange : Exchange E) : List Event × E.State :=
  match exchange.executed?.bind (·.snippet? exchange.console.desk.session.program) with
  | some code => exchange.console.desk.callsFor site code
  | none => ([], exchange.console.desk.engine)

/-! ## Calls of one command -/

theorem Job.ofSnippet_eq (settings : Settings) (id code : String) :
    Job.ofSnippet site settings id code = Job.inFull site.frameworkDir settings id code := by
  have hunit : SourceUnit.ofBody (Snippet.body code) settings id =
      (Job.inFull site.frameworkDir settings id code).unit := by
    delta Job.inFull
    dsimp only
    rw [← Snippet.body, ← SourceUnit.source_ofBody]
    rfl
  delta Job.ofSnippet
  rw [hunit, Settings.resolvedReferences_eq]
  rfl

theorem Engine.calls_eq (E : Engine) (job : Job) (state : E.State) :
    E.calls job state =
      (Transcript.calls (E.evaluate job state).events, (E.evaluate job state).state) := by
  rw [calls, evaluate]
  rcases E.compile job state with ⟨built, compiled⟩
  cases built with
  | error failure => rfl
  | ok build =>
    change _ = (.compiled job :: .ran :: Transcript.calls _, _)
    rw [Transcript.calls, List.filter_eq_nil_iff.mpr]
    -- what the code prints is no call
    intro event hevent
    obtain ⟨⟨stream, text⟩, -, rfl⟩ := List.mem_map.mp hevent
    simp [Event.isCall]

/-- Between two moments of a desk the engine was called as it is said, and left in the state that is
said. -/
structure Desk.Called (before : Desk E) (called : List Event × E.State) (after : Desk E) :
    Prop where
  calls : Transcript.calls after.transcript = Transcript.calls before.transcript ++ called.1
  engine : after.engine = called.2

theorem Desk.Uncalled.called {before after : Desk E} (huncalled : before.Uncalled after) :
    before.Called ([], before.engine) after :=
  ⟨by rw [huncalled.calls, List.append_nil], huncalled.engine⟩

theorem Desk.Called.trans {before middle after : Desk E} {called : List Event × E.State}
    (hcalled : before.Called called middle) (huncalled : middle.Uncalled after) :
    before.Called called after :=
  ⟨huncalled.calls.trans hcalled.calls, huncalled.engine.trans hcalled.engine⟩

namespace Action

variable {α β : Type}

def Uncalled (action : Action E α) : Prop :=
  ∀ desk : Desk E, desk.Uncalled (action.perform desk).2

theorem Clerical.uncalled {action : Action E α} (haction : Clerical action) : Uncalled action :=
  fun desk => (haction desk).toUncalled

theorem Uncalled.bind {action : Action E α} {next : α → Action E β} (haction : Uncalled action)
    (hnext : ∀ a, Uncalled (next a)) : Uncalled (action >>= next) :=
  frame_bind Desk.Uncalled .trans haction hnext

theorem Uncalled.setSession (session : Session) : Uncalled (setSession session : Action E Unit) :=
  fun _ => ⟨rfl, rfl⟩

theorem Uncalled.setSettings (settings : Settings) :
    Uncalled (setSettings settings : Action E Unit) :=
  fun _ => ⟨rfl, rfl⟩

theorem Uncalled.carryOut (reset : Reset) : Uncalled (carryOut site reset : Action E Unit) := by
  refine .bind Clerical.session.uncalled fun session => ?_
  cases reset.apply session with
  | error failure => exact (Clerical.throw failure).uncalled
  | ok changed =>
    exact .bind (.setSession changed) fun _ => (Clerical.writeLines site .out _).uncalled

theorem called_bind {action : Action E α} {next : α → Action E β} {desk : Desk E}
    {called : List Event × E.State} (haction : desk.Called called (action.perform desk).2)
    (hnext : ∀ a, Uncalled (next a)) : desk.Called called ((action >>= next).perform desk).2 := by
  rw [perform_bind]
  rcases hperform : action.perform desk with ⟨result, after⟩
  rw [hperform] at haction
  cases result with
  | error failure => exact haction
  | ok a => exact haction.trans (hnext a after)

theorem called_runSnippet (code : String) (desk : Desk E) :
    desk.Called (desk.callsFor site code) ((runSnippet site code).perform desk).2 := by
  rw [perform_runSnippet, Desk.callsFor]
  cases site.flushRefusal desk.tally.flushes with
  | some why => exact ⟨by simp, rfl⟩
  | none =>
    have hevaluated : desk.Called (E.calls (.inFull site.frameworkDir desk.session.settings
        (site.identifier desk.tally.identifiers) code) desk.engine) (desk.evaluated site code) := by
      rw [← Job.ofSnippet_eq, Engine.calls_eq]
      exact ⟨Transcript.calls_append _ _, rfl⟩
    dsimp only
    -- what is shown or told afterwards is clerical
    cases (E.evaluate (desk.job site code) desk.engine).result with
    | ok evaluation =>
      exact hevaluated.trans (Clerical.showEvaluation site evaluation _).toUncalled
    | error failure =>
      have htold : Clerical (do writeLines site .err failure.detail; throw failure : Action E Unit) :=
        .bind (.writeLines site .err _) fun _ => .throw failure
      exact hevaluated.trans (htold _).toUncalled

theorem uncalled_execute {command : Command} {program : Program}
    (hnone : command.snippet? program = none) : Uncalled (execute site command : Action E Unit) := by
  cases command with
  | help => exact (Clerical.write site .out helpText).uncalled
  | verbose on => exact .bind Clerical.session.uncalled fun _ => .setSettings _
  | typeInfo on => exact .bind Clerical.session.uncalled fun _ => .setSettings _
  | list => exact (Clerical.bind .session fun _ => .writeLines site .out _).uncalled
  | listUsings => exact (Clerical.bind .session fun _ => .writeLines site .out _).uncalled
  | listReferences => exact (Clerical.bind .session fun _ => .writeLines site .out _).uncalled
  | addUsing name =>
    exact .bind (Clerical.writeLines site .out _).uncalled fun _ =>
      .bind Clerical.session.uncalled fun _ => .setSettings _
  | addReference reference =>
    exact .bind (Clerical.writeLines site .out _).uncalled fun _ =>
      .bind Clerical.session.uncalled fun _ => .setSettings _
  | exit => exact .bind Clerical.session.uncalled fun _ => .setSession _
  | reset what => exact .carryOut site what
  | run => cases hnone
  | time code => cases hnone
  | whileInput code => cases hnone
  | evaluate code => cases hnone

theorem called_execute {command : Command} {code : String} (desk : Desk E)
    (hsnippet : command.snippet? desk.session.program = some code) :
    desk.Called (desk.callsFor site code) ((execute site command).perform desk).2 := by
  cases command with
  | run =>
    rw [← Option.some.inj hsnippet, execute, perform_session_bind]
    exact called_runSnippet site desk.session.program.source desk
  | whileInput body =>
    rw [Command.snippet?_whileInput] at hsnippet
    rw [← Option.some.inj hsnippet, execute]
    exact called_runSnippet site (Snippet.whileInput body) desk
  | evaluate body =>
    rw [← Option.some.inj hsnippet, execute]
    exact called_runSnippet site body desk
  | time body =>
    rw [← Option.some.inj hsnippet]
    have hrest : ∀ start : Nat, Uncalled (do
        let stop ← readClock site
        writeLines site .out ["Time " ++ (Elapsed.between start stop).render] : Action E Unit) :=
      fun _ => (Clerical.bind (.readClock site) fun _ => .writeLines site .out _).uncalled
    -- reading the clock leaves alone what the calls depend on
    have htimed := called_bind (called_runSnippet site body
      { desk with tally := { desk.tally with readings := desk.tally.readings + 1 } })
      fun _ => hrest (site.clock desk.tally.readings)
    exact ⟨htimed.calls, htimed.engine⟩
  | _ => cases hsnippet

end Action

/-! ## Calls of a run -/

namespace Console

theorem called_hear {console : Console E} (hopen : console.isClosed = false)
    (reply : Option Reply) :
    console.desk.Called (Exchange.calls site ⟨console, reply⟩) (console.hear site reply).desk := by
  have hprompted : ∀ text, console.desk.Uncalled (console.desk.note (.prompted text)) :=
    fun text => ⟨rfl, (Transcript.calls_append _ _).trans (List.append_nil _)⟩
  obtain ⟨desk, hclerical, hdesk⟩ := @hear_executed E site console hopen reply
  refine .trans ?_ hclerical.toUncalled
  rw [Exchange.calls]
  rcases hdesk with ⟨command, hexecuted, rfl⟩ | ⟨hexecuted, edit?, rfl⟩
  · rw [hexecuted, Option.bind_some]
    cases hsnippet : command.snippet? console.desk.session.program with
    | none => exact ((hprompted _).trans (Action.uncalled_execute site hsnippet _)).called
    | some code =>
      have hcalled := Action.called_execute site
        (console.desk.note (.prompted (Exchange.prompt ⟨console, reply⟩))) hsnippet
      exact ⟨by rw [hcalled.calls, (hprompted _).calls]; rfl, hcalled.engine⟩
  · have hedited : ∀ desk : Desk E, desk.Uncalled (desk.edited edit?) := by
      intro desk
      cases edit? <;> exact ⟨rfl, rfl⟩
    rw [hexecuted]
    exact ((hprompted _).trans (hedited _)).called

/-- **The engine is called for evaluations, and for nothing else.** The calls of a run are those of its
exchanges, in order, and the engine changes with them only. -/
theorem run_calls_for_evaluations (desk : Desk E) (replies : List Reply) :
    let log := (start site desk).exchanges site replies
    let final := ((start site desk).run site replies).1
    Transcript.calls final.desk.transcript =
        Transcript.calls desk.transcript ++ log.flatMap (fun exchange => (exchange.calls site).1) ∧
      ∀ exchange ∈ log, (exchange.after site).desk.engine = (exchange.calls site).2 := by
  intro log final
  have hsound := start_sound site desk
  have hstart : Transcript.calls (start site desk).desk.transcript =
      Transcript.calls desk.transcript := (proceed_clerical site { desk }).calls
  refine ⟨?_, fun exchange hmem => ?_⟩
  · have hfold := run_foldl (fun console : Console E => Transcript.calls console.desk.transcript)
      (fun calls exchange => calls ++ (exchange.calls site).1)
      (fun console reply _ hopen => (called_hear site hopen reply).calls) hsound replies
    rw [hfold, List.foldl_append_eq_append, hstart, List.flatMap_def]
  · obtain ⟨before, rest, hcut⟩ := List.append_of_mem hmem
    have hlinked : Linked site (start site desk) log := exchanges_linked _ replies
    rw [hcut] at hlinked
    obtain ⟨-, -, hopen, -⟩ := hlinked.split hsound
    exact (called_hear site hopen exchange.reply).engine

end Console

end Scratchpad
