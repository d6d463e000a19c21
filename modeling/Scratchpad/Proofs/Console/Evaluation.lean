import Scratchpad.Proofs.Console.Execute

/-!
# What evaluating a snippet does

An engine is given a source text, which is known line by line (`source_ofBody`), and references, which
are known path by path (`resolvedReferences_eq`). `Engine.evaluate` is what an engine makes
of a job, apart from any desk, and `perform_runSnippet` what becomes of a snippet: unless the flush
before it fails, the engine evaluates the job, and its value is shown or its failure is told.
-/

namespace Scratchpad

/-! ## The job -/

theorem Path.join_of_getLast? {base path : String} {c : Char}
    (hlast : base.toList.getLast? = some c) (hc : c ≠ '/') :
    join base path = if isAbsolute path then path else base ++ "/" ++ path := by
  have hne : base.toList ≠ [] := by
    intro hnil
    simp [hnil] at hlast
  simp [join, hlast, hc, hne]

theorem Family.getLast?_referenceRoot (frameworkDir : String) (family : Family) :
    ∃ c, (family.referenceRoot frameworkDir).toList.getLast? = some c ∧ c ≠ '/' := by
  have hjoin : ∀ directory : String, ∃ before, Path.isAbsolute directory = false →
      Path.join frameworkDir directory = before ++ directory := by
    intro directory
    by_cases hslash : frameworkDir.toList.isEmpty || frameworkDir.toList.getLast? == some '/'
    · exact ⟨frameworkDir, fun h => by simp only [Path.join, h, hslash]; rfl⟩
    · exact ⟨frameworkDir ++ "/", fun h => by simp only [Path.join, h, hslash]; rfl⟩
  obtain ⟨before, hbefore⟩ := hjoin family.directory
  rw [referenceRoot, hbefore (by cases family <;> decide), String.toList_append,
    List.getLast?_append]
  cases family
  · exact ⟨'i', rfl, by decide⟩
  · exact ⟨'5', rfl, by decide⟩

theorem Settings.resolvedReferences_eq (frameworkDir : String) (settings : Settings) :
    settings.resolvedReferences frameworkDir =
      let root := settings.framework.family.referenceRoot frameworkDir
      (root ++ "/mscorlib.dll") :: settings.references.map fun path =>
        if Path.isAbsolute path then path else root ++ "/" ++ path := by
  obtain ⟨c, hlast, hc⟩ := Family.getLast?_referenceRoot frameworkDir settings.framework.family
  have hjoin : Path.join (settings.framework.family.referenceRoot frameworkDir) = fun path =>
      if Path.isAbsolute path then path
      else settings.framework.family.referenceRoot frameworkDir ++ "/" ++ path :=
    funext fun _ => Path.join_of_getLast? hlast hc
  have hlibrary : Path.isAbsolute runtimeLibrary = false ∧
      "/" ++ runtimeLibrary = "/mscorlib.dll" := by decide
  simp only [resolvedReferences, hjoin, hlibrary.1, String.append_assoc, hlibrary.2,
    Bool.false_eq_true, if_false]

theorem SourceUnit.usingLines_eq (usings : List String) :
    usingLines usings = Text.unlines (usings.map fun name => "using " ++ name ++ ";") := by
  rw [usingLines, Text.unlines, List.map_map]
  congr 2
  funext name
  simp [String.append_assoc]

theorem SourceUnit.source_ofBody (code : String) (settings : Settings) (id : String) :
    (ofBody code settings id).source =
      Text.unlines
        (settings.usings.map (fun name => "using " ++ name ++ ";") ++
          ["",
            "namespace cscongen \x7b",
            "  public static class class" ++ id ++ " \x7b",
            "    public static object func" ++ id ++ "() \x7b",
            "      " ++ code ++ ";",
            "    \x7d",
            "  \x7d",
            "\x7d"]) := by
  delta ofBody
  apply String.toList_inj.mp
  simp [usingLines_eq, Text.unlines, generatedNamespace]

/-! ## The engine -/

/-- What comes of a job: the evaluation or why there is none, what happened, and the state that the
engine is left in. -/
structure Engine.Outcome (E : Engine) where
  result : Except Failure Evaluation
  events : List Event
  state : E.State

def Engine.evaluate (E : Engine) (job : Job) (state : E.State) : E.Outcome :=
  match E.compile job state with
  | (.error failure, compiled) => ⟨.error failure, [.compiled job], compiled⟩
  | (.ok build, compiled) =>
    let run := (E.run build.entry compiled).1
    ⟨run.result.map fun value => { value, warnings := build.warnings },
      .compiled job :: .ran :: run.printed.map fun (stream, text) => .printed stream text,
      (E.run build.entry compiled).2⟩

theorem Engine.evaluate_uncompiled {E : Engine} {job : Job} {state compiled : E.State}
    {failure : Failure} (hcompile : E.compile job state = (.error failure, compiled)) :
    E.evaluate job state = ⟨.error failure, [.compiled job], compiled⟩ := by
  rw [evaluate, hcompile]

theorem Engine.evaluate_compiled {E : Engine} {job : Job} {state compiled : E.State}
    {build : Build E.Entry} (hcompile : E.compile job state = (.ok build, compiled)) :
    E.evaluate job state =
      ⟨(E.run build.entry compiled).1.result.map fun value => { value, warnings := build.warnings },
        .compiled job :: .ran ::
          (E.run build.entry compiled).1.printed.map fun (stream, text) => .printed stream text,
        (E.run build.entry compiled).2⟩ := by
  rw [evaluate, hcompile]

def Evaluation.display (settings : Settings) (evaluation : Evaluation) : List Event :=
  ((if settings.verbose then evaluation.warnings else []).map fun line =>
      .wrote .err (line ++ "\n")) ++
    (evaluation.value.resultLines settings.typeInfo).map fun line => .wrote .out (line ++ "\n")

variable {E : Engine} (site : Site)

def Desk.job (code : String) (desk : Desk E) : Job :=
  .ofSnippet site desk.session.settings (site.identifier desk.tally.identifiers) code

/-- The desk after the output was flushed and a snippet was evaluated. -/
def Desk.evaluated (code : String) (desk : Desk E) : Desk E :=
  let outcome := E.evaluate (desk.job site code) desk.engine
  { desk with
    engine := outcome.state
    tally :=
      { desk.tally with
        flushes := desk.tally.flushes + 1
        identifiers := desk.tally.identifiers + 1 }
    transcript := desk.transcript ++ outcome.events }

namespace Action

theorem perform_evaluate (code : String) (desk : Desk E) :
    (evaluate site code).perform desk =
      let outcome := E.evaluate (desk.job site code) desk.engine
      (outcome.result,
        { desk with
          engine := outcome.state
          tally := { desk.tally with identifiers := desk.tally.identifiers + 1 }
          transcript := desk.transcript ++ outcome.events }) := by
  rw [evaluate, perform_session_bind, perform_bind, drawIdentifier, perform_ofFun]
  dsimp only
  rw [perform_bind, perform_compile, ← Desk.job, Engine.evaluate]
  rcases E.compile (desk.job site code) desk.engine with ⟨built, compiled⟩
  cases built with
  | error failure => rfl
  | ok build =>
    dsimp only
    rw [perform_bind, perform_run]
    dsimp only [Desk.note]
    rcases E.run build.entry compiled with ⟨⟨printed, result⟩, after⟩
    cases result <;> simp [Except.map]

theorem perform_showEvaluation {site : Site} (haccepts : ∀ stream n, site.refusal stream n = none)
    (evaluation : Evaluation) (desk : Desk E) :
    ∃ tally, desk.tally.Alike tally ∧ (showEvaluation site evaluation).perform desk =
      (.ok (), { desk with
        tally, transcript := desk.transcript ++ evaluation.display desk.session.settings }) := by
  rw [showEvaluation, perform_session_bind, perform_bind,
    perform_writeLines_accepted (haccepts .err)]
  dsimp only
  rw [perform_writeLines_accepted (haccepts .out), List.append_assoc]
  exact ⟨_, ((Tally.countWrites_alike _ _ _).trans (Tally.countWrites_alike _ _ _)).symm, rfl⟩

/-- **What becomes of a snippet.** -/
theorem perform_runSnippet (code : String) (desk : Desk E) :
    (runSnippet site code).perform desk =
      match site.flushRefusal desk.tally.flushes with
      | some why =>
        (.error (.io why),
          { desk with tally := { desk.tally with flushes := desk.tally.flushes + 1 } })
      | none =>
        match (E.evaluate (desk.job site code) desk.engine).result with
        | .ok evaluation => (showEvaluation site evaluation).perform (desk.evaluated site code)
        | .error failure =>
          (do writeLines site .err failure.detail; throw failure : Action E Unit).perform
            (desk.evaluated site code) := by
  rw [runSnippet, perform_bind, flush, perform_ofFun]
  cases site.flushRefusal desk.tally.flushes with
  | some why => rfl
  | none =>
    dsimp only
    rw [perform_bind, attempt, perform_ofFun, perform_evaluate]
    dsimp only
    have hjob : Desk.job site code
        { desk with tally := { desk.tally with flushes := desk.tally.flushes + 1 } } =
          desk.job site code := rfl
    rw [hjob]
    cases (E.evaluate (desk.job site code) desk.engine).result <;> rfl

end Action

end Scratchpad
