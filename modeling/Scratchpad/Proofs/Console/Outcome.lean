import Scratchpad.Proofs.Console.Evaluation
import Scratchpad.Proofs.Text.Lines

/-!
# What a snippet shows

What the two streams receive from a snippet depends on its outcome only: the warnings and the value, or
the report of the failure. Both are said here as texts, apart from the lines that are written:
`Evaluation.display` and `Failure.detail` come to them (`written_display`, `unlines_detail`).

A snippet succeeds only if all that it shows was written. This needs no assumption on the streams,
since lines are written without a failure only if each of them was taken (`transcript_writeLines`).
-/

namespace Scratchpad

def Value.shown (typeInfo : Bool) (value : Value) : String :=
  let typed (typeName : String) :=
    (if typeInfo then typeName ++ "\n" else "") ++ value.format 0 ++ "\n"
  match value with
  | .null => "null\n"
  | .text _ => typed "System.String"
  | .sequence typeName _ | .composite typeName _ _ | .primitive typeName _ => typed typeName

def Failure.told : Failure → String
  | .uncompiled diagnostics => "COMPILE ERRORS\n" ++ Text.unlines diagnostics
  | .thrown cause => cause ++ "\n"
  | .toolchain _ _ stderr => if Text.trim stderr = "" then "" else Text.trimEnd stderr ++ "\n"
  | .rejected .. | .io .. | .unreadable .. => ""

/-- Between two moments of a desk the session wrote exactly the text to the stream. -/
def Desk.Received {E : Engine} (before : Desk E) (stream : Stream) (text : String)
    (after : Desk E) : Prop :=
  Transcript.written stream after.transcript = Transcript.written stream before.transcript ++ text

/-! ## Texts and lines -/

theorem Text.unlines_append (first second : List String) :
    unlines (first ++ second) = unlines first ++ unlines second := by
  rw [unlines, List.map_append, String.join_append, unlines, unlines]

theorem Text.unlines_singleton (line : String) : unlines [line] = line ++ "\n" := by
  simp [unlines]

theorem Value.unlines_resultLines (typeInfo : Bool) (value : Value) :
    Text.unlines (value.resultLines typeInfo) = value.shown typeInfo := by
  have htyped : ∀ typeName shape, Text.unlines ((if typeInfo then [typeName] else []) ++ [shape]) =
      (if typeInfo then typeName ++ "\n" else "") ++ shape ++ "\n" := by
    intro typeName shape
    rw [Text.unlines_append, Text.unlines_singleton, String.append_assoc]
    cases typeInfo with
    | false => rfl
    | true => exact congrArg (· ++ _) (Text.unlines_singleton typeName)
  cases value with
  | null => rfl
  | sequence typeName items => exact htyped typeName _
  | text content => exact htyped "System.String" _
  | composite typeName display members => exact htyped typeName _
  | primitive typeName text => exact htyped typeName _

theorem Failure.unlines_detail (failure : Failure) : Text.unlines failure.detail = failure.told := by
  cases failure with
  | uncompiled diagnostics =>
    rw [detail, ← List.singleton_append, Text.unlines_append, Text.unlines_singleton]
    rfl
  | thrown cause => exact Text.unlines_singleton cause
  | toolchain command status stderr =>
    change Text.unlines (if Text.isBlankText stderr then [] else [Text.trimEnd stderr]) =
      if Text.trim stderr = "" then "" else Text.trimEnd stderr ++ "\n"
    by_cases hblank : Text.isBlankText stderr = true
    · rw [if_pos hblank, if_pos (Text.trim_eq_empty_iff.mpr hblank)]
      rfl
    · have htrim : ¬ Text.trim stderr = "" := fun h => hblank (Text.trim_eq_empty_iff.mp h)
      rw [if_neg hblank, if_neg htrim, Text.unlines_singleton]
  | rejected code message => rfl
  | io message => rfl
  | unreadable message => rfl

namespace Transcript

theorem written_lines_of_ne {stream other : Stream} (hne : other ≠ stream) (lines : List String) :
    written stream (lines.map fun line => .wrote other (line ++ "\n")) = "" := by
  have hnone : (lines.map fun line => Event.wrote other (line ++ "\n")).filterMap
      (writtenTo stream) = [] := by
    rw [List.filterMap_eq_nil_iff]
    intro event hevent
    obtain ⟨line, -, rfl⟩ := List.mem_map.mp hevent
    exact if_neg hne
  rw [written, hnone]
  rfl

theorem written_display (settings : Settings) (evaluation : Evaluation) :
    written .err (evaluation.display settings) =
        (if settings.verbose then Text.unlines evaluation.warnings else "") ∧
      written .out (evaluation.display settings) = evaluation.value.shown settings.typeInfo := by
  unfold Evaluation.display
  constructor
  · rw [written_append, written_lines, written_lines_of_ne (by decide), String.append_empty]
    cases settings.verbose <;> rfl
  · rw [written_append, written_lines, written_lines_of_ne (by decide), String.empty_append,
      ← Text.unlines, Value.unlines_resultLines]

theorem written_evaluate {E : Engine} (stream : Stream) (job : Job) (state : E.State) :
    written stream (E.evaluate job state).events = "" := by
  have hnone : (E.evaluate job state).events.filterMap (writtenTo stream) = [] := by
    rcases hcompile : E.compile job state with ⟨built, compiled⟩
    cases built with
    | error failure =>
      rw [Engine.evaluate_uncompiled hcompile]
      rfl
    | ok build =>
      rw [Engine.evaluate_compiled hcompile, List.filterMap_eq_nil_iff]
      intro event hevent
      rcases List.mem_cons.mp hevent with rfl | hevent
      · rfl
      rcases List.mem_cons.mp hevent with rfl | hevent
      · rfl
      obtain ⟨⟨stream, text⟩, -, rfl⟩ := List.mem_map.mp hevent
      rfl
  rw [written, hnone]
  rfl

end Transcript

/-! ## What the engine gives -/

variable {E : Engine}

theorem Engine.result_eq_ok_iff {job : Job} {state : E.State} {evaluation : Evaluation} :
    (E.evaluate job state).result = .ok evaluation ↔
      ∃ build, (E.compile job state).1 = .ok build ∧
        (E.run build.entry (E.compile job state).2).1.result = .ok evaluation.value ∧
        evaluation.warnings = build.warnings := by
  rcases hcompile : E.compile job state with ⟨built, compiled⟩
  cases built with
  | error failure =>
    rw [evaluate_uncompiled hcompile]
    simp
  | ok build =>
    rw [evaluate_compiled hcompile]
    obtain ⟨value, warnings⟩ := evaluation
    dsimp only
    cases hrun : (E.run build.entry compiled).1.result with
    | error failure => simp [hrun, Except.map]
    | ok value' => simp [hrun, Except.map, eq_comm]

theorem Engine.result_eq_error_iff {job : Job} {state : E.State} {failure : Failure} :
    (E.evaluate job state).result = .error failure ↔
      (E.compile job state).1 = .error failure ∨
        ∃ build, (E.compile job state).1 = .ok build ∧
          (E.run build.entry (E.compile job state).2).1.result = .error failure := by
  rcases hcompile : E.compile job state with ⟨built, compiled⟩
  cases built with
  | error failure' =>
    rw [evaluate_uncompiled hcompile]
    simp
  | ok build =>
    rw [evaluate_compiled hcompile]
    dsimp only
    cases hrun : (E.run build.entry compiled).1.result with
    | error failure' => simp [hrun, Except.map]
    | ok value => simp [hrun, Except.map]

/-! ## Running a snippet -/

namespace Action

theorem transcript_writeLines {site : Site} {stream : Stream} {lines : List String} {desk : Desk E}
    (hok : ((writeLines site stream lines).perform desk).1 = .ok ()) :
    ((writeLines site stream lines).perform desk).2.transcript =
        desk.transcript ++ lines.map fun line => .wrote stream (line ++ "\n") := by
  induction lines generalizing desk with
  | nil => simp [writeLines]
  | cons line lines ih =>
    rw [writeLines, perform_bind, perform_write] at hok ⊢
    cases hrefusal : site.refusal stream (desk.tally.writes stream) with
    | some why =>
      rw [hrefusal] at hok
      cases hok
    | none =>
      rw [hrefusal] at hok
      dsimp only at hok ⊢
      rw [ih hok]
      simp [Desk.note]

theorem transcript_showEvaluation {site : Site} {evaluation : Evaluation} {desk : Desk E}
    (hok : ((showEvaluation site evaluation).perform desk).1 = .ok ()) :
    ((showEvaluation site evaluation).perform desk).2.transcript =
      desk.transcript ++ evaluation.display desk.session.settings := by
  rw [showEvaluation, perform_session_bind, perform_bind] at hok ⊢
  have htold := @transcript_writeLines E site .err
    (if desk.session.settings.verbose then evaluation.warnings else []) desk
  revert hok htold
  rcases (writeLines site .err
    (if desk.session.settings.verbose then evaluation.warnings else [])).perform desk with
    ⟨result, after⟩
  intro hok htold
  cases result with
  | error failure => cases hok
  | ok _ =>
    rw [transcript_writeLines hok, htold rfl, Evaluation.display, List.append_assoc]

theorem runSnippet_ok {site : Site} {code : String} {desk : Desk E}
    (hok : ((runSnippet site code).perform desk).1 = .ok ()) :
    ∃ evaluation, (E.evaluate (desk.job site code) desk.engine).result = .ok evaluation ∧
      ((runSnippet site code).perform desk).2.transcript =
        desk.transcript ++ (E.evaluate (desk.job site code) desk.engine).events ++
          evaluation.display desk.session.settings := by
  rw [perform_runSnippet] at hok ⊢
  cases hflush : site.flushRefusal desk.tally.flushes with
  | some why =>
    rw [hflush] at hok
    cases hok
  | none =>
    rw [hflush] at hok
    dsimp only at hok ⊢
    cases hresult : (E.evaluate (desk.job site code) desk.engine).result with
    | ok evaluation =>
      rw [hresult] at hok
      exact ⟨evaluation, rfl, transcript_showEvaluation hok⟩
    | error failure =>
      -- whether the report is written or not, a failure follows
      rw [hresult] at hok
      dsimp only at hok
      rw [perform_bind] at hok
      revert hok
      rcases (writeLines site .err failure.detail).perform (desk.evaluated site code) with
        ⟨written, after⟩
      intro hok
      cases written <;> cases hok

theorem runSnippet_evaluated {site : Site} (haccepts : ∀ stream n, site.refusal stream n = none)
    (hflushes : ∀ n, site.flushRefusal n = none) {code : String} {desk : Desk E}
    {evaluation : Evaluation}
    (hresult : (E.evaluate (desk.job site code) desk.engine).result = .ok evaluation) :
    ((runSnippet site code).perform desk).1 = .ok () := by
  rw [perform_runSnippet, hflushes, hresult]
  dsimp only
  obtain ⟨tally, -, hshown⟩ := perform_showEvaluation haccepts evaluation (desk.evaluated site code)
  rw [hshown]

theorem runSnippet_failed {site : Site} (haccepts : ∀ stream n, site.refusal stream n = none)
    (hflushes : ∀ n, site.flushRefusal n = none) {code : String} {desk : Desk E} {failure : Failure}
    (hresult : (E.evaluate (desk.job site code) desk.engine).result = .error failure) :
    ((runSnippet site code).perform desk).1 = .error failure ∧
      ((runSnippet site code).perform desk).2.transcript =
        desk.transcript ++ (E.evaluate (desk.job site code) desk.engine).events ++
          failure.detail.map fun line => .wrote .err (line ++ "\n") := by
  rw [perform_runSnippet, hflushes, hresult]
  dsimp only
  rw [perform_bind, perform_writeLines_accepted (haccepts .err)]
  exact ⟨rfl, rfl⟩

end Action

namespace Desk

theorem Received.of_evaluate {before after : Desk E} {job : Job} {state : E.State}
    {events : List Event}
    (htranscript : after.transcript = before.transcript ++ (E.evaluate job state).events ++ events)
    (stream : Stream) : before.Received stream (Transcript.written stream events) after := by
  rw [Received, htranscript, Transcript.written_append, Transcript.written_append,
    Transcript.written_evaluate, String.append_empty]

theorem Received.of_display {before after : Desk E} {job : Job} {state : E.State}
    {settings : Settings} {evaluation : Evaluation}
    (htranscript : after.transcript =
      before.transcript ++ (E.evaluate job state).events ++ evaluation.display settings) :
    before.Received .err (if settings.verbose then Text.unlines evaluation.warnings else "") after ∧
      before.Received .out (evaluation.value.shown settings.typeInfo) after := by
  obtain ⟨herr, hout⟩ := Transcript.written_display settings evaluation
  rw [← herr, ← hout]
  exact ⟨of_evaluate htranscript .err, of_evaluate htranscript .out⟩

theorem Received.of_detail {before after : Desk E} {job : Job} {state : E.State} {failure : Failure}
    (htranscript : after.transcript = before.transcript ++ (E.evaluate job state).events ++
      failure.detail.map fun line => .wrote .err (line ++ "\n")) :
    before.Received .err failure.told after ∧ before.Received .out "" after := by
  have herr : Transcript.written .err
      (failure.detail.map fun line => .wrote .err (line ++ "\n")) = failure.told := by
    rw [Transcript.written_lines, ← Text.unlines, Failure.unlines_detail]
  have hout : Transcript.written .out
      (failure.detail.map fun line => .wrote .err (line ++ "\n")) = "" :=
    Transcript.written_lines_of_ne (by decide) _
  rw [← herr, ← hout]
  exact ⟨of_evaluate htranscript .err, of_evaluate htranscript .out⟩

end Desk

/-- **What a snippet shows is determined by its outcome.** Where everything can be written, a snippet that
is compiled and run shows its warnings, if they are asked for, and its value; one that is not fails
with the failure of the engine, which is told in the way of its kind, and shows nothing else. Wherever
it is written, a snippet succeeds only if its value and its warnings were written in full. -/
theorem runSnippet_shows_outcome (site : Site) (code : String) (desk : Desk E) :
    let settings := desk.session.settings
    let compiled := E.compile (desk.job site code) desk.engine
    let ran := fun build : Build E.Entry => (E.run build.entry compiled.2).1.result
    let result := ((Action.runSnippet site code).perform desk).1
    let after := ((Action.runSnippet site code).perform desk).2
    let Shown := fun (build : Build E.Entry) (value : Value) =>
      desk.Received .err (if settings.verbose then Text.unlines build.warnings else "") after ∧
        desk.Received .out (value.shown settings.typeInfo) after
    ((∀ stream n, site.refusal stream n = none) → (∀ n, site.flushRefusal n = none) →
      (∀ build value, compiled.1 = .ok build → ran build = .ok value →
        result = .ok () ∧ Shown build value) ∧
      (∀ failure, (compiled.1 = .error failure ∨
          ∃ build, compiled.1 = .ok build ∧ ran build = .error failure) →
        result = .error failure ∧ desk.Received .err failure.told after ∧
          desk.Received .out "" after)) ∧
    (result = .ok () → ∃ build value, compiled.1 = .ok build ∧ ran build = .ok value ∧
      Shown build value) := by
  intro settings compiled ran result after Shown
  have hsuccess : result = .ok () → ∃ build value, compiled.1 = .ok build ∧ ran build = .ok value ∧
      Shown build value := by
    intro hok
    obtain ⟨evaluation, hresult, htranscript⟩ := Action.runSnippet_ok hok
    obtain ⟨build, hcompiled, hran, hwarnings⟩ := Engine.result_eq_ok_iff.mp hresult
    have hreceived := Desk.Received.of_display htranscript
    rw [hwarnings] at hreceived
    exact ⟨build, evaluation.value, hcompiled, hran, hreceived⟩
  refine ⟨fun haccepts hflushes => ⟨fun build value hcompiled hran => ?_, fun failure hfailed => ?_⟩,
    hsuccess⟩
  · have hresult : (E.evaluate (desk.job site code) desk.engine).result =
        .ok { value, warnings := build.warnings } :=
      Engine.result_eq_ok_iff.mpr ⟨build, hcompiled, hran, rfl⟩
    have hok : result = .ok () := Action.runSnippet_evaluated haccepts hflushes hresult
    obtain ⟨build', value', hcompiled', hran', hshown⟩ := hsuccess hok
    obtain rfl : build = build' := Except.ok.inj (hcompiled.symm.trans hcompiled')
    obtain rfl : value = value' := Except.ok.inj (hran.symm.trans hran')
    exact ⟨hok, hshown⟩
  · have hresult : (E.evaluate (desk.job site code) desk.engine).result = .error failure :=
      Engine.result_eq_error_iff.mpr hfailed
    obtain ⟨hfailure, htranscript⟩ := Action.runSnippet_failed haccepts hflushes hresult
    exact ⟨hfailure, Desk.Received.of_detail htranscript⟩

/-- A text shown with its type after a warning, and a program of the toolchain that failed. -/
theorem runSnippet_shows_outcome_both :
    let engine := fun result => ({
      State := Unit, Entry := Unit
      compile := fun _ state => (.ok { entry := (), warnings := ["unused"] }, state)
      run := fun _ state => ({ result }, state) } : Engine)
    let site : Site := { frameworkDir := "", identifier := fun _ => "", clock := fun _ => 0 }
    let settings : Settings := { Settings.default with verbose := true, typeInfo := true }
    let desk := fun result => ({ session := { settings }, engine := () } : Desk (engine result))
    let after := fun result => (Action.runSnippet site "f()").perform (desk result)
    let failure := Failure.toolchain "mono" (some 256) " no runtime\n \n"
    (after (.ok (.text "a"))).1 = .ok () ∧
      Transcript.written .err (after (.ok (.text "a"))).2.transcript = "unused\n" ∧
      Transcript.written .out (after (.ok (.text "a"))).2.transcript = "System.String\n\"a\"\n" ∧
      (after (.error failure)).1 = .error failure ∧
      Transcript.written .err (after (.error failure)).2.transcript = " no runtime\n" ∧
      Transcript.written .out (after (.error failure)).2.transcript = "" := by
  intro engine site settings desk after failure
  have hshows := fun result =>
    (runSnippet_shows_outcome site "f()" (desk result)).1 (fun _ _ => rfl) fun _ => rfl
  obtain ⟨hok, herr, hout⟩ := (hshows (.ok (.text "a"))).1 _ _ rfl rfl
  obtain ⟨hfailed, herr', hout'⟩ := (hshows (.error failure)).2 failure (Or.inr ⟨_, rfl, rfl⟩)
  exact ⟨hok, herr.trans (by decide), hout.trans (by decide), hfailed, herr'.trans (by decide),
    hout'.trans (by decide)⟩

end Scratchpad
