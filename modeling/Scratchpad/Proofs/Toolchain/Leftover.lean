import Scratchpad.Proofs.Console.Evaluation
import Scratchpad.Proofs.Toolchain.Verdict

/-!
# What a compiler leaves behind

A compiler may leave anything in the place where the program is to report its outcome. The place is
swept before the program is started, so that two toolchains that differ in nothing but what their
compilers leave there cannot be told apart (`evaluate_same`): compiling gives builds that are the same
once swept (`compile_same`), and a build runs as the swept one does (`run_swept`).

What a run gives depends on what the program itself did: whether it was started, what it wrote in that
place, and, if this is no text, its status (`result_run`).
-/

namespace Scratchpad

namespace Folder

@[simp] theorem erase_erase (folder : Folder) (name : String) :
    (folder.erase name).erase name = folder.erase name := by
  simp [erase]

@[simp] theorem erase_put (folder : Folder) (name : String) (content : Bytes) :
    (folder.put name content).erase name = folder.erase name := by
  simp [erase, put]

@[simp] theorem get?_erase (folder : Folder) (name : String) :
    (folder.erase name).get? name = none := by
  rw [get?, erase, List.lookup_eq_none_iff]
  intro file hfile
  have hname : file.1 ≠ name := bne_iff_ne.mp (List.mem_filter.mp hfile).2
  exact bne_iff_ne.mpr hname.symm

end Folder

/-- The host on which programs are started in another way. -/
def Host.starting (host : Host)
    (start : Launch → Folder → host.State → Except String Finished × host.State) : Host :=
  { host with start }

/-- Starts programs and keeps a list of them, with the files they were given. -/
def logged {State : Type} (start : Launch → Folder → State → Except String Finished × State)
    (launch : Launch) (folder : Folder) (state : State × List (Launch × Folder)) :
    Except String Finished × State × List (Launch × Folder) :=
  ((start launch folder state.1).1, (start launch folder state.1).2, state.2 ++ [(launch, folder)])

def Host.logging (host : Host) : Host where
  State := host.State × List (Launch × Folder)
  makeDir state := ((host.makeDir state.1).1, (host.makeDir state.1).2, state.2)
  start := logged host.start

namespace Toolchain

/-- What a program left behind, but for an outcome. -/
def sweep (finished : Finished) : Finished :=
  { finished with folder := finished.folder.erase outcomeFile }

def Entry.swept (entry : Entry) : Entry :=
  { entry with folder := entry.folder.erase outcomeFile }

def sweptBuild (build : Build Entry) : Build Entry :=
  { build with entry := build.entry.swept }

/-- Two ways of starting programs that differ only in what a compiler leaves in the place of the outcome.
A compiler is started in the directory of its source unit, and what it compiled is not. -/
structure SameButLeftover {State : Type}
    (left right : Launch → Folder → State → Except String Finished × State) : Prop where
  compiler : ∀ launch folder state, launch.workingDir.isSome = true →
    (left launch folder state).1.map sweep = (right launch folder state).1.map sweep ∧
      (left launch folder state).2 = (right launch folder state).2
  program : ∀ launch, launch.workingDir = none → left launch = right launch

variable (toolchain : Toolchain) {host : Host}
  {other : Launch → Folder → host.State → Except String Finished × host.State}

theorem workingDir_entryLaunch (entry : Entry) : (toolchain.entryLaunch entry).workingDir = none := by
  rw [entryLaunch]
  cases toolchain.runtime <;> rfl

/-! ## Compiling -/

theorem launch_compiler_same (hsame : SameButLeftover host.start other) (dir : String)
    (job : Job) (folder : Folder) (state : host.State) :
    let launch := toolchain.compilerLaunch dir job
    (host.launch launch folder state).1.map sweep =
        ((host.starting other).launch launch folder state).1.map sweep ∧
      (host.launch launch folder state).2 = ((host.starting other).launch launch folder state).2 := by
  intro launch
  unfold Host.launch
  split
  · exact ⟨rfl, rfl⟩
  · exact hsame.compiler launch folder state rfl

theorem judge_sweep (command dir : String) (job : Job) (finished : Finished) :
    judge command dir job (sweep finished) = (judge command dir job finished).map sweptBuild := by
  obtain ⟨status, stdout, stderr, folder⟩ := finished
  change judge command dir job ⟨status, stdout, stderr, folder.erase outcomeFile⟩ = _
  unfold judge
  dsimp only [compilerOutput]
  generalize Report.ofOutput dir (Utf8.lenient stdout ++ Utf8.lenient stderr) = report
  by_cases herrors : report.errors ≠ []
  · rw [if_pos herrors, if_pos herrors]
    rfl
  · rw [if_neg herrors, if_neg herrors]
    by_cases hstatus : status = 0
    · rw [if_pos hstatus, if_pos hstatus]
      rfl
    · rw [if_neg hstatus, if_neg hstatus]
      by_cases hother : report.other ≠ []
      · rw [if_pos hother]
        rfl
      · rw [if_neg hother]
        rfl

theorem compile_same (hsame : SameButLeftover host.start other) (job : Job)
    (state : host.State) :
    (toolchain.compile host job state).1.map sweptBuild =
        (toolchain.compile (host.starting other) job state).1.map sweptBuild ∧
      (toolchain.compile host job state).2 = (toolchain.compile (host.starting other) job state).2 := by
  have hdir : (host.starting other).makeDir state = host.makeDir state := rfl
  obtain ⟨hresult, hstate⟩ := launch_compiler_same toolchain hsame (host.makeDir state).1 job
    (sources job.unit) (host.makeDir state).2
  unfold compile
  rw [hdir]
  dsimp only
  revert hresult hstate
  generalize host.launch (toolchain.compilerLaunch (host.makeDir state).1 job) (sources job.unit)
    (host.makeDir state).2 = left
  generalize (host.starting other).launch (toolchain.compilerLaunch (host.makeDir state).1 job)
    (sources job.unit) (host.makeDir state).2 = right
  obtain ⟨left, after⟩ := left
  obtain ⟨right, after'⟩ := right
  rintro hresult rfl
  cases left with
  | error why =>
    cases right with
    | error why' =>
      cases hresult
      exact ⟨rfl, rfl⟩
    | ok finished' => cases hresult
  | ok finished =>
    cases right with
    | error why' => cases hresult
    | ok finished' =>
      have hswept : sweep finished = sweep finished' := Except.ok.inj hresult
      refine ⟨?_, rfl⟩
      dsimp only
      rw [← judge_sweep, hswept, judge_sweep]

/-! ## Running -/

theorem run_swept (entry : Entry) (state : host.State) :
    toolchain.run host entry.swept state = toolchain.run host entry state := by
  have hlaunch : toolchain.entryLaunch entry.swept = toolchain.entryLaunch entry := rfl
  unfold run
  rw [hlaunch, Entry.swept, Folder.erase_erase]

theorem run_same (hsame : SameButLeftover host.start other) (entry : Entry)
    (state : host.State) :
    toolchain.run host entry state = toolchain.run (host.starting other) entry state := by
  have hstart : host.start (toolchain.entryLaunch entry) = other (toolchain.entryLaunch entry) :=
    hsame.program _ (workingDir_entryLaunch toolchain entry)
  have hlaunch : ∀ folder, host.launch (toolchain.entryLaunch entry) folder state =
      (host.starting other).launch (toolchain.entryLaunch entry) folder state := by
    intro folder
    rw [Host.launch, hstart]
    rfl
  unfold run
  dsimp only
  rw [hlaunch]
  rcases (host.starting other).launch (toolchain.entryLaunch entry)
    (entry.folder.erase outcomeFile) state with ⟨result, after⟩
  cases result <;> rfl

theorem result_run (entry : Entry) (state : host.State) :
    let launch := toolchain.entryLaunch entry
    let started := (host.launch launch (entry.folder.erase outcomeFile) state).1
    let result := (toolchain.run host entry state).1.result
    (∀ why, started = .error why →
        result = .error (.toolchain launch.render none ("failed to start: " ++ why))) ∧
      (∀ finished text, started = .ok finished →
        (finished.folder.get? outcomeFile).bind Utf8.decode? = some text →
        result = Snapshot.decode text) ∧
      (∀ finished, started = .ok finished →
        (finished.folder.get? outcomeFile).bind Utf8.decode? = none →
        result = .error (.toolchain launch.render (some finished.status)
          "program exited without reporting a result")) := by
  intro launch started result
  have hresult : result = match started with
      | .error why => .error (.toolchain launch.render none ("failed to start: " ++ why))
      | .ok finished => outcome launch.render finished := by
    have hrun : result = (toolchain.run host entry state).1.result := rfl
    rw [hrun, run]
    dsimp only [started, launch]
    rcases host.launch (toolchain.entryLaunch entry) (entry.folder.erase outcomeFile) state with
      ⟨outcome, after⟩
    cases outcome <;> rfl
  refine ⟨fun why hstarted => ?_, fun finished text hstarted htext => ?_,
    fun finished hstarted htext => ?_⟩
  · rw [hresult, hstarted]
  · rw [hresult, hstarted]
    dsimp only
    rw [outcome, outcomeText?, htext]
  · rw [hresult, hstarted]
    dsimp only
    rw [outcome, outcomeText?, htext]

/-! ## Evaluating -/

theorem evaluate_same (hsame : SameButLeftover host.start other) (job : Job)
    (state : host.State) :
    let left := (toolchain.engine host).evaluate job state
    let right := (toolchain.engine (host.starting other)).evaluate job state
    left.result = right.result ∧ left.events = right.events ∧ left.state = right.state := by
  intro left right
  obtain ⟨hbuild, hstate⟩ := compile_same toolchain hsame job state
  rcases hleft : toolchain.compile host job state with ⟨build, compiled⟩
  rcases hright : toolchain.compile (host.starting other) job state with ⟨build', compiled'⟩
  rw [hleft, hright] at hbuild hstate
  obtain rfl : compiled = compiled' := hstate
  cases build with
  | error failure =>
    cases build' with
    | ok build' => cases hbuild
    | error failure' =>
      cases hbuild
      have heqLeft : left = _ := Engine.evaluate_uncompiled hleft
      have heqRight : right = _ := Engine.evaluate_uncompiled hright
      rw [heqLeft, heqRight]
      exact ⟨rfl, rfl, rfl⟩
  | ok build =>
    cases build' with
    | error failure' => cases hbuild
    | ok build' =>
      have hswept : sweptBuild build = sweptBuild build' := Except.ok.inj hbuild
      have hwarnings : build.warnings = build'.warnings := by
        change (sweptBuild build).warnings = _
        rw [hswept]
        rfl
      have hentry : build.entry.swept = build'.entry.swept := by
        change (sweptBuild build).entry = _
        rw [hswept]
        rfl
      have hrun : toolchain.run host build.entry compiled =
          toolchain.run (host.starting other) build'.entry compiled := by
        rw [← run_swept, hentry, run_swept, run_same toolchain hsame]
      have heqLeft : left = _ := Engine.evaluate_compiled hleft
      have heqRight : right = _ := Engine.evaluate_compiled hright
      rw [heqLeft, heqRight]
      dsimp only [engine]
      rw [hrun, hwarnings]
      exact ⟨rfl, rfl, rfl⟩

theorem SameButLeftover.logged (hsame : SameButLeftover host.start other) :
    SameButLeftover (logged host.start) (logged other) := by
  refine ⟨fun launch folder state hdir => ?_, fun launch hdir => ?_⟩
  · obtain ⟨hresult, hstate⟩ := hsame.compiler launch folder state.1 hdir
    exact ⟨hresult, Prod.ext hstate rfl⟩
  · funext folder state
    unfold Scratchpad.logged
    rw [hsame.program launch hdir]

def evaluated (toolchain : Toolchain) (host : Host) (site : Site) (code : String)
    (session : Session) (tally : Tally) (transcript : List Event) (state : host.State) :
    Except Failure Evaluation × Desk (toolchain.engine host) :=
  (Action.evaluate site code).perform { session, engine := state, tally, transcript }

theorem evaluated_eq (toolchain : Toolchain) (host : Host) (site : Site) (code : String)
    (session : Session) (tally : Tally) (transcript : List Event) (state : host.State) :
    let evaluated := toolchain.evaluated host site code session tally transcript state
    let outcome := (toolchain.engine host).evaluate
      (.ofSnippet site session.settings (site.identifier tally.identifiers) code) state
    evaluated.1 = outcome.result ∧ evaluated.2.transcript = transcript ++ outcome.events ∧
      evaluated.2.engine = outcome.state := by
  intro evaluated outcome
  have hperform : evaluated = _ := Action.perform_evaluate site code _
  rw [hperform]
  exact ⟨rfl, rfl, rfl⟩

/-- **What a compiler leaves in the place of the outcome has no effect.** A snippet is evaluated with the
same result, the same calls of the engine, the same programs started on the same files and the same
state of the host. Once a snippet is compiled, its program starts without an outcome, and the result
depends only on whether it was started, on what it wrote there, and, if that is no text, on its
status. -/
theorem evaluate_ignores_leftover (toolchain : Toolchain) (host : Host) (site : Site) (code : String)
    (session : Session) (tally : Tally) (transcript : List Event) (state : host.State) :
    (∀ other, SameButLeftover host.start other →
      let left := toolchain.evaluated host site code session tally transcript state
      let right := toolchain.evaluated (host.starting other) site code session tally transcript state
      left.1 = right.1 ∧ left.2.transcript = right.2.transcript ∧ left.2.engine = right.2.engine ∧
        (toolchain.evaluated host.logging site code session tally transcript (state, [])).2.engine.2 =
          (toolchain.evaluated (host.starting other).logging site code session tally transcript
            (state, [])).2.engine.2) ∧
    ∀ build compiled,
      toolchain.compile host
        (.ofSnippet site session.settings (site.identifier tally.identifiers) code) state =
          (.ok build, compiled) →
      let files := build.entry.folder.erase outcomeFile
      let launch := toolchain.entryLaunch build.entry
      let started := (host.launch launch files compiled).1
      let result := (toolchain.evaluated host site code session tally transcript state).1
      files.get? outcomeFile = none ∧
        (∀ why, started = .error why →
          result = .error (.toolchain launch.render none ("failed to start: " ++ why))) ∧
        (∀ finished text, started = .ok finished →
          (finished.folder.get? outcomeFile).bind Utf8.decode? = some text →
          result = (Snapshot.decode text).map fun value => { value, warnings := build.warnings }) ∧
        (∀ finished, started = .ok finished →
          (finished.folder.get? outcomeFile).bind Utf8.decode? = none →
          result = .error (.toolchain launch.render (some finished.status)
            "program exited without reporting a result")) := by
  refine ⟨fun other hsame => ?_, fun build compiled hcompile => ?_⟩
  · intro left right
    let job := Job.ofSnippet site session.settings (site.identifier tally.identifiers) code
    obtain ⟨hresult, hevents, hstate⟩ := evaluate_same toolchain hsame job state
    have hlogged : SameButLeftover host.logging.start (logged other) := hsame.logged
    have hlog := (evaluate_same toolchain hlogged job ⟨state, []⟩).2.2
    obtain ⟨hleft, hleftEvents, hleftState⟩ :=
      evaluated_eq toolchain host site code session tally transcript state
    obtain ⟨hright, hrightEvents, hrightState⟩ :=
      evaluated_eq toolchain (host.starting other) site code session tally transcript state
    obtain ⟨-, -, hleftLog⟩ :=
      evaluated_eq toolchain host.logging site code session tally transcript ⟨state, []⟩
    obtain ⟨-, -, hrightLog⟩ := evaluated_eq toolchain (host.starting other).logging site code session
      tally transcript ⟨state, []⟩
    refine ⟨?_, ?_, ?_, ?_⟩
    · exact hleft.trans (hresult.trans hright.symm)
    · exact hleftEvents.trans ((congrArg (transcript ++ ·) hevents).trans hrightEvents.symm)
    · exact hleftState.trans (hstate.trans hrightState.symm)
    · exact congrArg Prod.snd (hleftLog.trans (hlog.trans hrightLog.symm))
  · intro files launch started result
    obtain ⟨hunstarted, hwritten, hunwritten⟩ := result_run toolchain build.entry compiled
    have hresult : result = (toolchain.run host build.entry compiled).1.result.map fun value =>
        { value, warnings := build.warnings } := by
      have hevaluated := @Engine.evaluate_compiled (toolchain.engine host) _ _ _ _ hcompile
      have hfirst := (evaluated_eq toolchain host site code session tally transcript state).1
      exact hfirst.trans (congrArg Engine.Outcome.result hevaluated)
    refine ⟨Folder.get?_erase _ _, fun why hstarted => ?_, fun finished text hstarted htext => ?_,
      fun finished hstarted htext => ?_⟩
    · rw [hresult, hunstarted why hstarted]
      rfl
    · rw [hresult, hwritten finished text hstarted htext]
    · rw [hresult, hunwritten finished hstarted htext]
      rfl

/-- A compiler leaves a value behind, and the program reports none. -/
theorem evaluate_ignores_leftover_value :
    let toolchain : Toolchain := { compiler := "mcs", runtime := some "mono" }
    let host := Host.writing "/w" 0 "" ""
    let stale := Utf8.encode "\x7b\"status\":\"ok\",\"value\":\x7b\"kind\":\"null\"\x7d\x7d"
    let other := fun (launch : Launch) (folder : Folder) (state : Unit) =>
      host.start launch (if launch.workingDir.isSome then folder.put outcomeFile stale else folder) state
    let site : Site := { frameworkDir := "/f", identifier := fun _ => "0", clock := fun _ => 0 }
    SameButLeftover host.start other ∧
      (toolchain.evaluated (host.starting other) site "e 1" {} {} [] ()).1 =
        .error (.toolchain "mono /w/class0.exe /w/outcome.json" (some 0)
          "program exited without reporting a result") := by
  intro toolchain host stale other site
  have hsame : SameButLeftover host.start other := by
    refine ⟨fun launch folder state hdir => ⟨?_, rfl⟩, fun launch hdir => ?_⟩
    · dsimp only [other]
      rw [if_pos hdir]
      simp [host, Host.writing, Except.map, sweep]
    · funext folder state
      dsimp only [other]
      rw [hdir]
      rfl
  let job := Job.ofSnippet site ({} : Session).settings "0" "e 1"
  let finished : Finished :=
    { status := 0, stdout := Utf8.encode "", stderr := Utf8.encode "", folder := sources job.unit }
  have hstarted : toolchain.Started host job () "/w" finished := started_writing (by decide)
  have hreport : Report.ofOutput "/w" (compilerOutput finished) = {} := by decide
  let build : Build Entry :=
    { entry := { dir := "/w", executable := executable "/w" job.unit, folder := finished.folder }
      warnings := [] }
  have hcompile : toolchain.compile host job () = (.ok build, ()) := by
    refine Prod.ext ?_ rfl
    rw [compile_started hstarted, judge, hreport]
    rfl
  have hignored := evaluate_ignores_leftover toolchain host site "e 1" {} {} [] ()
  have hlaunch := @Host.launch_writing (toolchain.entryLaunch build.entry) (by decide) "/w" 0
    "" "" (build.entry.folder.erase outcomeFile)
  have hcommand : (toolchain.entryLaunch build.entry).render =
      "mono /w/class0.exe /w/outcome.json" := by decide
  have hresult := (hignored.2 build () hcompile).2.2.2 _ hlaunch (by simp)
  rw [hcommand] at hresult
  exact ⟨hsame, (hignored.1 other hsame).1.symm.trans hresult⟩

end Toolchain

end Scratchpad
