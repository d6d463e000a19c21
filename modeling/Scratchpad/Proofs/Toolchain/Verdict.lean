import Scratchpad.Proofs.Toolchain.Report
import Scratchpad.Toolchain.Engine

/-!
# What comes of a compiler

A compiler that was started is judged by its report and its status, in one of four ways
(`judge_cases`). From this it follows what each result of compiling means (`compile_decided_by_report`).

The output and the errors of a compiler are judged as one text, without a line end between them. So
an error may be taken for a part of the line before it (`streams_mixed`), but only if that line was left
unfinished (`streams_reported_iff`).
-/

namespace Scratchpad

/-- A host that gives out one directory, and on which every program writes the same and leaves its
files as they are. -/
def Host.writing (dir : String) (status : Int) (stdout stderr : String) : Host where
  State := Unit
  makeDir state := (dir, state)
  start _ folder state :=
    (.ok { status, stdout := Utf8.encode stdout, stderr := Utf8.encode stderr, folder }, state)

theorem Host.launch_writing {program : Launch} (hnul : program.words.any Launch.hasNul = false)
    (dir : String) (status : Int) (stdout stderr : String) (folder : Folder) :
    ((Host.writing dir status stdout stderr).launch program folder ()).1 =
      .ok { status, stdout := Utf8.encode stdout, stderr := Utf8.encode stderr, folder } := by
  unfold Host.launch
  rw [hnul]
  rfl

namespace Toolchain

/-! ## The verdict -/

/-- The compiler was started on a job in a directory, and what it left behind. -/
structure Started (toolchain : Toolchain) (host : Host) (job : Job) (state : host.State)
    (dir : String) (finished : Finished) : Prop where
  made : (host.makeDir state).1 = dir
  launched : (host.launch (toolchain.compilerLaunch dir job) (sources job.unit)
    (host.makeDir state).2).1 = .ok finished

variable {toolchain : Toolchain} {host : Host} {job : Job} {state : host.State} {dir : String}
  {finished : Finished}

theorem compile_started (hstarted : toolchain.Started host job state dir finished) :
    (toolchain.compile host job state).1 =
      judge (toolchain.compilerLaunch dir job).render dir job finished := by
  obtain ⟨rfl, hlaunched⟩ := hstarted
  unfold compile
  dsimp only
  rcases hlaunch : host.launch (toolchain.compilerLaunch (host.makeDir state).1 job)
    (sources job.unit) (host.makeDir state).2 with ⟨result, after⟩
  rw [hlaunch] at hlaunched
  dsimp only at hlaunched
  rw [hlaunched]

theorem started_writing {status : Int} {stdout stderr : String}
    (hnul : (toolchain.compilerLaunch dir job).words.any Launch.hasNul = false) :
    toolchain.Started (.writing dir status stdout stderr) job () dir
      { status, stdout := Utf8.encode stdout, stderr := Utf8.encode stderr
        folder := sources job.unit } :=
  ⟨rfl, Host.launch_writing hnul ..⟩

def reportOf (dir : String) (finished : Finished) : Report :=
  Report.ofOutput dir (compilerOutput finished)

theorem judge_cases (command dir : String) (job : Job) (finished : Finished) :
    let report := reportOf dir finished
    let result := judge command dir job finished
    (report.errors ≠ [] ∧ result = .error (.uncompiled report.errors)) ∨
      (report.errors = [] ∧ finished.status = 0 ∧
        ∃ build, result = .ok build ∧ build.warnings = report.warnings) ∨
      (report.errors = [] ∧ finished.status ≠ 0 ∧ report.other ≠ [] ∧
        result = .error (.uncompiled report.other)) ∨
      (report.errors = [] ∧ finished.status ≠ 0 ∧ report.other = [] ∧
        ∃ stderr, result = .error (.toolchain command (some finished.status) stderr)) := by
  intro report result
  have hresult : result =
      if report.errors ≠ [] then .error (.uncompiled report.errors)
      else if finished.status = 0 then
        .ok
          { entry := { dir, executable := executable dir job.unit, folder := finished.folder }
            warnings := report.warnings }
      else if report.other ≠ [] then .error (.uncompiled report.other)
      else .error (.toolchain command (some finished.status) (Utf8.lenient finished.stderr)) := rfl
  by_cases herrors : report.errors = []
  · rw [if_neg (not_not.mpr herrors)] at hresult
    by_cases hstatus : finished.status = 0
    · rw [if_pos hstatus] at hresult
      exact Or.inr (Or.inl ⟨herrors, hstatus, _, hresult, rfl⟩)
    · rw [if_neg hstatus] at hresult
      by_cases hother : report.other = []
      · rw [if_neg (not_not.mpr hother)] at hresult
        exact Or.inr (Or.inr (Or.inr ⟨herrors, hstatus, hother, _, hresult⟩))
      · rw [if_pos hother] at hresult
        exact Or.inr (Or.inr (Or.inl ⟨herrors, hstatus, hother, hresult⟩))
  · rw [if_pos herrors] at hresult
    exact Or.inl ⟨herrors, hresult⟩

theorem judge_error {line : String}
    (hline : line ∈ Report.linesOf dir (compilerOutput finished)) (htells : Report.Tells "error" line)
    (command : String) (job : Job) :
    ∃ diagnostics, judge command dir job finished = .error (.uncompiled diagnostics) ∧
      line ∈ diagnostics := by
  have hmem : line ∈ (reportOf dir finished).errors :=
    Report.mem_errors_ofLines.mpr ⟨hline, htells⟩
  have hne : (reportOf dir finished).errors ≠ [] := List.ne_nil_of_mem hmem
  rcases judge_cases command dir job finished with ⟨-, hjudge⟩ | ⟨hnil, -⟩ | ⟨hnil, -⟩ | ⟨hnil, -⟩
  · exact ⟨_, hjudge, hmem⟩
  · exact absurd hnil hne
  · exact absurd hnil hne
  · exact absurd hnil hne

/-- **What a compiler wrote is sorted without loss and decides what comes of it.** Its lines are those
that say something, and each goes to one list of the report. A compiler that was started has compiled
its job exactly if it was successful and told of no error, and then the warnings are handed on; it never
fails for diagnostics without giving any; and the toolchain is to blame exactly if the compiler failed
and all it told were warnings. -/
theorem compile_decided_by_report :
    (∀ dir output, Report.Spells dir output (Report.linesOf dir output) ∧
      Report.Sorts (Report.linesOf dir output) (Report.ofOutput dir output)) ∧
    ∀ (toolchain : Toolchain) (host : Host) (job : Job) (state : host.State) (dir : String)
      (finished : Finished), toolchain.Started host job state dir finished →
      let output := Utf8.lenient finished.stdout ++ Utf8.lenient finished.stderr
      let report := Report.ofOutput dir output
      let result := (toolchain.compile host job state).1
      ((∃ build, result = .ok build) ↔ finished.status = 0 ∧ report.errors = []) ∧
        (∀ build, result = .ok build → build.warnings = report.warnings) ∧
        (∀ diagnostics, result = .error (.uncompiled diagnostics) → diagnostics ≠ []) ∧
        ((∃ command status stderr, result = .error (.toolchain command status stderr)) ↔
          finished.status ≠ 0 ∧ ∀ line ∈ Report.linesOf dir output,
            ¬ Report.Tells "error" line ∧ Report.Tells "warning" line) := by
  refine ⟨fun dir output => ⟨Report.spells_linesOf dir output, Report.sorts_ofLines _⟩, ?_⟩
  intro toolchain host job state dir finished hstarted output report result
  have hresult : result = judge (toolchain.compilerLaunch dir job).render dir job finished :=
    compile_started hstarted
  have hwarnings : report.errors = [] ∧ report.other = [] ↔ ∀ line ∈ Report.linesOf dir output,
      ¬ Report.Tells "error" line ∧ Report.Tells "warning" line := Report.all_warnings_iff
  rw [← hwarnings, hresult]
  have hcases := judge_cases (toolchain.compilerLaunch dir job).render dir job finished
  have hreport : reportOf dir finished = report := rfl
  simp only [hreport] at hcases
  rcases hcases with ⟨herrors, hjudge⟩ | ⟨herrors, hstatus, build, hjudge, hbuild⟩ |
    ⟨herrors, hstatus, hother, hjudge⟩ | ⟨herrors, hstatus, hother, stderr, hjudge⟩
  · rw [hjudge]
    simp [herrors]
  · rw [hjudge]
    simp [herrors, hstatus, hbuild]
  · rw [hjudge]
    simp [hstatus, hother]
  · rw [hjudge]
    simp [herrors, hstatus, hother]

/-- A compiler that fails with nothing but a warning. -/
theorem compile_decided_by_report_warning :
    let toolchain : Toolchain := { compiler := "mcs", runtime := some "mono" }
    let host := Host.writing "/w" 256 "/w/unit.cs: warning CS3: twice\n" ""
    let job : Job := { unit := ⟨"", "cscongen", "class0", "func0"⟩, references := [], framework := .v40 }
    ∃ command status stderr,
      (toolchain.compile host job ()).1 = .error (.toolchain command status stderr) := by
  intro toolchain host job
  let finished : Finished :=
    { status := 256
      stdout := Utf8.encode "/w/unit.cs: warning CS3: twice\n"
      stderr := Utf8.encode ""
      folder := sources job.unit }
  have hstarted : toolchain.Started host job () "/w" finished :=
    started_writing (by decide)
  have hlines : ∀ line ∈ Report.linesOf "/w"
      (Utf8.lenient finished.stdout ++ Utf8.lenient finished.stderr),
      ¬ Report.Tells "error" line ∧ Report.Tells "warning" line := by decide
  have hdecided := compile_decided_by_report.2 toolchain host job () "/w" finished hstarted
  exact hdecided.2.2.2.mpr ⟨by decide, hlines⟩

/-! ## The two streams of a compiler -/

/-- If a line tells of an error, then compiling fails with diagnostics that hold it as it is reported. -/
def Diagnosed (toolchain : Toolchain) (host : Host) (job : Job) (state : host.State)
    (dir raw : String) : Prop :=
  Report.Tells "error" (Report.told dir raw) →
    ∃ diagnostics, (toolchain.compile host job state).1 = .error (.uncompiled diagnostics) ∧
      Report.told dir raw ∈ diagnostics

theorem diagnosed_of_mem (hstarted : toolchain.Started host job state dir finished) {raw : String}
    (hmem : Report.Tells "error" (Report.told dir raw) →
      Report.told dir raw ∈ Report.linesOf dir (compilerOutput finished)) :
    toolchain.Diagnosed host job state dir raw := by
  intro htells
  rw [compile_started hstarted]
  exact judge_error (hmem htells) htells _ job

/-- **The two streams of a compiler are reported as they are exactly if their lines are not mixed.** The
report of both is then the one after the other, and every error in either is among the diagnostics
as it stands. An error in a line that is ended, or that does not open the second stream, is always
there. -/
theorem streams_reported_iff (hstarted : toolchain.Started host job state dir finished) :
    let out := Utf8.lenient finished.stdout
    let err := Utf8.lenient finished.stderr
    ((reportOf dir finished = Report.ofOutput dir out ++ Report.ofOutput dir err ∧
        ∀ raw ∈ Text.lines out ++ Text.lines err, toolchain.Diagnosed host job state dir raw) ↔
      (Text.isBlankText (Text.unfinished out) ∨ Text.isBlankText (Text.opening err))) ∧
    ∀ raw ∈ Text.lines (Text.ended out) ++ Text.lines (Text.afterOpening err),
      toolchain.Diagnosed host job state dir raw := by
  intro out err
  refine ⟨⟨fun hreported => ?_, fun hparted => ⟨?_, fun raw hraw => ?_⟩⟩, fun raw hraw => ?_⟩
  · exact (Report.ofOutput_append_iff dir out err).mp hreported.1
  · exact (Report.ofOutput_append_iff dir out err).mpr hparted
  · refine diagnosed_of_mem hstarted fun htells => ?_
    rw [compilerOutput, Report.linesOf_append_of_parted dir hparted]
    rcases List.mem_append.mp hraw with hout | herr
    · exact List.mem_append_left _ (Report.told_mem_linesOf hout htells)
    · exact List.mem_append_right _ (Report.told_mem_linesOf herr htells)
  · refine diagnosed_of_mem hstarted fun htells => ?_
    rw [compilerOutput, Report.linesOf_append]
    rcases List.mem_append.mp hraw with hout | herr
    · exact List.mem_append_left _
        (List.mem_append_left _ (Report.told_mem_linesOf hout htells))
    · exact List.mem_append_right _ (Report.told_mem_linesOf herr htells)

/-- An output without a line end at its end, and errors that start with a line of their own. -/
theorem streams_reported_iff_blank :
    let toolchain : Toolchain := { compiler := "mcs", runtime := some "mono" }
    let host := Host.writing "/w" 256 "note" "\nerror CS6: lost"
    let job : Job := { unit := ⟨"", "cscongen", "class0", "func0"⟩, references := [], framework := .v40 }
    ∃ diagnostics, (toolchain.compile host job ()).1 = .error (.uncompiled diagnostics) ∧
      "error CS6: lost" ∈ diagnostics := by
  intro toolchain host job
  let finished : Finished :=
    { status := 256
      stdout := Utf8.encode "note"
      stderr := Utf8.encode "\nerror CS6: lost"
      folder := sources job.unit }
  have hstarted : toolchain.Started host job () "/w" finished :=
    started_writing (by decide)
  have hreported := (streams_reported_iff hstarted).1.mpr (Or.inr (by decide))
  exact hreported.2 "error CS6: lost" (by decide) (by decide)

/-- The first error of a compiler whose output does not end its last line is lost in that line. -/
theorem streams_mixed :
    let toolchain : Toolchain := { compiler := "mcs", runtime := some "mono" }
    let raw := "error CS6: lost"
    let host := Host.writing "/w" 256 "note" (raw ++ "\n")
    let job : Job := { unit := ⟨"", "cscongen", "class0", "func0"⟩, references := [], framework := .v40 }
    let finished : Finished :=
      { status := 256
        stdout := Utf8.encode "note"
        stderr := Utf8.encode (raw ++ "\n")
        folder := sources job.unit }
    let out := Utf8.lenient finished.stdout
    let err := Utf8.lenient finished.stderr
    toolchain.Started host job () "/w" finished ∧
      reportOf "/w" finished ≠
        Report.ofOutput "/w" out ++ Report.ofOutput "/w" err ∧
      raw ∈ Text.lines err ∧ Report.Tells "error" (Report.told "/w" raw) ∧
      (toolchain.compile host job ()).1 = .error (.uncompiled ["note" ++ raw]) := by
  intro toolchain raw host job finished out err
  have hstarted : toolchain.Started host job () "/w" finished :=
    started_writing (by decide)
  have hreport : Report.ofOutput "/w" (compilerOutput finished) =
      { other := ["note" ++ raw] } := by decide
  refine ⟨hstarted, by decide, by decide, by decide, ?_⟩
  rw [compile_started hstarted, judge, hreport]
  rfl

end Toolchain

end Scratchpad
