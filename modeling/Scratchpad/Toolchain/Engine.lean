import Scratchpad.Engine
import Scratchpad.Harness
import Scratchpad.Snapshot.Decode
import Scratchpad.Toolchain.Environment
import Scratchpad.Toolchain.Host
import Scratchpad.Toolchain.Report

/-!
# The engine of a toolchain

Source units are compiled together with the harness by the compiler of a toolchain, in a fresh
directory, and run by its runtime. The harness leaves a snapshot of the outcome in that directory.
What lies in the place of the snapshot before the run is removed, so that it is never taken for an
outcome.
-/

namespace Scratchpad.Toolchain

def unitFile : String := "unit.cs"

def harnessFile : String := "harness.cs"

def outcomeFile : String := "outcome.json"

/-- A compiled source unit: the directory it lies in, its executable, and the files around it. -/
structure Entry where
  dir : String
  executable : String
  folder : Folder

def sources (unit : SourceUnit) : Folder :=
  (({} : Folder).put unitFile (Utf8.encode unit.source)).put harnessFile
    (Utf8.encode (Harness.source unit))

def executable (dir : String) (unit : SourceUnit) : String :=
  Path.join dir (unit.className ++ ".exe")

/-- How the compiler is started. -/
def compilerLaunch (toolchain : Toolchain) (dir : String) (job : Job) : Launch where
  program := toolchain.compiler
  args :=
    ["-nologo", "-noconfig", "-nostdlib", "-target:exe", "-debug",
      "-langversion:" ++ job.framework.languageVersion, "-out:" ++ executable dir job.unit] ++
    job.references.map ("-r:" ++ ·) ++ [Path.join dir unitFile, Path.join dir harnessFile]
  workingDir := some dir

/-- What a compiler wrote, its output before its errors. -/
def compilerOutput (finished : Finished) : String :=
  Utf8.lenient finished.stdout ++ Utf8.lenient finished.stderr

/-- What comes of a compiler that was started. Only a successful compiler without errors has
compiled anything; otherwise its errors tell why, or else its other lines, or else its status. -/
def judge (command dir : String) (job : Job) (finished : Finished) :
    Except Failure (Build Entry) :=
  let report := Report.ofOutput dir (compilerOutput finished)
  if report.errors ≠ [] then .error (.uncompiled report.errors)
  else if finished.status = 0 then
    .ok
      { entry := { dir, executable := executable dir job.unit, folder := finished.folder }
        warnings := report.warnings }
  else if report.other ≠ [] then .error (.uncompiled report.other)
  else .error (.toolchain command (some finished.status) (Utf8.lenient finished.stderr))

def compile (toolchain : Toolchain) (host : Host) (job : Job) (state : host.State) :
    Except Failure (Build Entry) × host.State :=
  let (dir, state) := host.makeDir state
  let launch := toolchain.compilerLaunch dir job
  match host.launch launch (sources job.unit) state with
  | (.error why, state) =>
    (.error (.toolchain launch.render none s!"failed to invoke {toolchain.compiler}: {why}"), state)
  | (.ok finished, state) => (judge launch.render dir job finished, state)

/-- How a compiled source unit is started. -/
def entryLaunch (toolchain : Toolchain) (entry : Entry) : Launch :=
  let outcomePath := Path.join entry.dir outcomeFile
  match toolchain.runtime with
  | some runtime => { program := runtime, args := [entry.executable, outcomePath] }
  | none => { program := entry.executable, args := [outcomePath] }

/-- The text of the snapshot among the files that a program left behind. -/
def outcomeText? (folder : Folder) : Option String :=
  (folder.get? outcomeFile).bind Utf8.decode?

/-- How a run ended: as its snapshot says, whatever the status, if there is a snapshot. -/
def outcome (command : String) (finished : Finished) : Except Failure Value :=
  match outcomeText? finished.folder with
  | some text => Snapshot.decode text
  | none =>
    .error (.toolchain command (some finished.status) "program exited without reporting a result")

def printed (finished : Finished) : List (Stream × String) :=
  [(.out, Utf8.lenient finished.stdout), (.err, Utf8.lenient finished.stderr)]

def run (toolchain : Toolchain) (host : Host) (entry : Entry) (state : host.State) :
    Run × host.State :=
  let launch := toolchain.entryLaunch entry
  match host.launch launch (entry.folder.erase outcomeFile) state with
  | (.error why, state) =>
    ({ result := .error (.toolchain launch.render none s!"failed to start: {why}") }, state)
  | (.ok finished, state) =>
    ({ printed := printed finished, result := outcome launch.render finished }, state)

def engine (toolchain : Toolchain) (host : Host) : Engine where
  State := host.State
  Entry := Entry
  compile := toolchain.compile host
  run := toolchain.run host

end Scratchpad.Toolchain
