import Scratchpad.Text.Cut

/-!
# Failures

Why a command did not do what it was asked for, and the words a failure is shown in.
-/

namespace Scratchpad

/-- Why a command failed. -/
inductive Failure where
  /-- The user asked for something that cannot be done. -/
  | rejected (code message : String)
  /-- The compiler found something wrong with the code. -/
  | uncompiled (diagnostics : List String)
  /-- The code ran and threw. -/
  | thrown (cause : String)
  /-- A program of the toolchain could not be started or did not do its work. The status is the raw
  wait status, if the program was started. -/
  | toolchain (command : String) (status : Option Int) (stderr : String)
  /-- Reading or writing failed. -/
  | io (message : String)
  /-- The report of a run could not be understood. -/
  | unreadable (message : String)
  deriving DecidableEq, Repr

/-- What a failure says about whom to look at. -/
inductive FailureKind where
  | userInput
  | compile
  | runtime
  | environment
  deriving DecidableEq, Repr

namespace Failure

def kind : Failure → FailureKind
  | .rejected .. => .userInput
  | .uncompiled .. => .compile
  | .thrown .. => .runtime
  | .toolchain .. | .io .. | .unreadable .. => .environment

/-- How an optional wait status is shown. -/
def statusText : Option Int → String
  | none => "None"
  | some raw => s!"Some(ExitStatus(unix_wait_status({raw})))"

def message : Failure → String
  | .rejected code message => s!"[{code}] {message}"
  | .uncompiled diagnostics =>
    s!"compilation failed with {diagnostics.length} diagnostic(s)"
  | .thrown cause => Text.firstLine cause
  | .toolchain command status stderr =>
    "外部コマンド実行に失敗しました: " ++ Text.firstLine stderr ++ " (status: " ++ statusText status ++
      ", command: " ++ command ++ ")"
  | .io message => "IO error: " ++ message
  | .unreadable message => "実行結果を解釈できません: " ++ message

/-- The line that reports a failure. -/
def report (failure : Failure) : String :=
  "Error: " ++ failure.message

end Failure

end Scratchpad
