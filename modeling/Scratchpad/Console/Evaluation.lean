import Scratchpad.Console.Desk
import Scratchpad.Snippet
import Scratchpad.Text.Blank
import Scratchpad.Value.Display

/-!
# Evaluating snippets

A snippet is compiled and run with the settings of the session, and its value or its failure is
shown.
-/

namespace Scratchpad

/-- What evaluating a snippet gives. -/
structure Evaluation where
  value : Value
  warnings : List String

/-- What the engine is asked to compile for a snippet. -/
def Job.ofSnippet (site : Site) (settings : Settings) (id snippet : String) : Job where
  unit := .ofBody (Snippet.body snippet) settings id
  references := settings.resolvedReferences site.frameworkDir
  framework := settings.framework

/-- The lines that tell of a failure while it is still known in full. -/
def Failure.detail : Failure → List String
  | .uncompiled diagnostics => "COMPILE ERRORS" :: diagnostics
  | .thrown cause => [cause]
  | .toolchain _ _ stderr => if Text.isBlankText stderr then [] else [Text.trimEnd stderr]
  | .rejected .. | .io .. | .unreadable .. => []

namespace Action

variable {E : Engine}

def evaluate (site : Site) (snippet : String) : Action E Evaluation := do
  let session ← session
  let id ← drawIdentifier site
  let build ← compile (.ofSnippet site session.settings id snippet)
  let value ← run build.entry
  return { value, warnings := build.warnings }

/-- Shows the value of a snippet, and the warnings if they are asked for. -/
def showEvaluation (site : Site) (evaluation : Evaluation) : Action E Unit := do
  let session ← session
  writeLines site .err (if session.settings.verbose then evaluation.warnings else [])
  writeLines site .out (evaluation.value.resultLines session.settings.typeInfo)

/-- Evaluates a snippet and shows what comes of it. The output is flushed first, since the code
may print to the same place. -/
def runSnippet (site : Site) (snippet : String) : Action E Unit := do
  flush site
  match ← attempt (evaluate site snippet) with
  | .ok evaluation => showEvaluation site evaluation
  | .error failure =>
    writeLines site .err failure.detail
    throw failure

end Action

end Scratchpad
