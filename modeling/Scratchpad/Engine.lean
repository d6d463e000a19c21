import Scratchpad.SourceUnit
import Scratchpad.Value

/-!
# Engines

An engine compiles source units and runs what it compiled. A session knows nothing else of it, so
everything a session does can be said for every engine.
-/

namespace Scratchpad

/-- The two streams a program writes to. -/
inductive Stream where
  | out
  | err
  deriving DecidableEq, Repr

/-- What an engine is asked to compile. -/
structure Job where
  unit : SourceUnit
  /-- The paths of the assemblies to compile with. -/
  references : List String
  framework : Framework
  deriving DecidableEq, Repr

/-- A compiled source unit, with the warnings of its compilation. -/
structure Build (Entry : Type) where
  entry : Entry
  warnings : List String

/-- A run of a compiled source unit: what the code itself printed, and how it ended. -/
structure Run where
  printed : List (Stream × String) := []
  result : Except Failure Value

/-- Compiles source units and runs what it compiled. Both may depend on what happened before. -/
structure Engine where
  State : Type
  /-- What is left of a source unit once it is compiled. -/
  Entry : Type
  compile : Job → State → Except Failure (Build Entry) × State
  run : Entry → State → Run × State

end Scratchpad
