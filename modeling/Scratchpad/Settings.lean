import Scratchpad.Failure
import Scratchpad.Framework

/-!
# Session settings

What a session compiles its snippets with, and what it shows of the results.
-/

namespace Scratchpad

structure Settings where
  /-- The tag the framework was chosen by. -/
  tag : String
  framework : Framework
  /-- The namespaces every snippet may use. -/
  usings : List String
  /-- The assemblies every snippet is compiled with. -/
  references : List String
  /-- Whether the warnings of a successful compilation are shown. -/
  verbose : Bool
  /-- Whether the type of a value is shown above it. -/
  typeInfo : Bool
  deriving DecidableEq, Repr

namespace Settings

def default : Settings where
  tag := "v4.0"
  framework := .v40
  usings := Framework.v40.defaultUsings
  references := Framework.v40.defaultReferences
  verbose := false
  typeInfo := false

/-- Switches to the framework that a tag names and to its own usings and references. -/
def switch (tag : String) (settings : Settings) : Except Failure Settings :=
  match Framework.ofTag? tag with
  | none => .error (.rejected "CFG001" s!"Framework version '{tag}' not known.")
  | some framework =>
    .ok { settings with
      tag, framework
      usings := framework.defaultUsings
      references := framework.defaultReferences }

/-- Goes back to the one namespace that is always there. -/
def resetUsings (settings : Settings) : Settings :=
  { settings with usings := ["System"] }

/-- Goes back to the one assembly that is always there. -/
def resetReferences (settings : Settings) : Settings :=
  { settings with references := ["System.dll"] }

def addUsing (namespaceName : String) (settings : Settings) : Settings :=
  { settings with usings := settings.usings ++ [namespaceName] }

def addReference (reference : String) (settings : Settings) : Settings :=
  { settings with references := settings.references ++ [reference] }

/-- The library that every compilation references first. -/
def runtimeLibrary : String := "mscorlib.dll"

/-- The paths of the assemblies to compile with: the runtime library of the framework, then the
references of the session, the relative ones below the same directory. -/
def resolvedReferences (frameworkDir : String) (settings : Settings) : List String :=
  let root := settings.framework.family.referenceRoot frameworkDir
  Path.join root runtimeLibrary :: settings.references.map (Path.join root)

end Settings

end Scratchpad
