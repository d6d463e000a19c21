import Scratchpad.Path

/-!
# Framework versions

The framework versions a snippet can be compiled against, the tags that name them, and what each
of them brings along: a language version, references, namespaces and a directory of assemblies.
-/

namespace Scratchpad

inductive Framework where
  | v20
  | v35
  | v40
  | v46
  deriving DecidableEq, Repr

/-- Versions that share their assemblies. -/
inductive Family where
  | legacy
  | modern
  deriving DecidableEq, Repr

namespace Framework

/-- The version that a tag names. Tags are compared as they are written. -/
def ofTag? (tag : String) : Option Framework :=
  if tag ∈ ["2", "2.0", "v2.0"] then some .v20
  else if tag ∈ ["3", "3.5", "v3.5"] then some .v35
  else if tag ∈ ["4", "4.0", "v4.0"] then some .v40
  else if tag ∈ ["4.6", "v4.6"] then some .v46
  else none

def family : Framework → Family
  | .v20 | .v35 => .legacy
  | .v40 | .v46 => .modern

/-- What the compiler is told about the language. -/
def languageVersion : Framework → String
  | .v20 => "ISO-2"
  | .v35 => "3"
  | .v40 => "4"
  | .v46 => "6"

def defaultReferences (framework : Framework) : List String :=
  match framework.family with
  | .legacy => ["System.dll"]
  | .modern => ["System.dll", "System.Collections.dll"]

def defaultUsings (_ : Framework) : List String :=
  ["System", "System.IO", "System.Net", "System.Collections.Generic"]

end Framework

/-- Where the assemblies of a family lie below the directory of all frameworks. -/
def Family.directory : Family → String
  | .legacy => "2.0-api"
  | .modern => "4.5"

/-- The directory that relative references of a family are looked up in. -/
def Family.referenceRoot (frameworkDir : String) (family : Family) : String :=
  Path.join frameworkDir family.directory

end Scratchpad
