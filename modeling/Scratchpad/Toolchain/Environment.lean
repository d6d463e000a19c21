import Scratchpad.Text.Utf8

/-!
# The environment

What the variables of the environment say about the compiler, the runtime and the place of the
frameworks.
-/

namespace Scratchpad

/-- The programs that compile and run source units. -/
structure Toolchain where
  compiler : String
  /-- The program that runs what was compiled, which is run by itself if there is none. -/
  runtime : Option String
  deriving DecidableEq, Repr

/-- The variables of an environment, as bytes. -/
abbrev Variables := String → Option Bytes

namespace Variables

/-- A variable whose bytes are a text. -/
def text? (env : Variables) (name : String) : Option String :=
  (env name).bind Utf8.decode?

/-- The toolchain of an environment. An empty compiler counts as unset; an empty runtime means that
there is none. -/
def toolchain (env : Variables) : Toolchain where
  compiler :=
    match env.text? "CSCON_COMPILER" with
    | some name => if name = "" then "mcs" else name
    | none => "mcs"
  runtime :=
    match env.text? "CSCON_RUNTIME" with
    | some name => if name = "" then none else some name
    | none => some "mono"

/-- The directory below which the assemblies of the frameworks lie. -/
def frameworkDir (env : Variables) : String :=
  match env "CSCON_FRAMEWORK_DIR" with
  | some bytes => Utf8.lenient bytes
  | none => "/usr/lib/mono"

end Variables

end Scratchpad
