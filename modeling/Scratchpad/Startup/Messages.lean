import Scratchpad.Path
import Scratchpad.Startup.Suggestion
import Scratchpad.Text.Controls

/-!
# What the command line answers

The texts that are shown when the command line asks for them or cannot be understood. Words of the
command line are shown without terminal controls.
-/

namespace Scratchpad.Options

def programName : String := "csconsole"

/-- The name under which the program was called, given the path that it was called by. -/
def calledName (path : String) : String :=
  (Path.fileName? path).getD programName

/-! ## How the program is called -/

/-- The line that shows how the program is called. -/
def usageLine (program : String) (parts : List String) : String :=
  "Usage: " ++ " ".intercalate (program :: parts)

/-- The line for any options. -/
def usage (program : String) : String :=
  usageLine program ["[OPTIONS]", "[CODE]..."]

/-- The line for certain options, or for any if there are none. -/
def usageWith (program : String) (options : List Named) : String :=
  if options.isEmpty then usage program
  else usageLine program (options.map Named.name ++ ["[CODE]..."])

/-- The options that prepare a session, rather than show something about the program. -/
def Named.preparing : List Named :=
  [.switch .verbose, .switch .typeInfo, .setting .framework, .setting .reference, .setting .using]

/-- The options that prepare a session, and the code, as alternatives. -/
def alternatives : String :=
  "<" ++ "|".intercalate (Named.preparing.map Named.name ++ ["CODE"]) ++ ">"

/-- The line for a switch after other options, in whose place all alternatives are shown. -/
def usageAfter (program : String) (switch : Switch) (given : List Named) : String :=
  if given.isEmpty then usageWith program [.switch switch]
  else if .switch switch ∈ Named.preparing then usageLine program [alternatives]
  else usageLine program [switch.name, alternatives]

/-! ## Answers -/

def versionText : String := programName ++ " 0.1.0\n"

def helpText (program : String) : String :=
  String.join
    ["An interactive C# console: evaluate snippets, inspect results, and build line-numbered ",
     "programs (Rust).\n",
     "\n",
     usage program, "\n",
     "\n",
     "Arguments:\n",
     "  [CODE]...  Code to run once; words are joined with single spaces\n",
     "\n",
     "Options:\n",
     "  -v, --verbose              Print compiler warnings for successful evaluations\n",
     "  -t                         Print the concrete type name before each value\n",
     "  -F, --framework <VERSION>  Framework version to compile against (e.g. v2.0, v3.5, v4.0, ",
     "v4.6)\n",
     "  -R, --ref <ASSEMBLY>       Additional assembly reference (repeatable)\n",
     "  -U, --using <NAMESPACE>    Additional using namespace (repeatable)\n",
     "  -h, --help                 Print help\n",
     "  -V, --version              Print version\n"]

/-- The tip that a long name exists. -/
def similarTip (name : String) : String :=
  "  tip: a similar argument exists: '--" ++ name ++ "'"

/-- The tip how a word can be made part of the code. -/
def codeTip (word : String) : String :=
  "  tip: to pass '" ++ word ++ "' as a value, use '-- " ++ word ++ "'"

namespace Stop

def isAnswer : Stop → Bool
  | .help | .version => true
  | _ => false

def exitCode (stop : Stop) : Nat :=
  if stop.isAnswer then 0 else 2

/-- The options that the usage line of an unknown long name shows: those given, and the one that
was probably meant. -/
def shownOptions (name : String) (given : List Named) : List Named :=
  match (Named.suggestion? name).bind Named.ofLong? with
  | some meant => if meant ∈ given then given else given ++ [meant]
  | none => given

/-- The paragraphs of an error before the last, given how words are shown. -/
def paragraphs (program : String) (shown : String → String) : Stop → List String
  | .help | .version => []
  | .unknownLong name given =>
    let word := "--" ++ shown name
    ["error: unexpected argument '" ++ word ++ "' found",
      "\n".intercalate (((Named.suggestion? name).map similarTip).toList ++ [codeTip word]),
      usageWith program (shownOptions name given)]
  | .unknownShort name =>
    let word := "-" ++ shown (String.singleton name)
    ["error: unexpected argument '" ++ word ++ "' found", codeTip word, usage program]
  | .missingValue setting =>
    ["error: a value is required for '" ++ setting.name ++ "' but none was supplied"]
  | .repeated name =>
    ["error: the argument '" ++ name ++ "' cannot be used multiple times", usage program]
  | .needlessValue value switch given =>
    ["error: unexpected value '" ++ shown value ++ "' for '" ++ switch.name ++
        "' found; no more were expected",
      usageAfter program switch given]

/-- The whole text of an answer, given the name under which the program was called. -/
def text (medium : Controls.Medium) (program : String) (stop : Stop) : String :=
  let shown := Controls.remove medium
  match stop with
  | .help => helpText (shown program)
  | .version => versionText
  | _ =>
    "\n\n".intercalate
      (stop.paragraphs (shown program) shown ++ ["For more information, try '--help'.\n"])

/-- The first line of an error, or the whole of an answer that was asked for. -/
def headline (program : String) (stop : Stop) : String :=
  if stop.isAnswer then stop.text .page program else Text.firstLine (stop.text .page program)

end Stop

end Scratchpad.Options
