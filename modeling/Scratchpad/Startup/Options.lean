import Scratchpad.Text.Cut

/-!
# Command-line options

The words of the command line: options, and after them the words of the code to run. Options end
at the first word that is none, and every word from there on belongs to the code as it is. The
value of an option may follow it directly, after an equals sign, or as the next word.
-/

namespace Scratchpad

/-- What the command line asks for. -/
structure Options where
  verbose : Bool := false
  typeInfo : Bool := false
  framework : Option String := none
  references : List String := []
  usings : List String := []
  code : List String := []
  deriving DecidableEq, Repr

namespace Options

/-- The options without a value. -/
inductive Switch where
  | verbose
  | typeInfo
  | help
  | version
  deriving DecidableEq, Repr

/-- The options with a value. -/
inductive Setting where
  | framework
  | reference
  | using
  deriving DecidableEq, Repr

inductive Named where
  | switch (switch : Switch)
  | setting (setting : Setting)
  deriving DecidableEq, Repr

def Switch.name : Switch → String
  | .verbose => "--verbose"
  | .typeInfo => "-t"
  | .help => "--help"
  | .version => "--version"

def Setting.name : Setting → String
  | .framework => "--framework <VERSION>"
  | .reference => "--ref <ASSEMBLY>"
  | .using => "--using <NAMESPACE>"

/-- How an option is called in a message. -/
def Named.name : Named → String
  | .switch named => named.name
  | .setting named => named.name

def Named.longNames : List (String × Named) :=
  [("verbose", .switch .verbose), ("framework", .setting .framework), ("ref", .setting .reference),
   ("using", .setting .using), ("help", .switch .help), ("version", .switch .version)]

def Named.ofLong? (name : String) : Option Named :=
  longNames.lookup name

def Named.ofShort? (name : Char) : Option Named :=
  if name = 'v' then some (.switch .verbose)
  else if name = 't' then some (.switch .typeInfo)
  else if name = 'h' then some (.switch .help)
  else if name = 'V' then some (.switch .version)
  else if name = 'F' then some (.setting .framework)
  else if name = 'R' then some (.setting .reference)
  else if name = 'U' then some (.setting .using)
  else none

/-- Why reading the command line ends early. Where a message may name the options given before,
they are kept. -/
inductive Stop where
  | help
  | version
  | unknownLong (name : String) (given : List Named)
  | unknownShort (name : Char)
  | missingValue (setting : Setting)
  | repeated (name : String)
  | needlessValue (value : String) (switch : Switch) (given : List Named)
  deriving DecidableEq, Repr

/-- The options read so far, with one that waits for its value or has yet to be noted with it. -/
structure Progress where
  options : Options := {}
  /-- The options that have been noted, each where it was noted first. -/
  given : List Named := []
  waiting : Option (Setting × Option String) := none
  deriving DecidableEq, Repr

namespace Progress

def give (progress : Progress) (option : Named) : Progress :=
  if option ∈ progress.given then progress
  else { progress with given := progress.given ++ [option] }

/-- Notes an option with its value. Only one framework can be chosen. -/
def note (progress : Progress) (setting : Setting) (value : String) : Except Stop Progress :=
  let options := progress.options
  let progress := progress.give (.setting setting)
  match setting with
  | .framework =>
    match options.framework with
    | some _ => .error (.repeated setting.name)
    | none => .ok { progress with options := { options with framework := some value } }
  | .reference =>
    .ok { progress with options := { options with references := options.references ++ [value] } }
  | .using => .ok { progress with options := { options with usings := options.usings ++ [value] } }

/-- Notes the option that is still open. -/
def finish (progress : Progress) : Except Stop Progress :=
  match progress.waiting with
  | none => .ok progress
  | some (setting, none) => .error (.missingValue setting)
  | some (setting, some value) => note { progress with waiting := none } setting value

/-- The options that count as given once the open one is noted. One without its value does not
count, and one that must not be repeated no longer counts when it is. -/
def settled (progress : Progress) : List Named :=
  match progress.waiting with
  | some (setting, some value) =>
    match note progress setting value with
    | .ok noted => noted.given
    | .error _ => progress.given.erase (.setting setting)
  | _ => progress.given

/-- Turns a switch on, or stops at one that only shows something. -/
def turnOn (progress : Progress) (switch : Switch) : Except Stop Progress := do
  let progress ← progress.finish
  let options := progress.options
  let progress := progress.give (.switch switch)
  match switch with
  | .verbose =>
    if options.verbose then .error (.repeated switch.name)
    else .ok { progress with options := { options with verbose := true } }
  | .typeInfo =>
    if options.typeInfo then .error (.repeated switch.name)
    else .ok { progress with options := { options with typeInfo := true } }
  | .help => .error .help
  | .version => .error .version

/-- Meets an option that takes a value, which may already be there. -/
def meet (progress : Progress) (setting : Setting) (value : Option String) :
    Except Stop Progress := do
  let progress ← progress.finish
  match value with
  | some value => progress.note setting value
  | none => .ok { progress with waiting := some (setting, none) }

/-- Reads a long option, given the word after its dashes. -/
def readLong (progress : Progress) (word : String) : Except Stop Progress :=
  let (name, value) := match Text.splitFirst? '=' word with
    | some (name, value) => (name, some value)
    | none => (word, none)
  match Named.ofLong? name, value with
  | none, _ => .error (.unknownLong name progress.settled)
  | some (.switch switch), some value => .error (.needlessValue value switch progress.given)
  | some (.switch switch), none => progress.turnOn switch
  | some (.setting setting), value => progress.meet setting value

/-- The value that directly follows a short option in its word. -/
def attached : List Char → Option String
  | [] => none
  | '=' :: value => some (String.ofList value)
  | value => some (String.ofList value)

/-- Reads the short options of a word, given the characters after its dash. -/
def readShort (progress : Progress) : List Char → Except Stop Progress
  | [] => .ok progress
  | c :: cs =>
    match Named.ofShort? c with
    | none => .error (.unknownShort c)
    | some (.switch switch) => do
      let progress ← progress.turnOn switch
      readShort progress cs
    | some (.setting setting) => progress.meet setting (attached cs)

/-- Ends the options, with the words of the code. -/
def conclude (progress : Progress) (code : List String) : Except Stop Options := do
  let progress ← progress.finish
  .ok { progress.options with code }

def read (progress : Progress) : List String → Except Stop Options
  | [] => progress.conclude []
  | word :: words =>
    match word.toList with
    | ['-', '-'] => progress.conclude words
    | '-' :: '-' :: long => do
      let progress ← progress.readLong (String.ofList long)
      read progress words
    | '-' :: c :: short => do
      let progress ← progress.readShort (c :: short)
      read progress words
    | _ =>
      match progress.waiting with
      | some (setting, none) => read { progress with waiting := some (setting, some word) } words
      | _ => progress.conclude (word :: words)

end Progress

def parse (words : List String) : Except Stop Options :=
  Progress.read {} words

/-- The code to run, its words with single blanks between them. -/
def command? (options : Options) : Option String :=
  if options.code.isEmpty then none else some (" ".intercalate options.code)

end Options

end Scratchpad
