/-!
# Terminal controls

What of a text is left without everything that steers a terminal: the control characters other than
white space, and the sequences that an escape character starts. Sequences are read as a terminal
reads them, so one may be cut short by another escape character, by a cancel or by a substitute.
-/

namespace Scratchpad.Controls

/-- How far a control sequence has been read. -/
inductive State where
  /-- There is none. -/
  | ground
  /-- Up to the escape character. -/
  | escape
  /-- Up to an intermediate character after the escape character. -/
  | escapeIntermediate
  /-- Inside a control sequence proper, before its final character. -/
  | csi
  /-- At the start of a device control string. -/
  | dcsEntry
  /-- Among the parameters of a device control string. -/
  | dcsParam
  /-- Among the intermediate characters of a device control string. -/
  | dcsIntermediate
  /-- Inside the body of a string that a terminator ends. -/
  | body
  /-- Inside an operating system command. -/
  | osc
  deriving DecidableEq, Repr

/-- Whether the encoding of a character holds the byte of the string terminator after its first
byte. -/
def holdsTerminator (c : Char) : Bool :=
  ((String.utf8EncodeChar c).drop 1).contains 0x9C

/-- How far a sequence has been read after another character of it. -/
def step (state : State) (c : Char) : State :=
  let n := c.toNat
  if n == 0x18 || n == 0x1A then .ground
  else if n == 0x1B then .escape
  else
    match state with
    | .ground => .ground
    | .escape =>
      if n < 0x20 || 0x7F ≤ n then .escape
      else if n < 0x30 then .escapeIntermediate
      else if c == '[' then .csi
      else if c == ']' then .osc
      else if c == 'P' then .dcsEntry
      else if c == 'X' || c == '^' || c == '_' then .body
      else .ground
    | .escapeIntermediate => if n < 0x30 || 0x7F ≤ n then .escapeIntermediate else .ground
    | .csi => if n < 0x40 || 0x7F ≤ n then .csi else .ground
    | .dcsEntry =>
      if n < 0x20 || 0x7F ≤ n then .dcsEntry
      else if n < 0x30 then .dcsIntermediate
      else if n < 0x40 then .dcsParam
      else .body
    | .dcsParam =>
      if n < 0x20 || 0x7F ≤ n then .dcsParam
      else if n < 0x30 then .dcsIntermediate
      else if n < 0x3C then .dcsParam
      else .body
    | .dcsIntermediate => if n < 0x30 || 0x7F ≤ n then .dcsIntermediate else .body
    | .body => if holdsTerminator c then .ground else .body
    | .osc => if n == 0x07 then .ground else .osc

/-- The white space among the control characters. -/
def isSpacing (c : Char) : Bool :=
  c == '\t' || c == '\n' || c == '\r' || c.toNat == 0x0C

/-- Whether a character is shown: outside of sequences all but the controls, and inside of those
that are no strings the white space. -/
def isShown (state : State) (c : Char) : Bool :=
  match state with
  | .ground => isSpacing c || (0x20 ≤ c.toNat && c.toNat != 0x7F)
  | .escape | .escapeIntermediate | .csi => isSpacing c
  | .dcsEntry | .dcsParam | .dcsIntermediate | .body | .osc => false

/-- Where a text without controls goes. White space interrupts a sequence, and text may follow. On
a stream the next control takes the sequence up again; on a page the sequence is over. -/
inductive Medium where
  | stream
  | page
  deriving DecidableEq, Repr

/-- What is held of a sequence that white space interrupts. -/
def Medium.held : Medium → State → State
  | .stream, state => state
  | .page, _ => .ground

/-- Whether characters are being shown or left out. -/
inductive Mode where
  /-- They are left out, and this much of a sequence has been read. -/
  | hiding (state : State)
  /-- They are shown, and this much of an interrupted sequence is held. -/
  | showing (held : State)
  deriving DecidableEq, Repr

/-- The characters that are shown, in a given mode at first. -/
def shownFrom (medium : Medium) : Mode → List Char → List Char
  | _, [] => []
  | .hiding state, c :: cs =>
    if isShown state c then c :: shownFrom medium (.showing (medium.held (step state c))) cs
    else shownFrom medium (.hiding (step state c)) cs
  | .showing held, c :: cs =>
    if isShown .ground c then
      c :: shownFrom medium (.showing (if c.toNat < 0x80 then held else .ground)) cs
    else shownFrom medium (.hiding (step held c)) cs

def remove (medium : Medium) (s : String) : String :=
  String.ofList (shownFrom medium (.hiding .ground) s.toList)

end Scratchpad.Controls
