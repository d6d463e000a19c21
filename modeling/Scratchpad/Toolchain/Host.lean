import Scratchpad.Text.Utf8

/-!
# Hosts

A host starts programs. A program is started with a folder of files and leaves a folder behind, so
nothing but what the folder holds passes from one program to the next.
-/

namespace Scratchpad

/-- The files of a directory, by name. -/
structure Folder where
  files : List (String × Bytes) := []
  deriving DecidableEq, Repr

namespace Folder

def get? (folder : Folder) (name : String) : Option Bytes :=
  folder.files.lookup name

def erase (folder : Folder) (name : String) : Folder :=
  ⟨folder.files.filter (·.1 != name)⟩

/-- The folder with a file, instead of one of the same name. -/
def put (folder : Folder) (name : String) (content : Bytes) : Folder :=
  ⟨(folder.erase name).files ++ [(name, content)]⟩

end Folder

structure Launch where
  program : String
  args : List String
  /-- The directory to start it in, if not the one of the session. -/
  workingDir : Option String := none
  deriving DecidableEq, Repr

namespace Launch

def words (launch : Launch) : List String :=
  launch.program :: launch.args

/-- Whether a word holds the character NUL, which no program can be given. -/
def hasNul (word : String) : Bool :=
  word.toList.any (·.toNat == 0)

/-- The words as they are shown, with blanks between them. -/
def render (launch : Launch) : String :=
  " ".intercalate
    (launch.words.map fun word => if hasNul word then "<string-with-nul>" else word)

end Launch

/-- What a program that was started leaves behind. -/
structure Finished where
  /-- The raw wait status: zero for success, 256 times the exit code for a normal exit. -/
  status : Int := 0
  stdout : Bytes := []
  stderr : Bytes := []
  /-- The files as the program left them. -/
  folder : Folder
  deriving DecidableEq, Repr

/-- A place where programs can be started. -/
structure Host where
  State : Type
  /-- Makes a fresh directory and gives its path. -/
  makeDir : State → String × State
  /-- Starts a program on the files of its directory, or says why it cannot be started. -/
  start : Launch → Folder → State → Except String Finished × State

namespace Host

/-- Starts a program, unless one of its words holds a NUL. -/
def launch (host : Host) (launch : Launch) (folder : Folder) (state : host.State) :
    Except String Finished × host.State :=
  if launch.words.any Launch.hasNul then
    (.error "nul byte found in provided data", state)
  else host.start launch folder state

/-- A host on which no program exists. -/
def bare : Host where
  State := Unit
  makeDir state := ("/tmp/cscon", state)
  start _ _ state := (.error "No such file or directory (os error 2)", state)

end Host

end Scratchpad
