import Scratchpad.Command
import Scratchpad.Program
import Scratchpad.Settings

/-!
# Sessions

What a session remembers from one command to the next, and what the commands that throw something
away do to it.
-/

namespace Scratchpad

/-- What a session remembers. -/
structure Session where
  settings : Settings := .default
  program : Program := {}
  /-- Whether the session has been left. -/
  exited : Bool := false
  deriving DecidableEq, Repr

/-- The session after a reset. Only an unknown framework is refused. -/
def Reset.apply (session : Session) : Reset → Except Failure Session
  | .program => .ok { session with program := {} }
  | .framework tag => (session.settings.switch tag).map fun settings => { session with settings }
  | .usings => .ok { session with settings := session.settings.resetUsings }
  | .references => .ok { session with settings := session.settings.resetReferences }

end Scratchpad
