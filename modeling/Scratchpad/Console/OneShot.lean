import Scratchpad.Console.Execute

/-!
# One command

A single command is carried out without a console around it, and an exit code tells whether it
failed.
-/

namespace Scratchpad

/-- Carries out one command, reports its failure, and gives an exit code and the replies that are
left. That the output cannot be flushed or the failure cannot be reported is passed over. -/
def Desk.runOnce {E : Engine} (site : Site) (text : String) (replies : List Reply)
    (desk : Desk E) : Nat × List Reply × Desk E :=
  let (result, replies, desk) := desk.carryOut site (.parse text) replies
  let (_, desk) := (Action.flush site).perform desk
  match result with
  | .ok () => (0, replies, desk)
  | .error failure =>
    let (_, desk) := (Action.writeLines site .err [failure.report]).perform desk
    (1, replies, desk)

end Scratchpad
