/-!
# Paths

Paths as texts with a slash between their parts. Nothing in a path is simplified.
-/

namespace Scratchpad.Path

def isAbsolute (path : String) : Bool :=
  path.toList.head? == some '/'

/-- The path `path` seen from `base`. An absolute path stands for itself; otherwise a slash is put
between the two unless `base` is empty or ends in one. -/
def join (base path : String) : String :=
  if isAbsolute path then path
  else if base.toList.isEmpty || base.toList.getLast? == some '/' then base ++ path
  else base ++ "/" ++ path

/-- The last name in a path, if it ends in one. Empty parts and single dots do not count. -/
def fileName? (path : String) : Option String :=
  match ((path.splitOn "/").filter fun part => part != "" && part != ".").getLast? with
  | some ".." => none
  | last => last

end Scratchpad.Path
