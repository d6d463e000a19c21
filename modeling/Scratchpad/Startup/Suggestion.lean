import Scratchpad.Startup.Options
import Scratchpad.Text.Similar

/-!
# Suggestions

Which option was probably meant by a long name that no option has.
-/

namespace Scratchpad.Options.Named

/-- How similar a name has to be to count as a slip, at the least. -/
def slip : Float := 0.7

/-- The more similar of two long names, the later one if they are equally similar. -/
def closer (best : Option (Float × String)) (found : Float × String) : Option (Float × String) :=
  match best with
  | some (score, name) => if found.1 ≥ score then some found else some (score, name)
  | none => some found

/-- The long name that is most similar to a word, if any is similar enough. -/
def suggestion? (word : String) : Option String :=
  let scored := longNames.map fun (name, _) => (Text.similarity word name, name)
  ((scored.filter fun (score, _) => score > slip).foldl closer none).map (·.2)

end Scratchpad.Options.Named
