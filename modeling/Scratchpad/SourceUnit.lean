import Scratchpad.Settings

/-!
# Source units

The source text that a snippet is compiled as: the namespaces of the session, and the snippet as
the body of the only function of a class that is named after a fresh identifier.
-/

namespace Scratchpad

/-- A source text and where its function is to be found. -/
structure SourceUnit where
  source : String
  namespaceName : String
  className : String
  functionName : String
  deriving DecidableEq, Repr

namespace SourceUnit

def generatedNamespace : String := "cscongen"

def qualifiedClass (unit : SourceUnit) : String :=
  unit.namespaceName ++ "." ++ unit.className

def usingLines (usings : List String) : String :=
  String.join (usings.map fun name => "using " ++ name ++ ";\n")

/-- The source unit with the given code as the body of its function. -/
def ofBody (code : String) (settings : Settings) (id : String) : SourceUnit where
  source :=
    usingLines settings.usings ++
      "\nnamespace " ++ generatedNamespace ++ " \x7b\n" ++
      "  public static class class" ++ id ++ " \x7b\n" ++
      "    public static object func" ++ id ++ "() \x7b\n" ++
      "      " ++ code ++ ";\n" ++
      "    \x7d\n" ++
      "  \x7d\n" ++
      "\x7d\n"
  namespaceName := generatedNamespace
  className := "class" ++ id
  functionName := "func" ++ id

end SourceUnit

end Scratchpad
