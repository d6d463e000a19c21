import Scratchpad.SourceUnit

/-!
# The harness

The program text that calls the function of a source unit and writes a snapshot of what it returns,
or of the exception it ends with, to the file named by its first argument.
-/

namespace Scratchpad.Harness

def beforeEntry : String :=
  String.join
    ["using System;\n",
     "using System.IO;\n",
     "using System.Reflection;\n",
     "using System.Text;\n",
     "\n",
     "namespace cscongen \x7b\n",
     "  public static class HarnessMain \x7b\n",
     "    public static int Main(string[] args) \x7b\n",
     "      string outcome;\n",
     "      try \x7b\n",
     "        object result = "]

def afterEntry : String :=
  String.join
    ["();\n",
     "        outcome = \"\x7b\\\"status\\\":\\\"ok\\\",\\\"value\\\":\" + Snap(result, 0) + \"\x7d\";\n",
     "      \x7d catch (Exception ex) \x7b\n",
     "        outcome = \"\x7b\\\"status\\\":\\\"fault\\\",\\\"cause\\\":\" + Quote(ex.GetBaseException().ToString()) + \"\x7d\";\n",
     "      \x7d\n",
     "      File.WriteAllText(args[0], outcome);\n",
     "      return 0;\n",
     "    \x7d\n",
     "\n",
     "    static string Snap(object val, int level) \x7b\n",
     "      if (val == null)\n",
     "        return \"\x7b\\\"kind\\\":\\\"null\\\"\x7d\";\n",
     "\n",
     "      Type type = val.GetType();\n",
     "      StringBuilder sb = new StringBuilder();\n",
     "\n",
     "      if (type.IsArray) \x7b\n",
     "        Array array = (Array)val;\n",
     "        sb.Append(\"\x7b\\\"kind\\\":\\\"sequence\\\",\\\"type\\\":\").Append(Quote(type.ToString())).Append(\",\\\"items\\\":[\");\n",
     "        for (int i = 0; i < array.Length; i++) \x7b\n",
     "          if (i > 0)\n",
     "            sb.Append(',');\n",
     "          sb.Append(Snap(array.GetValue(i), level + 1));\n",
     "        \x7d\n",
     "        sb.Append(\"]\x7d\");\n",
     "      \x7d else if (type == typeof(string)) \x7b\n",
     "        sb.Append(\"\x7b\\\"kind\\\":\\\"text\\\",\\\"value\\\":\").Append(Quote((string)val)).Append('\x7d');\n",
     "      \x7d else if (!type.IsValueType) \x7b\n",
     "        string display = val.ToString();\n",
     "        sb.Append(\"\x7b\\\"kind\\\":\\\"composite\\\",\\\"type\\\":\").Append(Quote(type.ToString()));\n",
     "        sb.Append(\",\\\"display\\\":\").Append(Quote(display)).Append(\",\\\"members\\\":[\");\n",
     "        if (display == type.ToString() || level == 0) \x7b\n",
     "          bool first = true;\n",
     "          foreach (PropertyInfo prop in type.GetProperties()) \x7b\n",
     "            MethodInfo getter = prop.GetGetMethod();\n",
     "            if (getter == null || getter.GetParameters().Length != 0)\n",
     "              continue;\n",
     "            if (!first)\n",
     "              sb.Append(',');\n",
     "            first = false;\n",
     "            sb.Append(MemberNode(prop.Name, getter.Invoke(val, new object[0]), level));\n",
     "          \x7d\n",
     "          foreach (FieldInfo field in type.GetFields()) \x7b\n",
     "            if (!first)\n",
     "              sb.Append(',');\n",
     "            first = false;\n",
     "            sb.Append(MemberNode(field.Name, field.GetValue(val), level));\n",
     "          \x7d\n",
     "        \x7d\n",
     "        sb.Append(\"]\x7d\");\n",
     "      \x7d else \x7b\n",
     "        sb.Append(\"\x7b\\\"kind\\\":\\\"primitive\\\",\\\"type\\\":\").Append(Quote(type.ToString()));\n",
     "        sb.Append(\",\\\"text\\\":\").Append(Quote(val.ToString())).Append('\x7d');\n",
     "      \x7d\n",
     "\n",
     "      return sb.ToString();\n",
     "    \x7d\n",
     "\n",
     "    static string MemberNode(string name, object val, int level) \x7b\n",
     "      return \"\x7b\\\"name\\\":\" + Quote(name) + \",\\\"value\\\":\" + Snap(val, level + 1) + \"\x7d\";\n",
     "    \x7d\n",
     "\n",
     "    static string Quote(string s) \x7b\n",
     "      if (s == null)\n",
     "        return \"\\\"\\\"\";\n",
     "      StringBuilder sb = new StringBuilder(\"\\\"\");\n",
     "      foreach (char c in s) \x7b\n",
     "        switch (c) \x7b\n",
     "          case '\"': sb.Append(\"\\\\\\\"\"); break;\n",
     "          case '\\\\': sb.Append(\"\\\\\\\\\"); break;\n",
     "          default:\n",
     "            if (c < ' ')\n",
     "              sb.Append(\"\\\\u\").Append(((int)c).ToString(\"x4\"));\n",
     "            else\n",
     "              sb.Append(c);\n",
     "            break;\n",
     "        \x7d\n",
     "      \x7d\n",
     "      return sb.Append('\"').ToString();\n",
     "    \x7d\n",
     "  \x7d\n",
     "\x7d\n"]

/-- The program text that calls the function of a source unit. -/
def source (unit : SourceUnit) : String :=
  beforeEntry ++ unit.qualifiedClass ++ "." ++ unit.functionName ++ afterEntry

end Scratchpad.Harness
