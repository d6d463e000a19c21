/-!
# The help text
-/

namespace Scratchpad

def helpText : String :=
  String.join
    ["Evaluation;\n",
     "  e (code)           -- Evaluate statement and show output\n",
     "  (code)             -- Execute code as written\n",
     "  time (code)        -- Execute code and output run duration\n",
     "  whileinput (code)  -- Execute code in a while loop, taking input\n",
     "                        from the console to the variable 'input'\n",
     "                        until input is blank\n",
     "  verbose (on|off)   -- Enable/disable verbose mode\n",
     "  typeinfo (on|off)  -- Enable/disable show type info\n",
     "  exit               -- Leave the console\n",
     "\n",
     "Program;\n",
     "  (line-num) (line)  -- Set program line at line-num\n",
     "  (line-num)         -- Delete program line at line-num\n",
     "  list               -- List current program with line numbers\n",
     "  clear              -- Clear current program\n",
     "  run                -- Run current program\n",
     "\n",
     "Settings;\n",
     "  framework (version)  -- Compile using specified framework version (defaults to v4.0)\n",
     "  using (namespace)    -- Add namespace to using list\n",
     "  listusing            -- List currently used namespaces\n",
     "  clearusing           -- Clear current using list (resets to using System)\n",
     "  ref (assembly)       -- Add assembly reference\n",
     "  listref              -- List currently referenced assemblies\n",
     "  clearref             -- Clear current reference list (resets to referencing System.dll)\n",
     "\n",
     "Multi-line input: end a line with '\\' to continue it on the next line.\n"]

end Scratchpad
