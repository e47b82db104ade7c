/-!
# Program constants

The names under which the program is known to its users, and its version.
-/

namespace MarkupLog.Program

def name : String := "emphlog"

def installedVersion : String := "0.1.0"

def version (installed : Bool) : String :=
  if installed then installedVersion else "0.0.0"

def defaultLead : String := "EMPH> "

def settingsFile : String := "emphlog.toml"

def projectFile : String := "pyproject.toml"

def projectSection : List String := ["tool", "emphlog"]

end MarkupLog.Program
