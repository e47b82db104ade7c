import MarkupLog.Program
import MarkupLog.Text.Split

/-!
# Help screens

The program and each of its commands have a screen that says how to use them. A message about wrong
usage begins with the first line of the screen and says how to see the rest.
-/

namespace MarkupLog.Cli

inductive Command
  | log
  | strip
  | version
  deriving Repr, DecidableEq

namespace Command

def all : List Command := [.log, .strip, .version]

def name : Command → String
  | .log => "log"
  | .strip => "strip"
  | .version => "version"

def ofName? (s : String) : Option Command :=
  all.find? fun c => c.name = s

end Command

/-- What a screen is about: the program as a whole, or a command. -/
inductive Screen
  | program
  | command (c : Command)
  deriving Repr, DecidableEq

namespace Screen

def path : Screen → String
  | .program => Program.name
  | .command c => Program.name ++ " " ++ c.name

def operands : Screen → String
  | .program => " [COMMAND] [ARGS]..."
  | .command .log => " MESSAGE [ARGS]..."
  | .command .strip => " [TEXTS]..."
  | .command .version => ""

def usage (s : Screen) : String :=
  "Usage: " ++ s.path ++ " [OPTIONS]" ++ s.operands

def hint (s : Screen) : String :=
  "Try '" ++ s.path ++ " --help' for help."

def summary : Screen → String
  | .program => "EmphLog CLI: render emphasis markup as colored log lines."
  | .command .log => "Render MESSAGE (printf-style, substituted with ARGS) as a log line."
  | .command .strip => "Remove emphasis markup from TEXT (or STDIN)."
  | .command .version => "Show the current version of EmphLog."

def optionLines : Screen → List String
  | .program =>
    ["  -q, --quiet                  Only show diagnostics errors.",
      "  -v, --verbose                Increase diagnostics verbosity. Specify up to",
      "                               three times for more detail.",
      "  --no-color                   Disable color output (equivalent to",
      "                               --color=never).",
      "  --color [auto|always|never]  Color output: auto (default), always, or never.",
      "  --config FILE                Read settings from this emphlog.toml or",
      "                               pyproject.toml instead of discovering one.",
      "  -h, --help                   Show this message and exit."]
  | .command .log =>
    ["  --level [debug|info|warn|error]",
      "                                  Log level (default: info).",
      "  --category [build|api]          Emit as a verbose message of this verbosity",
      "                                  group.",
      "  --verbose-groups TEXT           Enabled verbosity groups: 'all', 'true',",
      "                                  'false' or a comma-separated list.",
      "  --prefix TEXT                   Line prefix (overrides the configured",
      "                                  prefix).",
      "  --debug-mode                    Behave like a host in debug mode: show debug",
      "                                  lines, disable color.",
      "  -h, --help                      Show this message and exit."]
  | .command _ => ["  -h, --help  Show this message and exit."]

def commandLines : Screen → List String
  | .program =>
    ["", "Commands:",
      "  log      Render MESSAGE (printf-style, substituted with ARGS) as a log...",
      "  strip    Remove emphasis markup from TEXT (or STDIN).",
      "  version  Show the current version of EmphLog."]
  | .command _ => []

def text (s : Screen) : String :=
  Text.join "\n"
    ([s.usage, "", "  " ++ s.summary, "", "Options:"] ++ s.optionLines ++ s.commandLines)

end Screen

end MarkupLog.Cli
