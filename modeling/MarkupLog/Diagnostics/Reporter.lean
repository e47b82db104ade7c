import MarkupLog.Diagnostics.Layout
import MarkupLog.Diagnostics.Style
import MarkupLog.Environment

/-!
# Showing diagnostics

The reporter of the program decides which records are shown, and how. It answers for the program's
own loggers, which are named after it; a logger of another name follows the default of the host,
which shows warnings and above and writes nothing here. Before the reporter is set up it writes
nothing either.
-/

namespace MarkupLog

/-- The reporter: its level, and its layout once it is set up. -/
structure Reporter where
  level : Int := Level.notSet
  layout : Option String := none
  deriving Repr, DecidableEq

namespace Reporter

def brief : String := "emphlog [%(levelname)s] %(message)s"

def detailed : String := "emphlog [%(levelname)s] %(name)s:%(lineno)s %(message)s"

/-- The reporter of a level. Levels below info are for finding faults. -/
def ofLevel (level : Int) : Reporter :=
  { level, layout := some (if Level.info ≤ level then brief else detailed) }

/-- The level that is asked for, or else that of the environment, or else the level that keeps
silent about everything but failures. -/
def chooseLevel (requested : Option Int) (env : Environment) :
    Except Environment.LevelError Int :=
  match requested with
  | some level => .ok level
  | none => env.level.map fun level => level.getD Level.critical

def root : String := "emphlog"

def owns (logger : String) : Bool :=
  logger = root || (root ++ ".").toList.isPrefixOf logger.toList

/-- The least level that a logger shows. A reporter that leaves the level open follows the host. -/
def threshold (r : Reporter) (logger : String) : Int :=
  if owns logger ∧ r.level ≠ Level.notSet then r.level else Level.warning

/-- The test whether a logger shows a level. A level that is not positive is never shown. -/
def shows (r : Reporter) (logger : String) (level : Int) : Bool :=
  Level.notSet < level && r.threshold logger ≤ level

def styled (layout : String) (r : Record) : Except Template.Fault String :=
  (Layout.write layout r).map (Style.ofLevel r.level).apply

def text (r : Reporter) (record : Record) : String :=
  match r.layout with
  | none => ""
  | some layout =>
    if owns record.logger && r.shows record.logger record.level then
      match styled layout record with
      | .ok line => line ++ "\n"
      | .error _ => ""
    else ""

end Reporter

end MarkupLog
