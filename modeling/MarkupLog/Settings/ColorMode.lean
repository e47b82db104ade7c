import MarkupLog.Environment
import MarkupLog.Terminal.Probe

/-!
# Color modes

The mode says whether lines are colored: always, never, or as the environment and then the terminal
have it.
-/

namespace MarkupLog

inductive ColorMode
  | auto
  | always
  | never
  deriving Repr, DecidableEq

namespace ColorMode

/-- All modes, in the order in which they are listed. -/
def all : List ColorMode := [.auto, .always, .never]

def name : ColorMode → String
  | .auto => "auto"
  | .always => "always"
  | .never => "never"

def named? (s : String) : Option ColorMode :=
  all.find? fun m => m.name = s

/-- The mode of a name, without regard to case and to blanks at its ends. -/
def ofName? (s : String) : Option ColorMode :=
  named? (Text.lower (Text.trim s))

/-- The decision about color. No mode at all means the same as `auto`. -/
def decide (mode : Option ColorMode) (env : Environment) (output : Terminal.Probe) :
    Except Terminal.ProbeFailure Bool :=
  match mode with
  | some .always => .ok true
  | some .never => .ok false
  | some .auto | none =>
    match env.colorPreference with
    | some choice => .ok choice
    | none => output.isTerminal

/-- The decision about color when it is known whether the output is a terminal. -/
def inColor (mode : ColorMode) (env : Environment) (terminal : Bool) : Bool :=
  match mode with
  | .always => true
  | .never => false
  | .auto => env.colorPreference.getD terminal

end ColorMode

end MarkupLog
