import MarkupLog.Cli.Failure
import MarkupLog.Settings.ColorMode

/-!
# Choices of the command line

What the options for diagnostics and for color choose.
-/

namespace MarkupLog.Cli

def exclusiveError : ProgramError :=
  ⟨.usage, "The '--verbose' and '--quiet' options are mutually exclusive."⟩

/-- The level of diagnostics for how often more and less of them was asked for. -/
def diagnosticsLevel (verbose quiet : Int) : Except ProgramError Int :=
  if 0 < verbose ∧ 0 < quiet then .error exclusiveError
  else if 3 ≤ verbose then .ok Level.trace
  else if verbose = 2 then .ok Level.debug
  else if verbose = 1 then .ok Level.info
  else if 1 ≤ quiet then .ok Level.error
  else .ok Level.warning

/-- The color mode that replaces the one of the settings, if any does. Asking for no color comes
first. -/
def colorOverride (mode : Option ColorMode) (noColor : Bool) : Option ColorMode :=
  if noColor then some .never else mode

structure UnknownColorMode where
  name : String
  deriving Repr, DecidableEq

def UnknownColorMode.message (u : UnknownColorMode) : String :=
  Text.quoted u.name ++ " is not a valid ColorMode"

/-- The color mode that replaces the one of the settings, from its name. The name does not matter
when no color is asked for. -/
def colorChoice (name : Option String) (noColor : Bool) :
    Except UnknownColorMode (Option ColorMode) :=
  match noColor, name with
  | false, some s =>
    match ColorMode.named? s with
    | some mode => .ok (colorOverride (some mode) false)
    | none => .error ⟨s⟩
  | _, _ => .ok (colorOverride none noColor)

end MarkupLog.Cli
