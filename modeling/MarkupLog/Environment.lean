import MarkupLog.Diagnostics.Level
import MarkupLog.Entries
import MarkupLog.Text.Blank
import MarkupLog.Text.Case
import MarkupLog.Text.Digit
import MarkupLog.Text.Quoted

/-!
# The environment

What the variables of the environment say about color and about the level of diagnostics.
-/

namespace MarkupLog

/-- The variables that are set, with their values. -/
abbrev Environment := Entries String String

namespace Environment

def nonempty? (env : Environment) (name : String) : Option String :=
  (env.get? name).filter (· ≠ "")

/-- The choice of color: `FORCE_COLOR` asks for color unless it is empty or zero, and otherwise
`NO_COLOR` asks for none whenever it is set. -/
def colorPreference (env : Environment) : Option Bool :=
  if (env.nonempty? "FORCE_COLOR").any (· ≠ "0") then some true
  else if env.has "NO_COLOR" then some false
  else none

/-! ### The level of diagnostics -/

def levelVariable : String := "EMPHLOG_LOG_LEVEL"

inductive LevelError
  /-- A digit without a place value. -/
  | notDecimal (text : String)
  | tooLong (digits : Nat)
  deriving Repr, DecidableEq

def maxDigits : Nat := 4300

/-- The text of a level error. A long value is shown by its first two hundred characters. -/
def LevelError.message : LevelError → String
  | .notDecimal text =>
    "invalid literal for int() with base 10: "
      ++ String.ofList ((Text.quoted text).toList.take 200)
  | .tooLong digits =>
    "Exceeds the limit (" ++ toString maxDigits
      ++ " digits) for integer string conversion: value has " ++ toString digits
      ++ " digits; use sys.set_int_max_str_digits() to increase the limit"

def digitsLevel (text : String) : Except LevelError Int :=
  let cs := text.toList
  let run := cs.takeWhile fun c => (Text.digitValue? c).isSome
  if maxDigits < run.length then .error (.tooLong run.length)
  else
    match Text.decimalValue? cs with
    | some n => .ok n
    | none => .error (.notDecimal text)

/-- The level that a value denotes: digits are a number, a name is looked up without regard to case,
and anything else denotes none. -/
def levelOf (value : String) : Except LevelError (Option Int) :=
  let key := Text.upper (Text.trim value)
  if key ≠ "" ∧ key.toList.all Text.isDigit then (digitsLevel key).map some
  else .ok (Level.named? key)

def level (env : Environment) : Except LevelError (Option Int) :=
  levelOf ((env.get? levelVariable).getD "")

end Environment

end MarkupLog
