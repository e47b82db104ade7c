import MarkupLog.Cli.Options
import MarkupLog.Cli.Screen
import MarkupLog.Console
import MarkupLog.Environment
import MarkupLog.Template.Filling
import MarkupLog.Terminal.Probe
import MarkupLog.Text.Quoted
import MarkupLog.Text.Utf8

/-!
# How a run can fail

A run ends with an exit code. Wrong usage is explained with a hint to the help screen; an error of
the program has one line; a failure that the program does not handle has no explanation of its own.
-/

namespace MarkupLog.Cli

inductive ExitCode
  | success
  | failure
  | misuse
  | usage
  | config
  deriving Repr, DecidableEq

def ExitCode.number : ExitCode → Nat
  | .success => 0
  | .failure => 1
  | .misuse => 2
  | .usage => 64
  | .config => 78

/-! ### Wrong usage -/

inductive UsageFault
  | wrongOption (fault : OptionFault)
  | unknownCommand (name : String)
  | missingOperand (name : String)
  | extraOperands (words : List String)
  | notAmong (option value : String) (choices : List String)
  | missingFile (option path : String)
  | isDirectory (option path : String)
  | unreadableFile (option path : String)
  deriving Repr, DecidableEq

namespace UsageFault

def aboutValue (option text : String) : String :=
  "Invalid value for '" ++ option ++ "': " ++ text

def message : UsageFault → String
  | .wrongOption (.unknown name) => "No such option " ++ Text.quoted name ++ "."
  | .wrongOption (.needsValue name) => "Option " ++ Text.quoted name ++ " requires an argument."
  | .wrongOption (.takesNoValue name) => "Option " ++ Text.quoted name ++ " does not take a value."
  | .unknownCommand name => "No such command " ++ Text.quoted name ++ "."
  | .missingOperand name => "Missing argument '" ++ name ++ "'."
  | .extraOperands words =>
    "Got unexpected extra argument" ++ (if words.length = 1 then "" else "s") ++ " ("
      ++ Text.join " " words ++ ")"
  | .notAmong option value choices =>
    aboutValue option
      (Text.quoted value ++ " is not one of " ++ Text.join ", " (choices.map Text.quoted) ++ ".")
  | .missingFile option path =>
    aboutValue option ("File " ++ Text.quoted path ++ " does not exist.")
  | .isDirectory option path =>
    aboutValue option ("File " ++ Text.quoted path ++ " is a directory.")
  | .unreadableFile option path =>
    aboutValue option ("File " ++ Text.quoted path ++ " is not readable.")

/-- The test whether a fault is explained with a hint to a screen. A value that is missing or one
too many is not. -/
def hasHint : UsageFault → Bool
  | .wrongOption (.needsValue _) | .wrongOption (.takesNoValue _) => false
  | _ => true

/-- What is written about a fault in the usage that a screen describes. -/
def text (f : UsageFault) (screen : Screen) : String :=
  (if f.hasHint then screen.usage ++ "\n" ++ screen.hint ++ "\n\n" else "")
    ++ "Error: " ++ f.message ++ "\n"

end UsageFault

/-! ### Errors of the program -/

inductive ErrorKind
  | failure
  | usage
  | config
  deriving Repr, DecidableEq

def ErrorKind.exitCode : ErrorKind → ExitCode
  | .failure => .failure
  | .usage => .usage
  | .config => .config

structure ProgramError where
  kind : ErrorKind
  message : String
  deriving Repr, DecidableEq

namespace ProgramError

def line (e : ProgramError) : String :=
  "Error: " ++ e.message

/-- The text about an error without a console, which is never in color. -/
def plainText (e : ProgramError) : String :=
  (Console.mk false).written e.line

def consoleText (e : ProgramError) (c : Console) : String :=
  c.written (c.styled (some ⟨.red, true⟩) none e.line)

end ProgramError

/-! ### The end of a run -/

inductive Unhandled
  | undecodable (fault : Utf8.Fault)
  | level (error : Environment.LevelError)
  | message (fault : Template.Fault)
  | probe (failure : Terminal.ProbeFailure)

def Unhandled.text : Unhandled → String
  | .undecodable fault => fault.message
  | .level e => e.message
  | .message fault => fault.message
  | .probe failure => failure.reason

inductive Ending
  | exit (code : ExitCode)
  | unhandled (failure : Unhandled)

def Ending.exitCode : Ending → ExitCode
  | .exit code => code
  | .unhandled _ => .failure

end MarkupLog.Cli
