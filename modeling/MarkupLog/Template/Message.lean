import MarkupLog.Diagnostics.Level
import MarkupLog.Diagnostics.Record
import MarkupLog.Template.Filling

/-!
# Messages

A message is a template filled with arguments, however badly they fit. Surplus arguments are left
out: the longest prefix of the arguments that fills the template decides. If there is none, the
first fault is noted and the arguments are appended to the template. There is no message if an
attempt meets a number out of range, or if an argument that must be appended has no text.
-/

namespace MarkupLog.Template

def Fault.recoverable (f : Fault) : Bool :=
  f.kind ≠ .overflow

/-- The text from the longest prefix with fewer than `n` arguments that fills the template. -/
def fillShorter (template : String) (args : List Value) : Nat → Except Fault (Option String)
  | 0 => .ok none
  | n + 1 =>
    match fill template (args.take n) with
    | .ok text => .ok (some text)
    | .error f => if f.recoverable then fillShorter template args n else .error f

/-- The template and the plain texts of its arguments side by side. -/
def appended (template : String) (args : List Value) : Except Fault String :=
  match args.mapM Value.text? with
  | some texts => .ok (Text.join " " (template :: texts))
  | none => .error .integerTooLong

/-- The record about a template that no prefix of its arguments fills. -/
def failureRecord (template : String) (args : List Value) (f : Fault) : Record :=
  { level := Level.debug
    logger := "emphlog.logger"
    message := "Cannot format " ++ Text.quoted template ++ " with " ++ toString args.length
      ++ " argument(s): " ++ f.message }

/-- The text of a message. Without arguments the template stands for itself. -/
def formatMessage (template : String) (args : List Value) : Noted (Except Fault String) :=
  if args.isEmpty then pure (.ok template)
  else
    match fill template args with
    | .ok text => pure (.ok text)
    | .error first =>
      if !first.recoverable then pure (.error first)
      else
        match fillShorter template args args.length with
        | .error f => pure (.error f)
        | .ok (some text) => pure (.ok text)
        | .ok none => do
          Noted.note (failureRecord template args first)
          return appended template args

end MarkupLog.Template
