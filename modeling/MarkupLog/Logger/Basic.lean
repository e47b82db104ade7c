import MarkupLog.Logger.Progress
import MarkupLog.Markup.Line
import MarkupLog.Markup.Marker
import MarkupLog.Settings.Basic
import MarkupLog.Sink
import MarkupLog.Template.Message
import MarkupLog.Verbosity

/-!
# Loggers

A logger turns messages into lines. A debug line shows its message as it is; an info, warning or
error line shows the markup of its message in the color of its kind, or without color when the sink
is in debug mode. Progress is written to a stream of its own. What a call does depends only on the
logger, on what it sees of its sink, and on the progress display of the calling thread.
-/

namespace MarkupLog

structure Logger where
  useColor : Bool := true
  batchMode : Bool := false
  lead : String := Program.defaultLead
  palette : Palette := {}
  verbosity : Verbosity := .everything
  deriving Repr, DecidableEq

structure Message where
  template : String
  args : List Value := []

inductive Call
  | debug (m : Message)
  | info (m : Message)
  | warn (m : Message)
  | error (m : Message)
  /-- The line of an error, without writing it. -/
  | errorLine (m : Message)
  | verbose (category : String) (m : Message)
  | isDebugEnabled
  | isVerboseEnabled (category : Option String)
  | isColorActive
  | progressStart
  | progressUpdate (item status : String) (message : Option String)
  | progressFinish

inductive Reply
  | nothing
  | flag (b : Bool)
  | line (s : String)
  deriving Repr, DecidableEq

/-- What a call does: its reply or fault, the questions for the sink and the lines for it, the text
and the number of flushes on the progress stream, the display it leaves, and the records it
notes. -/
structure Outcome where
  reply : Except Template.Fault Reply := .ok .nothing
  asked : List Question := []
  lines : List (Channel × String) := []
  written : String := ""
  flushes : Nat := 0
  progress : Progress
  records : List Record := []

namespace Logger

structure Setup where
  useColor : Bool := true
  verbose : Option String := none
  batchMode : Bool := false
  lead : String := Program.defaultLead
  palette : Palette := {}

/-- The setup that settings ask for, once it is decided whether to use color. -/
def Setup.ofSettings (s : Settings) (useColor : Bool) : Setup :=
  { useColor
    verbose := s.verbose
    batchMode := s.batchMode
    lead := s.lead
    palette := s.palette }

/-- A new logger, with the warnings that it writes at once. -/
def build (s : Setup) : Logger × Outcome :=
  let (verbosity, warnings) := Verbosity.read s.verbose
  ({ useColor := s.useColor
     batchMode := s.batchMode
     lead := s.lead
     palette := s.palette
     verbosity },
   { lines := warnings.map fun w => (.warn, w)
     progress := {}
     records := verbosity.records })

def inColor (l : Logger) (view : SinkView) : Bool :=
  l.useColor && !view.debugMode

/-- The questions behind `inColor`. -/
def colorQuestions (l : Logger) : List Question :=
  if l.useColor then [.debugMode] else []

def coloredLine (l : Logger) (view : SinkView) (base : Color) (text : String) : String :=
  Markup.line (Markup.parse l.palette.emphasis text) l.lead (l.inColor view) base

def withText (p : Progress) (m : Message) (use : String → Outcome) : Outcome :=
  let text := Template.formatMessage m.template m.args
  match text.value with
  | .error f => { reply := .error f, progress := p, records := text.records }
  | .ok t => { use t with records := text.records }

/-- Writes the line of a message to a channel in the color of its kind. -/
def emit (l : Logger) (view : SinkView) (p : Progress) (channel : Channel) (base : Color)
    (m : Message) : Outcome :=
  withText p m fun text =>
    { asked := l.colorQuestions
      lines := [(channel, l.coloredLine view base text)]
      progress := p }

def showsProgress (l : Logger) (view : SinkView) : Bool :=
  !l.batchMode && view.infoEnabled

/-- The questions behind `showsProgress`. -/
def progressQuestions (l : Logger) : List Question :=
  if l.batchMode then [] else [.infoEnabled]

def update (l : Logger) (view : SinkView) (p : Progress) (item status : String)
    (message : Option String) : Outcome :=
  if item = "" then { progress := p }
  else if l.showsProgress view = false then { asked := l.progressQuestions, progress := p }
  else if l.inColor view then
    { asked := l.progressQuestions ++ l.colorQuestions
      written := p.coloredText l.palette item status (message.getD "")
      flushes := 1
      progress := p.withItem item }
  else
    { asked := l.progressQuestions ++ l.colorQuestions
      written := Progress.plainText p.updates
      flushes := 1
      progress := { p with updates := p.updates + 1 } }

def finish (l : Logger) (view : SinkView) (p : Progress) : Outcome :=
  if l.showsProgress view then
    { asked := l.progressQuestions ++ l.colorQuestions
      written := Progress.finishText (l.inColor view)
      flushes := 1
      progress := p.finish }
  else { asked := l.progressQuestions, progress := p }

def call (l : Logger) (view : SinkView) (p : Progress) : Call → Outcome
  | .debug m => withText p m fun text => { lines := [(.debug, l.lead ++ text)], progress := p }
  | .info m => l.emit view p .info l.palette.info m
  | .warn m => l.emit view p .warn l.palette.warn m
  | .error m => l.emit view p .error l.palette.error m
  | .errorLine m =>
    withText p m fun text =>
      { reply := .ok (.line (l.coloredLine view l.palette.error text))
        asked := l.colorQuestions
        progress := p }
  | .verbose category m =>
    if l.verbosity.showsNamed category then l.emit view p .info l.palette.info m
    else { progress := p }
  | .isDebugEnabled =>
    { reply := .ok (.flag view.debugMode), asked := [.debugMode], progress := p }
  | .isVerboseEnabled none => { reply := .ok (.flag l.verbosity.showsAny), progress := p }
  | .isVerboseEnabled (some category) =>
    { reply := .ok (.flag (l.verbosity.showsNamed category)), progress := p }
  | .isColorActive =>
    { reply := .ok (.flag (l.inColor view)), asked := l.colorQuestions, progress := p }
  | .progressStart =>
    { asked := l.progressQuestions, progress := if l.showsProgress view then p.start else p }
  | .progressUpdate item status message => l.update view p item status message
  | .progressFinish => l.finish view p

end Logger

end MarkupLog
