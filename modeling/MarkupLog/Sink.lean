import MarkupLog.Console
import MarkupLog.Diagnostics.Level
import MarkupLog.Entries

/-!
# Sinks

A sink takes finished lines on four channels. A logger asks of it only whether it is in debug mode
and whether it shows info lines; where a line ends up is the sink's own affair.

A host logger settles the question whether it shows a level when it is first asked. A host that is
registered, or is the root of the registry, forgets its answers when its level is set: it is then a
host of the new threshold that has not been asked. A host that was made apart from the registry keeps
to them whatever its threshold becomes.
-/

namespace MarkupLog

inductive Channel
  | debug
  | info
  | warn
  | error
  deriving Repr, DecidableEq

namespace Channel

/-- All channels, from the least to the most severe. -/
def all : List Channel := [.debug, .info, .warn, .error]

def name : Channel → String
  | .debug => "debug"
  | .info => "info"
  | .warn => "warn"
  | .error => "error"

def ofName? (s : String) : Option Channel :=
  all.find? fun c => c.name = s

/-- The level at which a host logger files the lines of a channel. -/
def level : Channel → Int
  | .debug => Level.debug
  | .info => Level.info
  | .warn => Level.warning
  | .error => Level.error

end Channel

inductive Question
  | debugMode
  | infoEnabled
  deriving Repr, DecidableEq

/-- The level that a question is about when a host logger is asked. -/
def Question.level : Question → Int
  | .debugMode => Level.debug
  | .infoEnabled => Level.info

structure SinkView where
  debugMode : Bool
  infoEnabled : Bool
  deriving Repr, DecidableEq

/-- A host logger: its threshold, and the levels about which it has been asked, with its answers. These
may be older than the threshold if the host is not registered. -/
structure Host where
  threshold : Int
  settled : Entries Int Bool := []
  deriving Repr, DecidableEq

namespace Host

def shows (h : Host) (level : Int) : Bool :=
  (h.settled.get? level).getD (h.threshold ≤ level)

def settle (h : Host) (level : Int) : Host :=
  { h with settled := h.settled.put level (h.shows level) }

theorem shows_settle (h : Host) (level other : Int) :
    (h.settle level).shows other = h.shows other := by
  unfold settle shows
  rw [Entries.get?_put]
  by_cases e : level = other
  · subst e; simp
  · simp [e]

end Host

/-- The sinks: a record of all lines, a host logger, and a console. -/
inductive Sink
  | recording (debugMode infoEnabled : Bool)
  | host (h : Host)
  | console (debugMode : Bool) (c : Console)
  deriving Repr, DecidableEq

inductive Delivery
  | recorded (channel : Channel) (line : String)
  | filed (level : Int) (line : String)
  | printed (stream : Stream) (text : String)
  deriving Repr, DecidableEq

namespace Sink

/-- What a logger sees of the sink. A host logger is in debug mode when it shows debug records. -/
def view : Sink → SinkView
  | .recording debugMode infoEnabled => ⟨debugMode, infoEnabled⟩
  | .host h => ⟨h.shows Question.debugMode.level, h.shows Question.infoEnabled.level⟩
  | .console debugMode _ => ⟨debugMode, true⟩

/-- The sink after it was asked about a level, which only a host logger remembers. -/
def settle (level : Int) : Sink → Sink
  | .host h => .host (h.settle level)
  | s => s

def streamOf : Channel → Stream
  | .debug | .info => .stdout
  | .warn | .error => .stderr

/-- What a sink does with a line: a host logger drops what it does not show, and a console shows
debug lines in debug mode only. -/
def deliver : Sink → Channel → String → List Delivery
  | .recording _ _, channel, line => [.recorded channel line]
  | .host h, channel, line =>
    if h.shows channel.level then [.filed channel.level line] else []
  | .console debugMode c, channel, line =>
    if channel = .debug ∧ debugMode = false then []
    else [.printed (streamOf channel) (c.written line)]

theorem view_settle (level : Int) (s : Sink) : (s.settle level).view = s.view := by
  cases s <;> simp [settle, view, Host.shows_settle]

theorem deliver_settle (level : Int) (s : Sink) (channel : Channel) (line : String) :
    (s.settle level).deliver channel line = s.deliver channel line := by
  cases s <;> simp [settle, deliver, Host.shows_settle]

end Sink

end MarkupLog
