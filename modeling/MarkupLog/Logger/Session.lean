import MarkupLog.Logger.Basic

/-!
# Sessions

A session is a logger at work: its sink, which may be changed at any time, and one progress display
for each thread. Threads share the logger and the sink and nothing else.
-/

namespace MarkupLog

inductive Thread
  | main
  | named (name : String)
  deriving Repr, DecidableEq

/-- A logger with its sink and the progress displays of its threads. -/
structure Session where
  logger : Logger
  sink : Sink
  displays : Entries Thread Progress := []

inductive Action
  | call (thread : Thread) (c : Call)
  | setSink (sink : Sink)

structure Effect where
  reply : Except Template.Fault Reply := .ok .nothing
  deliveries : List Delivery := []
  written : String := ""
  flushes : Nat := 0
  records : List Record := []

namespace Session

def display (s : Session) (t : Thread) : Progress :=
  (s.displays.get? t).getD {}

def effectOf (sink : Sink) (o : Outcome) : Effect :=
  { reply := o.reply
    deliveries := o.lines.flatMap fun (channel, line) => sink.deliver channel line
    written := o.written
    flushes := o.flushes
    records := o.records }

def settled (sink : Sink) (o : Outcome) : Sink :=
  (o.asked.map Question.level ++ o.lines.map fun l => l.1.level).foldl
    (fun s level => s.settle level) sink

theorem view_settled (sink : Sink) (o : Outcome) : (settled sink o).view = sink.view := by
  unfold settled
  generalize o.asked.map Question.level ++ o.lines.map (fun l => l.1.level) = levels
  induction levels generalizing sink with
  | nil => rfl
  | cons level rest ih => rw [List.foldl_cons, ih, Sink.view_settle]

/-- A new session, with the effect of building its logger. -/
def start (setup : Logger.Setup) (sink : Sink) : Session × Effect :=
  let (logger, outcome) := Logger.build setup
  ({ logger, sink := settled sink outcome }, effectOf sink outcome)

def step (s : Session) : Action → Session × Effect
  | .setSink sink => ({ s with sink }, {})
  | .call thread c =>
    let outcome := s.logger.call s.sink.view (s.display thread) c
    ({ s with
        sink := settled s.sink outcome
        displays := s.displays.put thread outcome.progress },
      effectOf s.sink outcome)

/-- Two effects as one: the reply is the later one. -/
def andThen (a b : Effect) : Effect :=
  { reply := b.reply
    deliveries := a.deliveries ++ b.deliveries
    written := a.written ++ b.written
    flushes := a.flushes + b.flushes
    records := a.records ++ b.records }

/-- The actions in turn, up to the first that fails, with their joint effect. -/
def run (s : Session) (seen : Effect) : List Action → Session × Effect
  | [] => (s, seen)
  | a :: rest =>
    let (s, effect) := s.step a
    let seen := andThen seen effect
    match effect.reply with
    | .error _ => (s, seen)
    | .ok _ => run s seen rest

end Session

end MarkupLog
