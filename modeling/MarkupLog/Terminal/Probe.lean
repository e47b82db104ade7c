/-!
# Asking a stream for its terminal

Whether output goes to a terminal is asked of the output stream. A stream that cannot answer, because
it is closed, knows no such question or fails on its device, is no terminal; any other failure is
passed on.
-/

namespace MarkupLog.Terminal

/-- What a stream does when it is asked whether it is a terminal. -/
inductive Probe
  | answers (terminal : Bool)
  | closed
  | unsupported
  | deviceError
  | breaks (reason : String)
  deriving Repr, DecidableEq

structure ProbeFailure where
  reason : String
  deriving Repr, DecidableEq

def Probe.isTerminal : Probe → Except ProbeFailure Bool
  | .answers terminal => .ok terminal
  | .closed | .unsupported | .deviceError => .ok false
  | .breaks reason => .error ⟨reason⟩

end MarkupLog.Terminal
