import MarkupLog.Terminal.Sequence

/-!
# Consoles

A console writes the program's output to the two standard streams. Without color it removes every
control sequence from what it writes, wherever it came from.
-/

namespace MarkupLog

inductive Stream
  | stdout
  | stderr
  deriving Repr, DecidableEq

/-- A console, with or without color. -/
structure Console where
  color : Bool
  deriving Repr, DecidableEq

namespace Console

def written (c : Console) (text : String) (newline : Bool := true) : String :=
  let whole := if newline then text ++ "\n" else text
  if c.color then whole else Terminal.unstyled whole

/-- A text with a foreground color and a weight, as far as they are chosen, where the console has
color. -/
def styled (c : Console) (foreground : Option Color) (bold : Option Bool) (text : String) : String :=
  if c.color then
    (foreground.map Terminal.foreground).getD "" ++ (bold.map Terminal.weight).getD "" ++ text
      ++ Terminal.reset
  else text

end Console

end MarkupLog
