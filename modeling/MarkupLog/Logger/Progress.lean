import MarkupLog.Entries
import MarkupLog.Palette
import MarkupLog.Terminal.Sequence
import MarkupLog.Text.Split

/-!
# Progress displays

In color, each item of a progress display owns one line below the cursor's first position, numbered
in the order of first updates; an update goes up to the line of its item, erases and writes it, and
goes back to the bottom. Without color, every tenth update shows a mark, and every four hundredth
ends a line.
-/

namespace MarkupLog

/-- The lines that items own, and the number of updates without color. -/
structure Progress where
  lines : Entries String Nat := []
  updates : Nat := 0
  deriving Repr, DecidableEq

namespace Progress

def statusWidth : Nat := 11

def row (palette : Palette) (item status message : String) : String :=
  Terminal.foreground palette.progressId ++ item ++ Terminal.reset ++ ": "
    ++ Terminal.foreground palette.progressStatus ++ Text.padRight statusWidth status ++ " "
    ++ Terminal.foreground palette.progressBar ++ message ++ "\n"

/-- How far above the bottom the line of an item is; zero for an item without one. -/
def distance (p : Progress) (item : String) : Int :=
  match p.lines.get? item with
  | none => 0
  | some line => (p.lines.length : Int) - line

def withItem (p : Progress) (item : String) : Progress :=
  match p.lines.get? item with
  | none => { p with lines := p.lines.put item p.lines.length }
  | some _ => p

def coloredText (p : Progress) (palette : Palette) (item status message : String) : String :=
  let up := p.distance item
  if 0 < up then
    Terminal.cursorUp up ++ Terminal.eraseLine ++ row palette item status message
      ++ Terminal.cursorDown (up - 1)
  else row palette item status message

/-- The text of an update without color, after `n` earlier ones. -/
def plainText (n : Nat) : String :=
  (if n % 10 = 0 then "#" else "") ++ (if n % 400 = 0 then "\n" else "")

def start (_ : Progress) : Progress := {}

def finish (p : Progress) : Progress := { p with lines := [] }

def finishText (inColor : Bool) : String :=
  Terminal.reset ++ (if inColor then "" else "\n")

end Progress

end MarkupLog
