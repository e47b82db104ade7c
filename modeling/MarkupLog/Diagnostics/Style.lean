import MarkupLog.Diagnostics.Level
import MarkupLog.Terminal.Sequence
import MarkupLog.Text.Replace

/-!
# Styles of diagnostics

A whole record is styled by its level. A style is a pair of control sequences that switch it on and
off. It holds on every line of a text and survives sequences inside the text that would end it.
-/

namespace MarkupLog

structure Style where
  on : Nat
  off : Nat
  deriving Repr, DecidableEq

namespace Style

/-- The thresholds of the levels and their styles, from the most severe down. -/
def thresholds : List (Int × Style) :=
  [(Level.error, ⟨91, 39⟩), (Level.warning, ⟨33, 39⟩), (Level.info, ⟨32, 39⟩),
    (Level.debug, ⟨90, 39⟩), (Level.trace, ⟨34, 39⟩)]

def dim : Style := ⟨2, 22⟩

def ofLevel (level : Int) : Style :=
  ((thresholds.find? fun t => t.1 ≤ level).map Prod.snd).getD dim

def onText (s : Style) : List Char :=
  (Terminal.sequence s.on 'm').toList

def offText (s : Style) : List Char :=
  (Terminal.sequence s.off 'm').toList

/-- A text with sequences of its own, so that the style holds again after each that ends it. -/
def reopened (s : Style) (cs : List Char) : List Char :=
  Text.wrapStretches Terminal.reset.toList s.offText s.onText
    (Text.replaceAll s.offText (s.offText ++ s.onText) cs)

def apply (s : Style) (text : String) : String :=
  let cs := text.toList
  let cs := if cs.contains Terminal.escape then s.reopened cs else cs
  String.ofList (s.onText ++ Text.wrapLineEnds s.offText s.onText cs ++ s.offText)

end Style

end MarkupLog
