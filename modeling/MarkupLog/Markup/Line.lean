import MarkupLog.Markup.Segment
import MarkupLog.Terminal.Sequence

/-!
# Lines

Segments are written as one line after a lead text. In color, the line starts in its base color,
changes color only where the next characters need another one, and ends with a reset. Without color
only the texts remain.
-/

namespace MarkupLog.Markup

/-- The segments in color, on a terminal whose foreground is `current`, up to the final reset. -/
def colored (base current : Color) : List Segment → String
  | [] => Terminal.reset
  | s :: rest =>
    let wanted := s.color.getD base
    (if wanted = current then "" else Terminal.foreground wanted) ++ s.text
      ++ colored base wanted rest

def line (segments : List Segment) (lead : String) (inColor : Bool) (base : Color) : String :=
  let parts := Segment.merge segments
  if inColor then Terminal.foreground base ++ lead ++ colored base base parts
  else lead ++ Segment.plainText parts

end MarkupLog.Markup
