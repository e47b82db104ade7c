import MarkupLog.Text.Range

/-!
# Blanks

The white space of Unicode, and texts with it removed at both ends. A zero-width space and a byte
order mark are not blank.
-/

namespace MarkupLog.Text

/-- The white space characters of Unicode together with the four ASCII separators U+001C to
U+001F. -/
def blanks : Ranges :=
  [(0x9, 0xD), (0x1C, 0x20), (0x85, 0x85), (0xA0, 0xA0), (0x1680, 0x1680), (0x2000, 0x200A),
    (0x2028, 0x2029), (0x202F, 0x202F), (0x205F, 0x205F), (0x3000, 0x3000)]

def isBlank (c : Char) : Bool :=
  blanks.has c.toNat

/-- The characters that remain when the blanks at both ends are removed. -/
def trimmed (cs : List Char) : List Char :=
  ((cs.dropWhile isBlank).reverse.dropWhile isBlank).reverse

def trim (s : String) : String :=
  String.ofList (trimmed s.toList)

end MarkupLog.Text
