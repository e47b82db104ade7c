import MarkupLog.Text.Blank
import MarkupLog.Text.Case

/-!
# Colors

Sixteen colors: eight base colors, each plain or bright. A color has a name, and names are read
without regard to case, to blanks around them and to whether a dash or an underscore joins
`bright` to the base.
-/

namespace MarkupLog

/-- The eight base colors, in the order of their terminal index. -/
inductive BaseColor
  | black
  | red
  | green
  | yellow
  | blue
  | magenta
  | cyan
  | white
  deriving Repr, DecidableEq

namespace BaseColor

/-- All base colors, in the order of their index. -/
def all : List BaseColor :=
  [.black, .red, .green, .yellow, .blue, .magenta, .cyan, .white]

def index : BaseColor → Nat
  | .black => 0
  | .red => 1
  | .green => 2
  | .yellow => 3
  | .blue => 4
  | .magenta => 5
  | .cyan => 6
  | .white => 7

def name : BaseColor → String
  | .black => "black"
  | .red => "red"
  | .green => "green"
  | .yellow => "yellow"
  | .blue => "blue"
  | .magenta => "magenta"
  | .cyan => "cyan"
  | .white => "white"

def ofName? (s : String) : Option BaseColor :=
  all.find? fun b => b.name = s

theorem ofName?_name (b : BaseColor) : ofName? b.name = some b := by
  cases b <;> decide

theorem name_of_ofName? {s : String} {b : BaseColor} (h : ofName? s = some b) : b.name = s := by
  simpa using List.find?_some h

end BaseColor

/-- A base color, plain or bright. -/
structure Color where
  base : BaseColor
  bright : Bool := false
  deriving Repr, DecidableEq

namespace Color

def brightMark : String := "bright_"

def name (c : Color) : String :=
  if c.bright then brightMark ++ c.base.name else c.base.name

/-- A name as it is compared: without blanks at its ends, in lower case, with underscores for
dashes. -/
def normalName (s : String) : String :=
  String.ofList ((Text.lower (Text.trim s)).toList.map fun c => if c = '-' then '_' else c)

def ofNormalName? (s : String) : Option Color :=
  let mark := brightMark.toList
  if mark.isPrefixOf s.toList then
    (BaseColor.ofName? (String.ofList (s.toList.drop mark.length))).map fun b => ⟨b, true⟩
  else (BaseColor.ofName? s).map fun b => ⟨b, false⟩

def ofName? (s : String) : Option Color :=
  ofNormalName? (normalName s)

end Color

end MarkupLog
