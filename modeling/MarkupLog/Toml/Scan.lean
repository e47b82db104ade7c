/-!
# Scanning settings text

Settings are written in TOML. This module has what all parts of its reader share: the outcome of
reading, the classes of characters, and the stretches without meaning, which are blanks, line ends
and comments. A text has only line feeds for line ends.
-/

namespace MarkupLog.Toml

/-- Why reading stops: at a character that cannot stand there, with the text from it on, or because
what was read means nothing. -/
inductive Fault
  | unexpected (here : List Char)
  | malformed
  deriving Repr, DecidableEq

/-- The outcome of reading: what was read and the rest of the text. -/
abbrev Read (α : Type) := Except Fault (α × List Char)

def Read.map {α β : Type} (f : α → β) (r : Read α) : Read β :=
  Except.map (fun p => (f p.1, p.2)) r

/-! ### Characters -/

def isSpace (c : Char) : Bool :=
  c = ' ' || c = '\t'

/-- The control characters that may stand nowhere but, some of them, between values. -/
def isControl (c : Char) : Bool :=
  (c.toNat < 0x20 && c ≠ '\t') || c.toNat = 0x7F

def isBareKey (c : Char) : Bool :=
  c.isAlphanum || c = '-' || c = '_'

/-- The characters that end a number, a date or a time. -/
def endsScalar (c : Char) : Bool :=
  isSpace c || c = '\n' || c = '#' || c = ',' || c = ']' || c = '}'

/-! ### Stretches without meaning -/

def skipSpaces (cs : List Char) : List Char :=
  cs.dropWhile isSpace

/-- The text after blanks, line ends and comments at its start; within a comment to begin with, or
not. -/
def skipGap : Bool → List Char → Except Fault (List Char)
  | _, [] => .ok []
  | true, c :: cs =>
    if c = '\n' then skipGap false cs
    else if isControl c then .error .malformed
    else skipGap true cs
  | false, c :: cs =>
    if isSpace c || c = '\n' then skipGap false cs
    else if c = '#' then skipGap true cs
    else .ok (c :: cs)

/-- The text after the rest of a line that may hold a comment and nothing else. -/
def finishLine (cs : List Char) : Except Fault (List Char) :=
  match skipSpaces cs with
  | [] => .ok []
  | '#' :: more =>
    if (more.takeWhile (· ≠ '\n')).any isControl then .error .malformed
    else .ok ((more.dropWhile (· ≠ '\n')).drop 1)
  | c :: more => if c = '\n' then .ok more else .error (.unexpected (c :: more))

end MarkupLog.Toml
