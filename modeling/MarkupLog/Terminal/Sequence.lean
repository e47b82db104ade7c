import MarkupLog.Color
import MarkupLog.Value

/-!
# Control sequences

The sequences that color text and move the cursor: the escape character, a bracket, a number where
there is one, and a letter.
-/

namespace MarkupLog.Terminal

def escape : Char := '\x1b'

def sequence (n : Nat) (letter : Char) : String :=
  String.ofList (escape :: '[' :: (Number.decimalText n ++ [letter]))

/-- The number that selects a color as the foreground: 30 to 37 for plain, 90 to 97 for bright
colors. -/
def colorCode (c : Color) : Nat :=
  (if c.bright then 90 else 30) + c.base.index

def foreground (c : Color) : String :=
  sequence (colorCode c) 'm'

/-- Selects the bold face, or leaves it. -/
def weight (bold : Bool) : String := sequence (if bold then 1 else 22) 'm'

def reset : String := sequence 0 'm'

def eraseLine : String := sequence 2 'K'

/-- Moves the cursor up; no text at all for a count that is not positive. -/
def cursorUp (lines : Int) : String :=
  if 0 < lines then sequence lines.toNat 'A' else ""

/-- Moves the cursor down; no text at all for a count that is not positive. -/
def cursorDown (lines : Int) : String :=
  if 0 < lines then sequence lines.toNat 'B' else ""

/-! ### Removal -/

def isParameter (c : Char) : Bool :=
  '0' ≤ c && c ≤ '?'

def isIntermediate (c : Char) : Bool :=
  ' ' ≤ c && c ≤ '/'

def isFinal (c : Char) : Bool :=
  '@' ≤ c && c ≤ '~'

/-- What follows a control sequence at the start of a text, if there is one. -/
def dropSequence : List Char → Option (List Char)
  | '\x1b' :: '[' :: rest =>
    match (rest.dropWhile isParameter).dropWhile isIntermediate with
    | [] => none
    | c :: more => if isFinal c then some more else none
  | _ => none

theorem length_dropWhile_le (p : Char → Bool) (cs : List Char) :
    (cs.dropWhile p).length ≤ cs.length :=
  (List.dropWhile_sublist p).length_le

theorem length_dropSequence {cs rest : List Char} (h : dropSequence cs = some rest) :
    rest.length < cs.length := by
  unfold dropSequence at h
  split at h
  · rename_i tail
    have h1 := length_dropWhile_le isParameter tail
    have h2 := length_dropWhile_le isIntermediate (tail.dropWhile isParameter)
    split at h
    · cases h
    · rename_i c more hc
      rw [hc] at h2
      split at h
      · cases h
        simp only [List.length_cons] at *
        omega
      · cases h
  · cases h

def visible (cs : List Char) : List Char :=
  match h : dropSequence cs with
  | some rest =>
    have := length_dropSequence h
    visible rest
  | none =>
    match cs with
    | [] => []
    | c :: rest => c :: visible rest
termination_by cs.length

def unstyled (s : String) : String :=
  String.ofList (visible s.toList)

end MarkupLog.Terminal
