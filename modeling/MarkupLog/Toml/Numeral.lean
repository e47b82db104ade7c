import MarkupLog.Environment
import MarkupLog.Number.Literal
import MarkupLog.Text.Blank
import MarkupLog.Text.Digit
import MarkupLog.Value

/-!
# Numbers

Integers in four bases and floating-point numbers. Underscores may stand between digits, and zeros
may not stand before them.
-/

namespace MarkupLog.Toml

open Number (Binary64)

/-- The notation of a number: its base, and what marks it. -/
structure Radix where
  base : Nat
  mark : List Char
  deriving Repr, DecidableEq

def Radix.marked : List Radix :=
  [⟨2, ['0', 'b']⟩, ⟨8, ['0', 'o']⟩, ⟨16, ['0', 'x']⟩]

def Radix.decimal : Radix := ⟨10, []⟩

def Radix.of (cs : List Char) : Radix :=
  (Radix.marked.find? fun r => r.mark.isPrefixOf cs).getD Radix.decimal

/-- The test for a digit in a notation; a decimal fraction or power counts digit by digit. -/
def Radix.hasDigit (r : Radix) (c : Char) : Bool :=
  (Number.digitIn? r.base c).isSome

/-- The characters without the underscores between digits; `none` if there is another underscore.
The flag says whether a digit comes before. -/
def dropUnderscores (isDigit : Char → Bool) : Bool → List Char → Option (List Char)
  | _, [] => some []
  | behindDigit, c :: cs =>
    if c = '_' then
      if behindDigit && (cs.head?.map isDigit).getD false then dropUnderscores isDigit false cs
      else none
    else (dropUnderscores isDigit (isDigit c) cs).map (c :: ·)

def asciiDigit (c : Char) : Char :=
  match Text.digitValue? c with
  | some d => Char.ofNat (0x30 + d)
  | none => c

/-- The test for zeros that may not stand where they do, and for a point without digits before it
but behind a sign. -/
def hasBadStart (signed : Bool) (cs : List Char) : Bool :=
  match cs with
  | '0' :: c :: _ => c ≠ '.' && c ≠ 'o' && c ≠ 'x' && c ≠ 'b' && c ≠ 'e'
  | '.' :: _ :: _ => signed
  | _ => false

def hasBarePoint (cs : List Char) : Bool :=
  (cs.takeWhile (· ≠ 'e')).getLast? = some '.' || cs.getLast? = some '.'

/-- The integer that digits write. More decimal digits than a number may have make none. -/
def integer? (negative : Bool) (radix : Radix) (cs : List Char) : Option Value :=
  let digits := cs.drop radix.mark.length
  if radix.base = 10 ∧ Environment.maxDigits < digits.length then none
  else (Number.ofDigits? radix.base digits).map fun n => .int (if negative then -(n : Int) else n)

/-- The number that characters write: an integer if it can be one, else a floating-point number. -/
def number? (cs : List Char) : Option Value := do
  let (negative, unsigned) := Number.splitSign cs
  let signed := unsigned.length < cs.length
  let radix := Radix.of unsigned
  let text ← dropUnderscores radix.hasDigit false unsigned
  let digits := (text.map fun c => asciiDigit c.toLower).reverse.dropWhile Text.isBlank |>.reverse
  if hasBadStart signed unsigned || (signed && radix.base ≠ 10)
      || (radix.base ≠ 16 && hasBarePoint (text.map Char.toLower)) then none
  else
    match integer? negative radix digits with
    | some v => some v
    | none =>
      (Binary64.ofText? (String.ofList (if negative then '-' :: digits else digits))).map .float

end MarkupLog.Toml
