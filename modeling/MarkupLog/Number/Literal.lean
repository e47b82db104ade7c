import MarkupLog.Number.Binary64

/-!
# Number literals

Reading numbers: digits in any base up to sixteen, and floating-point numbers as a sign, digits, a
fraction and a power of ten, or one of the words for infinity and for no number.
-/

namespace MarkupLog.Number

def digitIn? (base : Nat) (c : Char) : Option Nat :=
  let value? :=
    if c.isDigit then some (c.toNat - 48)
    else if 'a' ≤ c ∧ c ≤ 'f' then some (c.toNat - 87)
    else if 'A' ≤ c ∧ c ≤ 'F' then some (c.toNat - 55)
    else none
  value?.filter (· < base)

/-- The number that digits write in a base; `none` if there is none or one is no digit. -/
def ofDigits? (base : Nat) (cs : List Char) : Option Nat :=
  if cs.isEmpty then none
  else cs.foldl (fun acc c => acc.bind fun n => (digitIn? base c).map (base * n + ·)) (some 0)

/-- A sign, if there is one: whether it is a minus, and the rest. -/
def splitSign : List Char → Bool × List Char
  | '-' :: rest => (true, rest)
  | '+' :: rest => (false, rest)
  | cs => (false, cs)

/-- An exponent after its mark: a sign and digits. -/
def exponent? (cs : List Char) : Option Int :=
  let (negative, digits) := splitSign cs
  (ofDigits? 10 digits).map fun n => if negative then -(n : Int) else n

def isExponentMark (c : Char) : Bool :=
  c = 'e' || c = 'E'

def infinityWords : List (List Char) :=
  [['i', 'n', 'f'], ['i', 'n', 'f', 'i', 'n', 'i', 't', 'y']]

/-- A floating-point number: digits before or after a point, and perhaps an exponent. -/
def Binary64.ofText? (text : String) : Option Binary64 :=
  let (negative, cs) := splitSign text.toList
  if cs ∈ infinityWords then some (.infinite negative)
  else if cs = ['n', 'a', 'n'] then some .nan
  else
    let mantissa := cs.takeWhile fun c => !isExponentMark c
    let power := cs.dropWhile fun c => !isExponentMark c
    let whole := mantissa.takeWhile (· ≠ '.')
    let fraction := (mantissa.dropWhile (· ≠ '.')).drop 1
    match ofDigits? 10 (whole ++ fraction),
        (if power.isEmpty then some 0 else exponent? (power.drop 1)) with
    | some digits, some e => some (ofDecimal negative digits (e - fraction.length))
    | _, _ => none

end MarkupLog.Number
