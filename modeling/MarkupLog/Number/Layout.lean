import MarkupLog.Number.Shortest

/-!
# Layouts of floating-point numbers

The four ways to write a number: positional with a fixed number of places, scientific, general
(the shorter of the two for a number of significant digits) and the default text, which has the
fewest digits that read back. The first three round the exact value, ties to even.
-/

namespace MarkupLog.Number

/-! ### Parts -/

/-- A fraction with its point; an empty one keeps the point only where asked to. -/
def fractionPart (keepPoint : Bool) (fraction : List Char) : List Char :=
  if fraction.isEmpty && !keepPoint then [] else '.' :: fraction

/-- A power of ten: mark, sign, and at least two digits. -/
def exponentPart (mark : Char) (e : Int) : List Char :=
  let digits := decimalText e.natAbs
  mark :: (if e < 0 then '-' else '+') :: (List.replicate (2 - digits.length) '0' ++ digits)

/-- The digits before and after the point in positional notation. -/
def Decimal.positional (d : Decimal) : List Char × List Char :=
  if d.point ≤ 0 then (['0'], List.replicate (-d.point).toNat '0' ++ d.digits)
  else
    let n := d.point.toNat
    (d.digits.take n ++ List.replicate (n - d.digits.length) '0', d.digits.drop n)

/-- The digits in scientific notation: one digit, the fraction, the power of ten. -/
def Decimal.scientific (mark : Char) (keepPoint : Bool) (d : Decimal) : List Char :=
  d.digits.take 1 ++ fractionPart keepPoint (d.digits.drop 1) ++ exponentPart mark (d.point - 1)

/-! ### Rounding to digits -/

/-- A finite number rounded to `count` significant digits, `count` being positive. -/
def significantDigits (count : Nat) (mantissa : Nat) (exponent : Int) : Decimal :=
  if mantissa = 0 then ⟨List.replicate count '0', 1⟩
  else
    let (num, den) := Binary64.ratio mantissa exponent
    let point := pointOf num den
    let (num, den) := scaled num den ((count : Int) - point)
    let digits := decimalText (roundHalfEven num den)
    ⟨digits.take count, point + ((digits.length - count : Nat) : Int)⟩

/-- A finite number rounded to `places` digits after the point. -/
def fixedLayout (keepPoint : Bool) (places : Nat) (mantissa : Nat) (exponent : Int) : List Char :=
  let (num, den) := Binary64.ratio mantissa exponent
  let digits := decimalText (roundHalfEven (num * Nat.pow 10 places) den)
  let digits := List.replicate (places + 1 - digits.length) '0' ++ digits
  let whole := digits.length - places
  digits.take whole ++ fractionPart keepPoint (digits.drop whole)

/-- A finite number with one digit before and `places` digits after the point. -/
def scientificLayout (mark : Char) (keepPoint : Bool) (places : Nat) (mantissa : Nat)
    (exponent : Int) : List Char :=
  (significantDigits (places + 1) mantissa exponent).scientific mark keepPoint

/-- A finite number with `count` significant digits, positional when its power of ten is at least
-4 and below `count`. Zeros at the end of the fraction are dropped unless `full` is set. -/
def generalLayout (mark : Char) (full : Bool) (count : Nat) (mantissa : Nat) (exponent : Int) :
    List Char :=
  let count := max count 1
  let d := significantDigits count mantissa exponent
  if -4 ≤ d.point - 1 ∧ d.point - 1 < count then
    let (whole, fraction) := d.positional
    whole ++ fractionPart full (if full then fraction else significant fraction)
  else if full then d.scientific mark true
  else
    Decimal.scientific mark false ⟨d.digits.take 1 ++ significant (d.digits.drop 1), d.point⟩

/-! ### Default text -/

/-- The default text of the absolute value: the fewest digits that read back, positional when the
power of ten is at least -4 and below 16, and then with at least one place. -/
def defaultLayout (mantissa : Nat) (exponent : Int) : List Char :=
  let d := shortest mantissa exponent
  if -4 ≤ d.point - 1 ∧ d.point - 1 < 16 then
    let (whole, fraction) := d.positional
    whole ++ '.' :: (if fraction.isEmpty then ['0'] else fraction)
  else d.scientific 'e' false

def signText (negative : Bool) : List Char :=
  if negative then ['-'] else []

def Binary64.text : Binary64 → String
  | .nan => "nan"
  | .infinite negative => String.ofList (signText negative ++ ['i', 'n', 'f'])
  | .finite negative mantissa exponent =>
    String.ofList (signText negative ++ defaultLayout mantissa exponent)

end MarkupLog.Number
