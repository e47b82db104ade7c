import MarkupLog.Number.Binary64

/-!
# The fewest digits that read back

Every finite number is the nearest one to a whole interval of reals. The shortest decimal of that
interval is found by trying one digit, two digits and so on: on each grid only the two neighbours of
the number itself can be the answer, and seventeen digits always suffice.
-/

namespace MarkupLog.Number

/-- Decimal digits with a point: `0.d₁d₂d₃… · 10 ^ point`. -/
structure Decimal where
  digits : List Char
  point : Int
  deriving Repr, DecidableEq

/-- The position of the decimal point of a positive quotient: the least `p` with
`num / den < 10 ^ p`. Every positive binary64 number is at least `10 ^ -345`. -/
def pointOf (num den : Nat) : Int :=
  (digitCount (num * Nat.pow 10 345 / den) : Int) - 345

/-- The reals that round to one number, as numerators over a common denominator: the number itself,
the ends of the interval, and whether the ends belong to it. -/
structure Interval where
  low : Nat
  value : Nat
  high : Nat
  den : Nat
  closed : Bool

/-- The interval of the finite number `mantissa · 2 ^ exponent`. Below a power of two the gap to the
next number is half as wide. -/
def Interval.of (mantissa : Nat) (exponent : Int) : Interval :=
  let (num, den) := Binary64.ratio mantissa exponent
  let (unit, _) := Binary64.ratio 1 exponent
  let narrow := mantissa = Nat.pow 2 52 ∧ Binary64.minExponent < exponent
  { low := 4 * num - (if narrow then unit else 2 * unit)
    value := 4 * num
    high := 4 * num + 2 * unit
    den := 4 * den
    closed := mantissa % 2 = 0 }

/-- The test whether `n · 10 ^ k` lies in the interval. -/
def Interval.holds (i : Interval) (n : Nat) (k : Int) : Bool :=
  let (p, q) := scaled n 1 k
  -- `p / q` against numerators over `den`
  if i.closed then i.low * q ≤ p * i.den && p * i.den ≤ i.high * q
  else i.low * q < p * i.den && p * i.den < i.high * q

/-- The point of the grid of step `10 ^ k` that lies in the interval and is nearest to the number; a
tie goes to the even neighbour. -/
def Interval.onGrid? (i : Interval) (k : Int) : Option Nat :=
  let (num, den) := scaled i.value i.den (-k)
  let nearest := roundHalfEven num den
  let other := if nearest = num / den then nearest + 1 else num / den
  if i.holds nearest k then some nearest
  else if i.holds other k then some other
  else none

/-- Tries the digit counts from `17 - fuel` on. -/
def shortestFrom (i : Interval) (point : Int) : Nat → Nat × Int
  | 0 => ((i.onGrid? (point - 17)).getD 0, point - 17)
  | fuel + 1 =>
    let k := point - (17 - (fuel : Int) - 1)
    match i.onGrid? k with
    | some n => (n, k)
    | none => shortestFrom i point fuel

def significant (cs : List Char) : List Char :=
  (cs.reverse.dropWhile (· = '0')).reverse

/-- The shortest decimal that reads back as the finite number; zero has one digit. -/
def shortest (mantissa : Nat) (exponent : Int) : Decimal :=
  if mantissa = 0 then ⟨['0'], 1⟩
  else
    let (num, den) := Binary64.ratio mantissa exponent
    let (n, k) := shortestFrom (Interval.of mantissa exponent) (pointOf num den) 17
    let digits := decimalText n
    ⟨significant digits, digits.length + k⟩

end MarkupLog.Number
