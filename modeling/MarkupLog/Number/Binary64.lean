import MarkupLog.Number.Rounding

/-!
# Binary floating-point numbers

The numbers of IEEE 754 binary64 as exact data: a finite number is `± mantissa · 2 ^ exponent` with
a mantissa below `2 ^ 53` and an exponent of at least -1074. Reading a decimal or an integer rounds
to the nearest such number, ties to an even mantissa; what lies past the largest is infinite.
-/

namespace MarkupLog.Number

inductive Binary64
  | nan
  | infinite (negative : Bool)
  | finite (negative : Bool) (mantissa : Nat) (exponent : Int)
  deriving Repr, DecidableEq

namespace Binary64

def minExponent : Int := -1074

def maxExponent : Int := 971

def zero (negative : Bool) : Binary64 := .finite negative 0 minExponent

/-- The absolute value `mantissa · 2 ^ exponent` as a quotient. -/
def ratio (mantissa : Nat) (exponent : Int) : Nat × Nat :=
  if 0 ≤ exponent then (mantissa * Nat.pow 2 exponent.toNat, 1)
  else (mantissa, Nat.pow 2 (-exponent).toNat)

/-- The quotient `num / den` in units of `2 ^ exponent`, rounded. -/
def inUnits (num den : Nat) (exponent : Int) : Nat :=
  if 0 ≤ exponent then roundHalfEven num (den * Nat.pow 2 exponent.toNat)
  else roundHalfEven (num * Nat.pow 2 (-exponent).toNat) den

/-- The exponent that gives the positive quotient `num / den` a mantissa of 53 bits, or the
smallest exponent. -/
def exponentFor (num den : Nat) : Int :=
  let guess : Int := (Nat.log2 num : Int) - (Nat.log2 den : Int) - 53
  let (n, d) :=
    if 0 ≤ guess then (num, den * Nat.pow 2 guess.toNat) else (num * Nat.pow 2 (-guess).toNat, den)
  let exact := if Nat.pow 2 53 ≤ n / d then guess + 1 else guess
  max exact minExponent

/-- The number nearest to `± num / den`. -/
def ofRatio (negative : Bool) (num den : Nat) : Binary64 :=
  if num = 0 then zero negative
  else
    let exponent := exponentFor num den
    let mantissa := inUnits num den exponent
    let (mantissa, exponent) :=
      if mantissa = Nat.pow 2 53 then (Nat.pow 2 52, exponent + 1) else (mantissa, exponent)
    if maxExponent < exponent then .infinite negative else .finite negative mantissa exponent

/-- The number nearest to `± digits · 10 ^ exponent`. Powers far outside the range are decided by
the size of the number alone. -/
def ofDecimal (negative : Bool) (digits : Nat) (exponent : Int) : Binary64 :=
  if digits = 0 then zero negative
  else
    let size := (digitCount digits : Int) + exponent
    if 400 < size then .infinite negative
    else if size < -400 then zero negative
    else
      let (num, den) := scaled digits 1 exponent
      ofRatio negative num den

def ofInt (i : Int) : Binary64 :=
  ofRatio (i < 0) i.natAbs 1

def truncate (negative : Bool) (mantissa : Nat) (exponent : Int) : Int :=
  let (num, den) := ratio mantissa exponent
  if negative then -((num / den : Nat) : Int) else (num / den : Nat)

end Binary64

end MarkupLog.Number
