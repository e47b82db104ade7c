/-!
# Rounding and counting digits

Rounding a quotient of natural numbers to the nearest integer, ties to the even neighbour, and the
number of decimal digits of a natural number.
-/

namespace MarkupLog.Number

/-- The integer nearest to `num / den`; a tie goes to the even neighbour. -/
def roundHalfEven (num den : Nat) : Nat :=
  let q := num / den
  let r := num % den
  if den < 2 * r ∨ (2 * r = den ∧ q % 2 = 1) then q + 1 else q

/-- The decimal digits of a natural number, zero as one digit. -/
def decimalText (n : Nat) : List Char :=
  Nat.toDigits 10 n

def digitCount (n : Nat) : Nat :=
  (decimalText n).length

/-- The quotient `num / den` times ten to the power `k`, as a quotient again. -/
def scaled (num den : Nat) (k : Int) : Nat × Nat :=
  if 0 ≤ k then (num * Nat.pow 10 k.toNat, den) else (num, den * Nat.pow 10 (-k).toNat)

end MarkupLog.Number
