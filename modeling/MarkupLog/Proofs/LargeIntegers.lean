import Mathlib.Algebra.Ring.Nat
import MarkupLog.Number.Binary64

/-!
# Integers past the largest floating-point number

The largest finite number of binary64 is `2 ^ 1024 - 2 ^ 971`. An integer rounds to it as long as it
is nearer to it than to `2 ^ 1024`; half way between the two, the even neighbour is the greater one,
so from `2 ^ 1024 - 2 ^ 970` on an integer has no floating-point number.
-/

namespace MarkupLog.Number.Binary64

/-- The least integer whose nearest number is infinite: `2 ^ 1024 - 2 ^ 970`. -/
def integerLimit : Nat := (2 ^ 54 - 1) * 2 ^ 970

theorem exponentFor_one (n : Nat) (hn : n ≠ 0) : exponentFor n 1 = (Nat.log2 n : Int) - 52 := by
  have hlow : 2 ^ Nat.log2 n ≤ n := Nat.log2_self_le hn
  have hone : Nat.log2 1 = 0 := by decide
  unfold exponentFor minExponent
  simp only [Nat.pow_eq, hone]
  by_cases hL : 53 ≤ Nat.log2 n
  · have hguess : 0 ≤ (Nat.log2 n : Int) - ((0 : Nat) : Int) - 53 := by omega
    have hpow : 2 ^ 53 * 2 ^ (Nat.log2 n - 53) = 2 ^ Nat.log2 n := by
      rw [← Nat.pow_add]
      congr 1
      omega
    have hshift : ((Nat.log2 n : Int) - ((0 : Nat) : Int) - 53).toNat = Nat.log2 n - 53 := by omega
    have hexact : 2 ^ 53 ≤ n / (1 * 2 ^ (Nat.log2 n - 53)) := by
      rw [Nat.one_mul, Nat.le_div_iff_mul_le (Nat.two_pow_pos _), hpow]
      exact hlow
    simp only [hguess, if_true, hshift, hexact]
    omega
  · have hguess : ¬0 ≤ (Nat.log2 n : Int) - ((0 : Nat) : Int) - 53 := by omega
    have hpow : 2 ^ Nat.log2 n * 2 ^ (53 - Nat.log2 n) = 2 ^ 53 := by
      rw [← Nat.pow_add]
      congr 1
      omega
    have hshift : (-((Nat.log2 n : Int) - ((0 : Nat) : Int) - 53)).toNat = 53 - Nat.log2 n := by
      omega
    have hexact : 2 ^ 53 ≤ n * 2 ^ (53 - Nat.log2 n) / 1 := by
      rw [Nat.div_one, ← hpow]
      exact Nat.mul_le_mul_right _ hlow
    simp only [hguess, if_false, hshift, hexact, if_true]
    omega

/- Only the top half unit below a power of two rounds up to it. -/
theorem roundHalfEven_eq_iff (n d : Nat) (hd : 0 < d) (hn : n < 2 ^ 53 * (2 * d)) :
    roundHalfEven n (2 * d) = 2 ^ 53 ↔ 2 ^ 53 * (2 * d) - d ≤ n := by
  have hsplit := Nat.div_add_mod n (2 * d)
  have hrest := Nat.mod_lt n (show 0 < 2 * d by omega)
  have hquotient : n / (2 * d) < 2 ^ 53 := (Nat.div_lt_iff_lt_mul (by omega)).mpr hn
  unfold roundHalfEven
  dsimp only
  generalize n / (2 * d) = q at *
  generalize n % (2 * d) = r at *
  have hmul : 2 * d * q = 2 * (d * q) := Nat.mul_assoc 2 d q
  by_cases htop : q = 2 ^ 53 - 1
  · have hproduct : d * q = d * (2 ^ 53 - 1) := by rw [htop]
    split <;> omega
  · have hbelow : d * q ≤ d * (2 ^ 53 - 2) := Nat.mul_le_mul_left d (by omega)
    split <;> omega

theorem ofRatio_infinite_iff (negative : Bool) (n : Nat) (hn : n ≠ 0) :
    (∃ sign, ofRatio negative n 1 = .infinite sign) ↔
      maxExponent < (Nat.log2 n : Int) - 52 ∨
      maxExponent < (Nat.log2 n : Int) - 51 ∧ inUnits n 1 ((Nat.log2 n : Int) - 52) = 2 ^ 53 := by
  have hnext : (Nat.log2 n : Int) - 52 + 1 = (Nat.log2 n : Int) - 51 := by omega
  unfold ofRatio
  simp only [Nat.pow_eq, hn, if_false, exponentFor_one n hn]
  by_cases hcarry : inUnits n 1 ((Nat.log2 n : Int) - 52) = 2 ^ 53
  · simp only [hcarry, if_true, hnext, and_true]
    split
    · rename_i hlarge
      exact ⟨fun _ => Or.inr hlarge, fun _ => ⟨negative, rfl⟩⟩
    · rename_i hsmall
      exact ⟨fun ⟨_, h⟩ => (nomatch h), fun h => absurd h (by omega)⟩
  · simp only [hcarry, if_false, and_false, or_false]
    split
    · rename_i hlarge
      exact ⟨fun _ => hlarge, fun _ => ⟨negative, rfl⟩⟩
    · rename_i hsmall
      exact ⟨fun ⟨_, h⟩ => (nomatch h), fun h => absurd h hsmall⟩

theorem inUnits_succ (n k : Nat) :
    inUnits n 1 ((k + 1 : Nat) : Int) = roundHalfEven n (2 * 2 ^ k) := by
  unfold inUnits
  rw [if_pos (Int.natCast_nonneg _), Int.toNat_natCast, Nat.one_mul, Nat.pow_eq, Nat.pow_succ']

theorem two_pow_units (n bits k : Nat) (hn : n = bits + (k + 1)) :
    2 ^ n = 2 ^ bits * (2 * 2 ^ k) := by
  rw [hn, Nat.pow_add, Nat.pow_succ']

theorem ofRatio_one_infinite_iff (negative : Bool) (n k : Nat) (hk : k = 970) :
    (∃ sign, ofRatio negative n 1 = .infinite sign) ↔ (2 ^ 54 - 1) * 2 ^ k ≤ n := by
  have hunit : 0 < 2 ^ k := Nat.two_pow_pos k
  by_cases hn : n = 0
  · subst hn
    rw [ofRatio, if_pos rfl]
    exact ⟨fun ⟨_, h⟩ => (nomatch h), fun h => absurd h (by omega)⟩
  have hlow : 2 ^ Nat.log2 n ≤ n := Nat.log2_self_le hn
  have hhigh : n < 2 ^ (Nat.log2 n + 1) := Nat.lt_log2_self
  rw [ofRatio_infinite_iff negative n hn]
  unfold maxExponent
  rcases Nat.lt_trichotomy (Nat.log2 n) 1023 with hL | hL | hL
  · have hgrow : 2 ^ (Nat.log2 n + 1) ≤ 2 ^ (52 + (k + 1)) :=
      Nat.pow_le_pow_right Nat.two_pos (by omega)
    rw [two_pow_units _ 52 k rfl] at hgrow
    omega
  · rw [two_pow_units _ 53 k (by omega)] at hhigh
    have htop : (Nat.log2 n : Int) - 52 = ((k + 1 : Nat) : Int) := by omega
    -- in units of `2 ^ (k + 1)` the number has 53 bits, and only a carry takes it out of range
    rw [htop, inUnits_succ n k, roundHalfEven_eq_iff n (2 ^ k) hunit hhigh]
    omega
  · have hgrow : 2 ^ (53 + (k + 1)) ≤ 2 ^ Nat.log2 n :=
      Nat.pow_le_pow_right Nat.two_pos (by omega)
    rw [two_pow_units _ 53 k rfl] at hgrow
    omega

theorem ofInt_infinite_iff (i : Int) :
    (∃ sign, ofInt i = .infinite sign) ↔ integerLimit ≤ i.natAbs := by
  unfold ofInt integerLimit
  rw [ofRatio_one_infinite_iff (i < 0) i.natAbs 970 rfl]

end MarkupLog.Number.Binary64
