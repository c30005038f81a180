import Mathlib.Tactic.Ring
import SiteIndex.Time.Span

/-!
# Rounding to the nearest

A quotient is rounded to the nearest number, and to the even one of two (`divNearest`). Shifting a
significand to the right while remembering a round bit and a sticky bit, as the arithmetic of
doubles does, rounds to the same number (`roundedMantissa_shiftRight`).
-/

namespace SiteIndex.Binary64

open Time.Span (divNearest)
open Float.Model.UnpackedFloat

/-! ## Quotients -/

/-- A quotient is rounded by less than one. -/
theorem divNearest_bounds (num den : Nat) :
    num / den ≤ divNearest num den ∧ divNearest num den ≤ num / den + 1 := by
  rw [divNearest]
  split <;> omega

/-- An exact quotient is not rounded. -/
theorem divNearest_mul {den : Nat} (hden : 0 < den) (n : Nat) : divNearest (n * den) den = n := by
  rw [divNearest, Nat.mul_div_cancel _ hden, Nat.mul_mod_left]
  exact if_pos (.inl hden)

/-- A greater number has no smaller quotient. -/
theorem divNearest_mono {m n den : Nat} (hle : m ≤ n) : divNearest m den ≤ divNearest n den := by
  rcases Nat.lt_or_eq_of_le (Nat.div_le_div_right (c := den) hle) with hless | hsame
  · exact Nat.le_trans (divNearest_bounds m den).2
      (Nat.le_trans hless (divNearest_bounds n den).1)
  · have hm := Nat.div_add_mod m den
    have hn := Nat.div_add_mod n den
    rw [divNearest, divNearest]
    rw [hsame] at hm ⊢
    split
    case isTrue => split <;> omega
    case isFalse hup =>
      rw [if_neg (by omega)]

/-- Numerator and denominator may be multiplied by one number. -/
theorem divNearest_scale {k : Nat} (hk : 0 < k) (num den : Nat) :
    divNearest (num * k) (den * k) = divNearest num den := by
  rw [divNearest, divNearest, Nat.mul_div_mul_right _ _ hk, Nat.mul_mod_mul_right]
  have hless : 2 * (num % den * k) < den * k ↔ 2 * (num % den) < den := by
    rw [← Nat.mul_assoc]
    exact Nat.mul_lt_mul_right hk
  have hsame : 2 * (num % den * k) = den * k ↔ 2 * (num % den) = den := by
    rw [← Nat.mul_assoc]
    exact Nat.mul_left_inj (Nat.ne_of_gt hk)
  simp only [hless, hsame]

/-! ## Shifting with a round bit and a sticky bit -/

/-- What is left of a significand after a shift by `shift` bits: its upper bits, whether the bits
shifted out make at least half of the last one left, and whether they make neither nothing nor
exactly half of it. -/
structure Shifted (n shift : Nat) (m : ExtendedMantissa) : Prop where
  upper : m.mantissa = n / 2 ^ shift
  round : m.roundBit = true ↔ 2 ^ shift ≤ 2 * (n % 2 ^ shift)
  sticky : m.stickyBit = true ↔ 2 * (n % 2 ^ shift) ≠ 0 ∧ 2 * (n % 2 ^ shift) ≠ 2 ^ shift

/-- One more bit is shifted out. -/
theorem Shifted.shiftRightOne {n shift : Nat} {m : ExtendedMantissa} (h : Shifted n shift m) :
    Shifted n (shift + 1) m.shiftRightOne := by
  have hpos : 0 < 2 ^ shift := Nat.two_pow_pos shift
  have hlow : n % 2 ^ shift < 2 ^ shift := Nat.mod_lt _ hpos
  have hmod : n % 2 ^ (shift + 1) = n % 2 ^ shift + 2 ^ shift * (n / 2 ^ shift % 2) :=
    Nat.mod_pow_succ
  have hpow : 2 ^ (shift + 1) = 2 * 2 ^ shift := by ring
  have hbit : n / 2 ^ shift % 2 = 0 ∨ n / 2 ^ shift % 2 = 1 := by omega
  refine ⟨?_, ?_, ?_⟩
  · rw [ExtendedMantissa.shiftRightOne, h.upper, Nat.div_div_eq_div_mul, Nat.pow_succ]
  · rw [ExtendedMantissa.shiftRightOne, h.upper, hmod, hpow, bne_iff_ne]
    rcases hbit with hbit | hbit <;> rw [hbit] <;> omega
  · rw [ExtendedMantissa.shiftRightOne, Bool.or_eq_true, h.round, h.sticky, hmod, hpow]
    rcases hbit with hbit | hbit <;> rw [hbit] <;> omega

/-- Any number of bits is shifted out. -/
theorem shifted_shiftRight (n shift : Nat) :
    Shifted n shift (ExtendedMantissa.ofMantissaAndAccuracy n .exact >>> shift) := by
  induction shift with
  | zero =>
      constructor
      · exact (Nat.div_one n).symm
      · simp [HShiftRight.hShiftRight, Nat.repeat, ExtendedMantissa.ofMantissaAndAccuracy,
          Nat.mod_one]
      · simp [HShiftRight.hShiftRight, Nat.repeat, ExtendedMantissa.ofMantissaAndAccuracy,
          Nat.mod_one]
  | succ shift ih => exact ih.shiftRightOne

/-- The two bits are enough to round to the nearest, and to even. -/
theorem Shifted.roundedMantissa {n shift : Nat} {m : ExtendedMantissa} (h : Shifted n shift m) :
    m.roundedMantissa = divNearest n (2 ^ shift) := by
  obtain ⟨mantissa, round, sticky⟩ := m
  obtain ⟨hupper, hround, hsticky⟩ := h
  have hpos : 0 < 2 ^ shift := Nat.two_pow_pos shift
  dsimp only at hupper hround hsticky
  rw [divNearest, ← hupper]
  generalize n % 2 ^ shift = low at *
  generalize 2 ^ shift = unit at *
  cases round <;> cases sticky <;>
    simp only [Bool.false_eq_true, false_iff, true_iff, Nat.not_le] at hround hsticky <;>
    simp only [ExtendedMantissa.roundedMantissa, ExtendedMantissa.accuracy,
      Accuracy.roundToNearestEven]
  · rw [if_pos (.inl hround)]
  · rw [if_pos (.inl hround)]
  · split <;> omega
  · rw [if_neg (by omega)]

/-- A significand that is shifted to the right is rounded to the nearest, and to even. -/
theorem roundedMantissa_shiftRight (n shift : Nat) :
    (ExtendedMantissa.ofMantissaAndAccuracy n .exact >>> shift).roundedMantissa =
      divNearest n (2 ^ shift) :=
  (shifted_shiftRight n shift).roundedMantissa

end SiteIndex.Binary64
