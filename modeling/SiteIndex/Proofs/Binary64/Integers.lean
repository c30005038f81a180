import Mathlib
import SiteIndex.Proofs.Binary64.Rounding

/-!
# Integers as doubles

The double of an integer is the nearest one, and the even one of two. Its bits below the sign are
the exponent and the significand next to each other, so that they count the doubles from zero
(`nearest`). In the total order of doubles the integers of sixty-four bits therefore keep their
order (`totalKey_ofInt_mono`), and those up to the fifty-third power of two are told apart
(`ofInt_injective`).
-/

namespace SiteIndex.Binary64

open Time.Span (divNearest)
open Float.Model (Format UnpackedFloat totalExponent)
open Float.Model.UnpackedFloat

/-! ## The bits of a double -/

/-- A double with all bits of its significand, and its place: how many doubles it is away from
zero. -/
inductive Normal (sign : Sign) (place : Nat) : UnpackedFloat → Prop where
  | finite {m : Nat} {e : Int} {hpos : 0 < m} (hlow : 2 ^ 52 ≤ m) (hhigh : m < 2 ^ 53)
      (hmin : -1074 ≤ e) (hmax : e ≤ 970) (hplace : (e + 1074).toNat * 2 ^ 52 + m = place) :
      Normal sign place (.finite sign m e hpos)

/-- The exponent and the significand of a double as they are packed. -/
theorem pack_normal {sign : Sign} {m : Nat} {e : Int} (hpos : 0 < m) (hlow : 2 ^ 52 ≤ m)
    (hhigh : m < 2 ^ 53) (hmin : -1074 ≤ e) (hmax : e ≤ 970) :
    pack Format.binary64 (.finite sign m e hpos) =
      packComponents Format.binary64 sign (.ofNat _ ((e + 1074).toNat + 1)) (.ofNat _ m) := by
  have hlog : m.log2 = 52 := (Nat.log2_eq_iff (by omega)).2 ⟨hlow, hhigh⟩
  have hbias : (e + (Format.binary64.exponentBias : Int) + (52 : Nat)).toNat =
      (e + 1074).toNat + 1 := by
    change (e + 1023 + 52).toNat = _
    omega
  have hroom : ¬ 2 ^ 11 ≤ (e + 1074).toNat + 1 + 1 := by omega
  have hfull : m.log2 + 1 = Format.binary64.mantissaBits := congrArg (· + 1) hlog
  rw [pack]
  dsimp only
  rw [hbias, if_neg hroom, if_pos hfull]

/-- The bits of a double are its sign and then its place. -/
theorem Normal.toNat_pack {sign : Sign} {place : Nat} {x : UnpackedFloat}
    (h : Normal sign place x) :
    (Float.Model.pack x).toBits.toNat = sign.toBitVec.toNat * 2 ^ 63 + place := by
  obtain ⟨hlow, hhigh, hmin, hmax, rfl⟩ := h
  rename_i m e hpos
  change (pack Format.binary64 (.finite sign m e hpos)).toNat = _
  have hexponent : ((e + 1074).toNat + 1) % 2 ^ 11 = (e + 1074).toNat + 1 :=
    Nat.mod_eq_of_lt (by omega)
  -- The first bit of the significand is left out and makes up for the exponent counted from one.
  have hsignificand : m % 2 ^ 52 = m - 2 ^ 52 := by omega
  rw [pack_normal hpos hlow hhigh hmin hmax, packComponents, BitVec.toNat_append,
    BitVec.toNat_append, ← Nat.shiftLeft_add_eq_or_of_lt (BitVec.isLt _),
    ← Nat.shiftLeft_add_eq_or_of_lt (BitVec.isLt _), BitVec.toNat_ofNat, BitVec.toNat_ofNat,
    Nat.shiftLeft_eq, Nat.shiftLeft_eq]
  change (_ * 2 ^ 11 + ((e + 1074).toNat + 1) % 2 ^ 11) * 2 ^ 52 + m % 2 ^ 52 = _
  rw [hexponent, hsignificand]
  omega

/-- Nothing is lost by packing. -/
theorem Normal.unpack_pack {sign : Sign} {place : Nat} {x : UnpackedFloat}
    (h : Normal sign place x) : (Float.Model.pack x).unpack = x := by
  obtain ⟨hlow, hhigh, hmin, hmax, -⟩ := h
  rename_i m e hpos
  change unpack Format.binary64 (pack Format.binary64 (.finite sign m e hpos)) = _
  have hexponent : (BitVec.ofNat 11 ((e + 1074).toNat + 1)).toNat = (e + 1074).toNat + 1 := by
    rw [BitVec.toNat_ofNat]
    exact Nat.mod_eq_of_lt (by omega)
  have hfinite : BitVec.ofNat 11 ((e + 1074).toNat + 1) ≠ -1#11 := by
    intro heq
    rw [heq] at hexponent
    change 2047 = _ at hexponent
    omega
  have hfull : BitVec.ofNat 11 ((e + 1074).toNat + 1) ≠ 0#11 := by
    intro heq
    rw [heq] at hexponent
    cases hexponent
  have hsignificand : (1#1 ++ BitVec.ofNat 52 m).toNat = m := by
    rw [BitVec.toNat_append, ← Nat.shiftLeft_add_eq_or_of_lt (BitVec.isLt _), BitVec.toNat_ofNat,
      Nat.shiftLeft_eq]
    change 1 * 2 ^ 52 + m % 2 ^ 52 = m
    omega
  rw [pack_normal hpos hlow hhigh hmin hmax, unpack]
  simp only [unpackMantissa_packComponents, unpackExponent_packComponents,
    unpackSign_packComponents, Sign.ofBitVec_toBitVec]
  rw [if_neg hfinite, if_neg hfull]
  congr 1
  rw [hexponent]
  change ((e + 1074).toNat + 1 : Int) - (1023 + 52) = e
  omega

/-- The double with the other sign has the same place. -/
theorem Normal.neg {sign : Sign} {place : Nat} {x : UnpackedFloat} (h : Normal sign place x) :
    Normal (-sign) place x.neg := by
  obtain ⟨hlow, hhigh, hmin, hmax, hplace⟩ := h
  exact .finite hlow hhigh hmin hmax hplace

/-! ## Rounding -/

/-- A significand with too many bits is shifted until fifty-three are left. -/
theorem shiftToTargetExponent_eq {m : Nat} {e : Int} (hlog : 52 ≤ m.log2)
    (hmin : -1074 ≤ e + (m.log2 - 52 : Nat)) (accuracy : Accuracy) :
    shiftToTargetExponent Format.binary64 m e accuracy =
      (ExtendedMantissa.ofMantissaAndAccuracy m accuracy >>> (m.log2 - 52),
        e + (m.log2 - 52 : Nat)) := by
  have htarget : Format.binary64.targetExponent (totalExponent m e) =
      e + (m.log2 - 52 : Nat) := by
    change max ((m.log2 : Int) + 1 + e - 53) (-1074) = _
    omega
  have hshift : (e + (m.log2 - 52 : Nat) - e).toNat = m.log2 - 52 := by omega
  rw [shiftToTargetExponent, htarget, shiftToExponent, hshift]

/-- A number of fifty-three bits or more is rounded to the nearest double. -/
theorem normal_roundWithAccuracy {m : Nat} {e : Int} (hlog : 52 ≤ m.log2)
    (hmin : -1074 ≤ e + (m.log2 - 52 : Nat)) (hmax : e + (m.log2 - 52 : Nat) < 970)
    (sign : Sign) :
    Normal sign ((e + (m.log2 - 52 : Nat) + 1074).toNat * 2 ^ 52 +
      divNearest m (2 ^ (m.log2 - 52))) (roundWithAccuracy Format.binary64 sign m e .exact) := by
  have hm : m ≠ 0 := by
    rintro rfl
    simp at hlog
  obtain ⟨hfloor, hceil⟩ := divNearest_bounds m (2 ^ (m.log2 - 52))
  have hpow : 2 ^ m.log2 = 2 ^ 52 * 2 ^ (m.log2 - 52) := by
    rw [← Nat.pow_add]
    congr 1
    omega
  have hlow : 2 ^ 52 ≤ m / 2 ^ (m.log2 - 52) :=
    (Nat.le_div_iff_mul_le (Nat.two_pow_pos _)).2 (hpow ▸ Nat.log2_self_le hm)
  have hhigh : m / 2 ^ (m.log2 - 52) < 2 ^ 53 := by
    refine (Nat.div_lt_iff_lt_mul (Nat.two_pow_pos _)).2 ?_
    have := Nat.lt_log2_self (n := m)
    rw [Nat.pow_succ, hpow] at this
    omega
  rw [roundWithAccuracy, shiftToTargetExponent_eq hlog hmin]
  dsimp only
  rw [roundedMantissa_shiftRight]
  generalize divNearest m (2 ^ (m.log2 - 52)) = rounded at *
  generalize e + ((m.log2 - 52 : Nat) : Int) = exponent at *
  have hrounded : 2 ^ 52 ≤ rounded := Nat.le_trans hlow hfloor
  rcases Nat.lt_or_eq_of_le (show rounded ≤ 2 ^ 53 by omega) with hless | rfl
  · have hlog : rounded.log2 = 52 := (Nat.log2_eq_iff (by omega)).2 ⟨hrounded, hless⟩
    rw [shiftToTargetExponent_eq (Nat.le_of_eq hlog.symm) (by omega), hlog]
    change Normal sign _ (if h : rounded = 0 then .zero sign
      else .finite sign rounded (exponent + 0) _)
    rw [dif_neg (by omega), Int.add_zero]
    exact .finite hrounded hless hmin (by omega) rfl
  · -- Rounding up carried into one more bit, which a last shift takes back.
    have hlog : (2 ^ 53).log2 = 53 := Nat.log2_two_pow
    rw [shiftToTargetExponent_eq (by omega) (by omega), hlog]
    change Normal sign _ (.finite sign (2 ^ 52) (exponent + 1) _)
    exact .finite (Nat.le_refl _) (by decide) (by omega) (by omega) (by omega)

/-- A shift to the left adds its bits. -/
theorem log2_mul_two_pow {n : Nat} (hn : n ≠ 0) (k : Nat) : (n * 2 ^ k).log2 = n.log2 + k := by
  have hpos : 0 < 2 ^ k := Nat.two_pow_pos k
  refine (Nat.log2_eq_iff (Nat.mul_ne_zero hn (Nat.ne_of_gt hpos))).2 ⟨?_, ?_⟩
  · rw [Nat.pow_add]
    exact Nat.mul_le_mul_right _ (Nat.log2_self_le hn)
  · rw [Nat.add_right_comm, Nat.pow_add]
    exact Nat.mul_lt_mul_of_pos_right Nat.lt_log2_self hpos

/-- A double that is multiplied by one is itself. -/
theorem Normal.mul_one {sign : Sign} {place : Nat} {x : UnpackedFloat} (h : Normal sign place x)
    (hroom : place < 2044 * 2 ^ 52) (hone : 0 < 2 ^ 52) :
    Normal sign place
      (UnpackedFloat.mul Format.binary64 x (.finite .positive (2 ^ 52) (-52) hone)) := by
  obtain ⟨hlow, hhigh, hmin, hmax, rfl⟩ := h
  rename_i m e hpos
  have hlog : (m * 2 ^ 52).log2 = 104 := by
    rw [log2_mul_two_pow (Nat.ne_of_gt hpos), (Nat.log2_eq_iff (Nat.ne_of_gt hpos)).2 ⟨hlow, hhigh⟩]
  have hsign : sign * .positive = sign := by cases sign <;> rfl
  have hround := normal_roundWithAccuracy (m := m * 2 ^ 52) (e := e + -52) (by omega) (by omega)
    (by omega) sign
  have hexponent : (e + -52 + ((104 - 52 : Nat) : Int) + 1074).toNat = (e + 1074).toNat := by
    change (e + -52 + 52 + 1074).toNat = _
    rw [Int.neg_add_cancel_right]
  rw [hlog, divNearest_mul hone, hexponent] at hround
  change Normal sign _ (roundWithAccuracy Format.binary64 (sign * .positive) _ _ .exact)
  rwa [hsign]

/-! ## Where integers stand -/

/-- The place of the double that is nearest to a natural number. The significand is the number,
shifted until its first bit is the fifty-third. -/
def nearest (n : Nat) : Nat :=
  if n = 0 then 0 else (n.log2 + 1022) * 2 ^ 52 + divNearest (n * 2 ^ 52) (2 ^ n.log2)

/-- The significand of the double that is nearest to a positive number. -/
theorem significand_bounds {n : Nat} (hn : n ≠ 0) :
    2 ^ 52 ≤ divNearest (n * 2 ^ 52) (2 ^ n.log2) ∧
      divNearest (n * 2 ^ 52) (2 ^ n.log2) ≤ 2 ^ 53 := by
  have hunit : 0 < 2 ^ n.log2 := Nat.two_pow_pos _
  constructor
  · have hlow : 2 ^ 52 * 2 ^ n.log2 ≤ n * 2 ^ 52 := by
      rw [Nat.mul_comm n]
      exact Nat.mul_le_mul_left _ (Nat.log2_self_le hn)
    calc 2 ^ 52 = divNearest (2 ^ 52 * 2 ^ n.log2) (2 ^ n.log2) := (divNearest_mul hunit _).symm
      _ ≤ _ := divNearest_mono hlow
  · have hhigh : n * 2 ^ 52 ≤ 2 ^ 53 * 2 ^ n.log2 := by
      have hless : n < 2 ^ (n.log2 + 1) := Nat.lt_log2_self
      rw [Nat.pow_succ] at hless
      omega
    calc _ ≤ divNearest (2 ^ 53 * 2 ^ n.log2) (2 ^ n.log2) := divNearest_mono hhigh
      _ = 2 ^ 53 := divNearest_mul hunit _

/-- The numbers of fifty-three bits have significands of their own. -/
theorem significand_exact {n : Nat} (hlog : n.log2 ≤ 52) :
    divNearest (n * 2 ^ 52) (2 ^ n.log2) = n * 2 ^ (52 - n.log2) := by
  have hsplit : n * 2 ^ 52 = n * 2 ^ (52 - n.log2) * 2 ^ n.log2 := by
    rw [Nat.mul_assoc, ← Nat.pow_add, Nat.sub_add_cancel hlog]
  rw [hsplit, divNearest_mul (Nat.two_pow_pos _)]

/-- A greater number has no fewer bits. -/
theorem log2_mono {m n : Nat} (hle : m ≤ n) : m.log2 ≤ n.log2 := by
  rw [Nat.log2_eq_log_two, Nat.log2_eq_log_two]
  exact Nat.log_mono_right hle

/-- A greater number does not stand before a smaller one. -/
theorem nearest_mono {m n : Nat} (hle : m ≤ n) : nearest m ≤ nearest n := by
  rw [nearest, nearest]
  by_cases hm : m = 0
  · rw [if_pos hm]
    exact Nat.zero_le _
  · have hn : n ≠ 0 := by omega
    rw [if_neg hm, if_neg hn]
    rcases Nat.lt_or_eq_of_le (log2_mono hle) with hless | hsame
    · have hhigh := (significand_bounds hm).2
      have hlow := (significand_bounds hn).1
      omega
    · rw [hsame]
      exact Nat.add_le_add_left (divNearest_mono (Nat.mul_le_mul_right _ hle)) _

/-- Up to the fifty-third power of two every number has a place of its own. -/
theorem nearest_lt {m n : Nat} (hlt : m < n) (hn : n ≤ 2 ^ 53) : nearest m < nearest n := by
  have hn0 : n ≠ 0 := by omega
  rw [nearest, nearest, if_neg hn0]
  by_cases hm : m = 0
  · rw [if_pos hm]
    have := (significand_bounds hn0).1
    omega
  · rw [if_neg hm]
    have hlog : m.log2 ≤ 52 := Nat.le_of_lt_succ ((Nat.log2_lt hm).2 (by omega))
    rcases Nat.lt_or_eq_of_le (log2_mono (Nat.le_of_lt hlt)) with hless | hsame
    · have hhigh : m * 2 ^ (52 - m.log2) < 2 ^ 53 := by
        have hbound : m < 2 ^ (m.log2 + 1) := Nat.lt_log2_self
        have hstep := Nat.mul_lt_mul_of_pos_right hbound (Nat.two_pow_pos (52 - m.log2))
        rwa [← Nat.pow_add, show m.log2 + 1 + (52 - m.log2) = 53 by omega] at hstep
      have hlow := (significand_bounds hn0).1
      rw [significand_exact hlog]
      omega
    · rw [significand_exact hlog, hsame, significand_exact (hsame ▸ hlog)]
      exact Nat.add_lt_add_left (Nat.mul_lt_mul_of_pos_right hlt (Nat.two_pow_pos _)) _

/-- The places of numbers of sixty-four bits leave room for greater ones. -/
theorem nearest_room {n : Nat} (hn : n < 2 ^ 64) : nearest n < 2044 * 2 ^ 52 := by
  rw [nearest]
  split
  case isTrue => decide
  case isFalse hn0 =>
    have hlog : n.log2 < 64 := (Nat.log2_lt hn0).2 hn
    have hhigh := (significand_bounds hn0).2
    omega

/-- A number of at most fifty-three bits is shifted to the left, which is exact. -/
theorem normal_small {n : Nat} (hn0 : n ≠ 0) (hlog : n.log2 ≤ 52) :
    Normal .positive (nearest n) (UnpackedFloat.ofNat Format.binary64 n) := by
  have hwide : (n <<< (52 - n.log2)).log2 = 52 := by
    rw [Nat.shiftLeft_eq, log2_mul_two_pow hn0, Nat.add_sub_cancel' hlog]
  have hround := normal_roundWithAccuracy (m := n <<< (52 - n.log2))
    (e := (0 : Int) - (52 - n.log2 : Nat)) (by omega) (by omega) (by omega) .positive
  have hplace : ((0 : Int) - (52 - n.log2 : Nat) + ((52 - 52 : Nat) : Int) + 1074).toNat =
      n.log2 + 1022 := by
    omega
  have hexact : divNearest (n <<< (52 - n.log2)) (2 ^ (52 - 52)) =
      divNearest (n * 2 ^ 52) (2 ^ n.log2) := by
    have hone := divNearest_mul Nat.one_pos (n <<< (52 - n.log2))
    rw [Nat.mul_one] at hone
    rw [significand_exact hlog, ← Nat.shiftLeft_eq]
    exact hone
  rw [hwide, hplace, hexact] at hround
  have hpositive : compare (n : Int) 0 = .gt := Int.compare_eq_gt.2 (by omega)
  have htarget : (0 - Format.binary64.targetExponent (totalExponent n 0)).toNat =
      52 - n.log2 := by
    change (0 - max ((n.log2 : Int) + 1 + 0 - 53) (-1074)).toNat = _
    omega
  rw [UnpackedFloat.ofNat, UnpackedFloat.ofInt, UnpackedFloat.normalize, hpositive]
  dsimp only
  rw [UnpackedFloat.round, Int.toNat_natCast, decreaseExponent, htarget, nearest, if_neg hn0]
  exact hround

/-- A number of more bits is rounded to its first fifty-three. -/
theorem normal_large {n : Nat} (hlog : 53 ≤ n.log2) (hlog64 : n.log2 < 64) :
    Normal .positive (nearest n) (UnpackedFloat.ofScientific Format.binary64 n 0) := by
  have hn0 : n ≠ 0 := by
    rintro rfl
    simp at hlog
  have hwide : (n <<< 53 * 1).log2 = n.log2 + 53 := by
    rw [Nat.mul_one, Nat.shiftLeft_eq, log2_mul_two_pow hn0]
  have hround := normal_roundWithAccuracy (m := n <<< 53 * 1) (e := -53 + 0)
    (by omega) (by omega) (by omega) .positive
  have hplace : ((-53 : Int) + 0 + (n.log2 + 53 - 52 : Nat) + 1074).toNat = n.log2 + 1022 := by
    omega
  have hscaled : divNearest (n <<< 53 * 1) (2 ^ (n.log2 + 53 - 52)) =
      divNearest (n * 2 ^ 52) (2 ^ n.log2) := by
    rw [← divNearest_scale (Nat.zero_lt_two) (n * 2 ^ 52), Nat.mul_one, Nat.shiftLeft_eq,
      Nat.mul_assoc, ← Nat.pow_succ, ← Nat.pow_succ]
    rfl
  rw [hwide, hplace, hscaled] at hround
  have hroom : ¬ (0 : Int) < -((2 ^ 11 : Int) + n.log2) := by omega
  rw [UnpackedFloat.ofScientific, dif_neg hn0, if_neg (by decide), if_neg hroom,
    if_pos (by decide), nearest, if_neg hn0]
  exact hround

/-- The double of one. -/
theorem unpack_one :
    Float.exactlyRepresentablePowersOfTen[0].toModel.unpack =
      .finite .positive (2 ^ 52) (-52) (Nat.two_pow_pos 52) := by
  have hnormal : Normal .positive (1023 * 2 ^ 52)
      (.finite .positive (2 ^ 52) (-52) (Nat.two_pow_pos 52)) :=
    .finite (Nat.le_refl _) (by decide) (by decide) (by decide) rfl
  have hbits : Float.exactlyRepresentablePowersOfTen[0].toModel =
      .pack (.finite .positive (2 ^ 52) (-52) (Nat.two_pow_pos 52)) := by
    decide +kernel
  rw [hbits, hnormal.unpack_pack]

/-- A number is read as the nearest double, and as the even one of two. -/
theorem normal_ofNat {n : Nat} (hn0 : n ≠ 0) (hn : n < 2 ^ 64) :
    ∃ x, Normal .positive (nearest n) x ∧ (Float.ofNat n).toModel = .pack x := by
  by_cases hsmall : n < 2 ^ 53
  · have hlog : n.log2 ≤ 52 := Nat.le_of_lt_succ ((Nat.log2_lt hn0).2 hsmall)
    have hnormal := normal_small hn0 hlog
    refine ⟨_, hnormal.mul_one (nearest_room hn) (Nat.two_pow_pos 52), ?_⟩
    change (Float.ofScientific n false 0).toModel = _
    have hfast : n < 2 ^ 53 ∧ 0 ≤ 22 := ⟨hsmall, Nat.zero_le _⟩
    rw [Float.ofScientific, dif_pos hfast]
    have hself : n.toUInt64.toNat = n := UInt64.toNat_ofNat_of_lt' hn
    change Float.Model.pack (UnpackedFloat.mul Format.binary64
      (Float.Model.pack (UnpackedFloat.ofNat Format.binary64 n.toUInt64.toNat)).unpack _) = _
    rw [hself, hnormal.unpack_pack, unpack_one]
  · have hlog : 53 ≤ n.log2 := (Nat.le_log2 hn0).2 (Nat.not_lt.1 hsmall)
    refine ⟨_, normal_large hlog ((Nat.log2_lt hn0).2 hn), ?_⟩
    change (Float.ofScientific n false 0).toModel = _
    rw [Float.ofScientific, dif_neg fun h => hsmall h.1]
    rfl

/-! ## Integers in the order of doubles -/

/-- A bit pattern is its sign and its magnitude. -/
theorem toNat_bits (x : Binary64) :
    x.bits.toNat = (if x.isNegative then 2 ^ 63 else 0) + x.magnitude := by
  have hlt := x.bits.toNat_lt
  simp only [isNegative, magnitude, decide_eq_true_eq]
  split <;> omega

/-- No two doubles have one position. -/
theorem totalKey_injective {x y : Binary64} (h : x.totalKey = y.totalKey) : x = y := by
  have hbits : x.bits.toNat = y.bits.toNat := by
    rw [toNat_bits, toNat_bits]
    simp only [totalKey] at h
    grind
  exact congrArg Binary64.mk (UInt64.toNat_inj.1 hbits)

/-- The position of a positive double is its place. -/
theorem Normal.totalKey_positive {place : Nat} {x : UnpackedFloat}
    (h : Normal .positive place x) (hroom : place < 2 ^ 63) :
    (ofFloat (.ofModel (.pack x))).totalKey = place := by
  have hbits : (ofFloat (.ofModel (.pack x))).bits.toNat = place :=
    h.toNat_pack.trans (by change 0 * 2 ^ 63 + place = place; omega)
  simp only [totalKey, isNegative, magnitude, hbits, decide_eq_true_eq]
  rw [if_neg (by omega)]
  omega

/-- A negative double counts down from the negative zero. -/
theorem Normal.totalKey_negative {place : Nat} {x : UnpackedFloat}
    (h : Normal .negative place x) (hroom : place < 2 ^ 63) :
    (ofFloat (.ofModel (.pack x))).totalKey = -(place : Int) - 1 := by
  have hbits : (ofFloat (.ofModel (.pack x))).bits.toNat = 2 ^ 63 + place :=
    h.toNat_pack.trans (by change 1 * 2 ^ 63 + place = _; omega)
  simp only [totalKey, isNegative, magnitude, hbits, decide_eq_true_eq]
  rw [if_pos (by omega)]
  omega

/-- The position of the double of an integer. -/
theorem totalKey_ofInt {i : Int} (h : i.natAbs < 2 ^ 64) :
    (ofInt i).totalKey =
      if i < 0 then -(nearest i.natAbs : Int) - 1 else (nearest i.natAbs : Int) := by
  have hroom := nearest_room h
  cases i with
  | ofNat n =>
      change (ofFloat (Float.ofNat n)).totalKey = nearest n
      by_cases hn : n = 0
      · subst hn
        decide +kernel
      · obtain ⟨x, hx, heq⟩ := normal_ofNat hn h
        rw [← hx.totalKey_positive (Nat.lt_trans hroom (by decide)), ← heq]
  | negSucc n =>
      obtain ⟨x, hx, heq⟩ := normal_ofNat (Nat.succ_ne_zero n) h
      have hneg : (Float.ofNat (n + 1)).neg = .ofModel (.pack x.neg) := by
        change Float.ofModel (.pack (Float.ofNat (n + 1)).toModel.unpack.neg) = _
        rw [heq, hx.unpack_pack]
      change (ofFloat (Float.ofNat (n + 1)).neg).totalKey = _
      rw [hneg, hx.neg.totalKey_negative (Nat.lt_trans hroom (by decide)),
        if_pos (Int.negSucc_lt_zero n)]
      rfl

/-- A greater integer is not a smaller double. -/
theorem totalKey_ofInt_mono {i j : Int} (hi : i.natAbs < 2 ^ 64) (hj : j.natAbs < 2 ^ 64)
    (hle : i ≤ j) : (ofInt i).totalKey ≤ (ofInt j).totalKey := by
  rw [totalKey_ofInt hi, totalKey_ofInt hj]
  split <;> split
  · have := nearest_mono (show j.natAbs ≤ i.natAbs by omega)
    omega
  · omega
  · omega
  · have := nearest_mono (show i.natAbs ≤ j.natAbs by omega)
    omega

/-- Integers up to the fifty-third power of two have doubles of their own. -/
theorem ofInt_injective {i j : Int} (hi : i.natAbs ≤ 2 ^ 53) (hj : j.natAbs ≤ 2 ^ 53)
    (heq : ofInt i = ofInt j) : i = j := by
  have hnearest {m n : Nat} (hm : m ≤ 2 ^ 53) (hn : n ≤ 2 ^ 53) (h : nearest m = nearest n) :
      m = n := by
    rcases Nat.lt_trichotomy m n with hlt | rfl | hlt
    · exact absurd h (Nat.ne_of_lt (nearest_lt hlt hn))
    · rfl
    · exact absurd h.symm (Nat.ne_of_lt (nearest_lt hlt hm))
  have hkey : (ofInt i).totalKey = (ofInt j).totalKey := congrArg totalKey heq
  rw [totalKey_ofInt (by omega), totalKey_ofInt (by omega)] at hkey
  have habs : i.natAbs = j.natAbs := hnearest hi hj (by split at hkey <;> split at hkey <;> omega)
  split at hkey <;> split at hkey <;> omega

end SiteIndex.Binary64
