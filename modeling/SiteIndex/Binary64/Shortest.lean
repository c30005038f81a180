import SiteIndex.Binary64.Basic

/-!
# Shortest decimal text of a double

`Binary64.shortest` finds the decimal with the fewest digits that reads back as a given
number, and of those the one nearest to it; all arithmetic is exact. `Binary64.text` writes
it positionally, without an exponent and without a point for whole numbers.
-/

namespace SiteIndex.Binary64

/-- A positive decimal `digits * 10 ^ exponent`. -/
structure Decimal where
  digits : Nat
  exponent : Int
  deriving DecidableEq, Repr

/-- The reals that round to a number, as multiples of a common denominator: the number
itself, the bounds, and whether the bounds round to it too. -/
structure Rounding where
  value : Nat
  low : Nat
  high : Nat
  unit : Nat
  closed : Bool

/-- The interval around a positive finite number. Below a power of two the neighbours lie
half as far apart. -/
def rounding (x : Binary64) : Rounding :=
  let (num, den) := x.ratio
  let quarter := Nat.pow 2 x.scale.toNat
  let narrow := x.fractionField = 0 && 1 < x.exponentField
  { value := 4 * num
    low := 4 * num - (if narrow then quarter else 2 * quarter)
    high := 4 * num + 2 * quarter
    unit := 4 * den
    closed := x.significand % 2 = 0 }

/-- The decimal lies in the interval. -/
def Rounding.holds (r : Rounding) (d : Decimal) : Bool :=
  let scaled := d.digits * Nat.pow 10 d.exponent.toNat * r.unit
  let factor := Nat.pow 10 (-d.exponent).toNat
  if r.closed then r.low * factor ≤ scaled && scaled ≤ r.high * factor
  else r.low * factor < scaled && scaled < r.high * factor

/-- Twice the value lies nearer to the upper than to the lower of two neighbouring points of
the grid `10 ^ exponent`. -/
def Rounding.nearerAbove (r : Rounding) (below : Nat) (exponent : Int) : Bool :=
  let scaled := (2 * below + 1) * Nat.pow 10 exponent.toNat * r.unit
  scaled < 2 * r.value * Nat.pow 10 (-exponent).toNat

/-- The point of the grid `10 ^ exponent` that lies in the interval, the nearer one of two. -/
def Rounding.onGrid? (r : Rounding) (exponent : Int) : Option Decimal :=
  let below := r.value * Nat.pow 10 (-exponent).toNat / (r.unit * Nat.pow 10 exponent.toNat)
  let floor : Decimal := ⟨below, exponent⟩
  let ceiling : Decimal := ⟨below + 1, exponent⟩
  match 0 < below && r.holds floor, r.holds ceiling with
  | true, true => some (if r.nearerAbove below exponent then ceiling else floor)
  | true, false => some floor
  | false, true => some ceiling
  | false, false => none

/-- The exponent of the leading decimal digit of the value. -/
def Rounding.leading (r : Rounding) : Int :=
  ((Nat.toDigits 10 (r.value * Nat.pow 10 340 / r.unit)).length : Int) - 341

/-- The decimal without trailing zeros among its digits. -/
def Decimal.strip (d : Decimal) : Decimal :=
  if h : d.digits ≠ 0 ∧ d.digits % 10 = 0 then
    Decimal.strip ⟨d.digits / 10, d.exponent + 1⟩
  else d
termination_by d.digits
decreasing_by exact Nat.div_lt_self (by omega) (by omega)

/-- The shortest decimal that reads back as the positive finite number, nearest of those. -/
def shortest (x : Binary64) : Decimal :=
  let r := x.rounding
  (((List.range 17).findSome? fun (n : Nat) => r.onGrid? (r.leading - (n : Int))).getD
    ⟨r.value / r.unit, 0⟩).strip

/-- Positional text of a decimal. -/
def Decimal.text (d : Decimal) : String :=
  let digits := Nat.toDigits 10 d.digits
  if 0 ≤ d.exponent then .ofList (digits ++ List.replicate d.exponent.toNat '0')
  else
    let places := d.exponent.natAbs
    let padded := List.replicate (places + 1 - digits.length) '0' ++ digits
    .ofList (padded.take (padded.length - places) ++ '.' :: padded.drop (padded.length - places))

/-- The text of a double: shortest digits, positional, `-0` for negative zero, and the words
`NaN`, `inf` and `-inf`. -/
def text (x : Binary64) : String :=
  if x.isNaN then "NaN"
  else
    let body :=
      if x.isInfinite then "inf" else if x.magnitude = 0 then "0" else x.shortest.text
    if x.isNegative then "-" ++ body else body

end SiteIndex.Binary64
