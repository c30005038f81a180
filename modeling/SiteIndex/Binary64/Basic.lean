/-!
# Floating point numbers as bit patterns

A `Binary64` is a double kept as its sixty-four bits, so that equality of Lean values is
identity of the stored number: the two zeros differ, and every NaN equals itself. Arithmetic
goes through `Float`. Numbers compare in two ways, by `sameNumber` as arithmetic does and by
`compareTotal`, a total order of all bit patterns.
-/

namespace SiteIndex

/-- A double as its bit pattern. -/
structure Binary64 where
  bits : UInt64
  deriving DecidableEq, Repr, Inhabited

namespace Binary64

/-- The bit pattern of a float. -/
def ofFloat (x : Float) : Binary64 := ⟨x.toBits⟩

/-- The float with the bit pattern. -/
def toFloat (x : Binary64) : Float := .ofBits x.bits

/-- The sign bit is set. -/
def isNegative (x : Binary64) : Bool := x.bits.toNat ≥ 0x8000000000000000

/-- The bits below the sign. -/
def magnitude (x : Binary64) : Nat := x.bits.toNat % 0x8000000000000000

/-- The eleven exponent bits. -/
def exponentField (x : Binary64) : Nat := x.magnitude / 0x10000000000000

/-- The fifty-two fraction bits. -/
def fractionField (x : Binary64) : Nat := x.magnitude % 0x10000000000000

/-- Not a number. -/
def isNaN (x : Binary64) : Bool := x.exponentField = 2047 && x.fractionField ≠ 0

/-- One of the two infinities. -/
def isInfinite (x : Binary64) : Bool := x.exponentField = 2047 && x.fractionField = 0

/-- Neither an infinity nor a NaN. -/
def isFinite (x : Binary64) : Bool := x.exponentField < 2047

/-- The number with the sign bit set if `negative`. -/
def withSign (negative : Bool) (magnitude : Nat) : Binary64 :=
  ⟨.ofNat (if negative then 0x8000000000000000 + magnitude else magnitude)⟩

/-- Positive zero. -/
def zero : Binary64 := ⟨0⟩

/-- An infinity. -/
def infinity (negative : Bool) : Binary64 := withSign negative 0x7FF0000000000000

/-- The quiet NaN without payload. -/
def nan (negative : Bool) : Binary64 := withSign negative 0x7FF8000000000000

/-- The number with the other sign. -/
def neg (x : Binary64) : Binary64 := withSign (!x.isNegative) x.magnitude

/-- Equality of arithmetic: a NaN equals nothing and the two zeros are equal. -/
def sameNumber (x y : Binary64) : Bool :=
  !x.isNaN && !y.isNaN && (x == y || (x.magnitude = 0 && y.magnitude = 0))

/-- The position of a bit pattern in the total order of doubles. -/
def totalKey (x : Binary64) : Int :=
  if x.isNegative then -(x.magnitude : Int) - 1 else x.magnitude

/-- The total order of doubles: negative NaNs first, then the numbers by value with -0 below
0, then the positive NaNs. -/
def compareTotal (x y : Binary64) : Ordering := compare x.totalKey y.totalKey

/-- The double nearest to an integer, ties to even. -/
def ofInt (n : Int) : Binary64 := ofFloat (Float.ofInt n)

/-- The double nearest to a natural number, ties to even. -/
def ofNat (n : Nat) : Binary64 := ofFloat (Float.ofNat n)

/-- Sum. -/
def add (x y : Binary64) : Binary64 := ofFloat (x.toFloat + y.toFloat)

/-- Product. -/
def mul (x y : Binary64) : Binary64 := ofFloat (x.toFloat * y.toFloat)

/-- Quotient. -/
def div (x y : Binary64) : Binary64 := ofFloat (x.toFloat / y.toFloat)

instance : Add Binary64 := ⟨add⟩
instance : Mul Binary64 := ⟨mul⟩
instance : Div Binary64 := ⟨div⟩
instance : Neg Binary64 := ⟨neg⟩

/-- The integer significand of a finite number. -/
def significand (x : Binary64) : Nat :=
  if x.exponentField = 0 then x.fractionField else 0x10000000000000 + x.fractionField

/-- The power of two that scales the significand: a finite number is
`significand * 2 ^ scale` up to its sign. -/
def scale (x : Binary64) : Int :=
  if x.exponentField = 0 then -1074 else (x.exponentField : Int) - 1075

/-- A finite number's absolute value as a quotient of natural numbers. -/
def ratio (x : Binary64) : Nat × Nat :=
  (x.significand * Nat.pow 2 x.scale.toNat, Nat.pow 2 (-x.scale).toNat)

/-- The double nearest to `digits * 10 ^ exponent`, ties to even, with the given sign. -/
def ofDecimal (negative : Bool) (digits : Nat) (exponent : Int) : Binary64 :=
  let count : Int := (Nat.toDigits 10 digits).length
  let magnitude :=
    if digits = 0 ∨ count + exponent < -330 then 0
    else if 310 < count + exponent then 0x7FF0000000000000
    else (ofFloat (Float.ofScientific digits (exponent < 0) exponent.natAbs)).magnitude
  withSign negative magnitude

end Binary64

end SiteIndex
