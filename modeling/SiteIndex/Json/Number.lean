import SiteIndex.Binary64.Read
import SiteIndex.Json

/-!
# Numbers in JSON texts

A number without fraction and exponent that fits sixty-four bits is an integer, every other
number is a float. The digits of a float are gathered into a significand of sixty-four bits,
and the power of ten is applied by one multiplication or division. `Number.read?` reads a
number from the front of a text.
-/

namespace SiteIndex.Json.Number

/-- Digits of a number: the significand and the power of ten that scales it. -/
structure Scaled where
  significand : Nat
  exponent : Int
  deriving Repr, DecidableEq

/-- The value of a digit. -/
def digit (c : Char) : Nat := c.toNat - '0'.toNat

/-- Another digit fits the sixty-four bits of the significand. -/
def fits (significand : Nat) (c : Char) : Bool := 10 * significand + digit c < 0x10000000000000000

/-- The digits before the point. From the first digit that does not fit on, each one only
scales the number. -/
def whole (significand : Nat) : List Char → Scaled
  | [] => ⟨significand, 0⟩
  | c :: cs =>
    if fits significand c then whole (10 * significand + digit c) cs
    else ⟨significand, cs.length + 1⟩

/-- The digits after the point. Those from the first one on that does not fit are dropped. -/
def fraction (number : Scaled) : List Char → Scaled
  | [] => number
  | c :: cs =>
    if fits number.significand c then
      fraction ⟨10 * number.significand + digit c, number.exponent - 1⟩ cs
    else number

/-- A power of ten as a double. -/
def powerOfTen (n : Nat) : Binary64 := .ofDecimal false 1 n

/-- The double of scaled digits. There is none above the largest double. -/
def Scaled.toFloat? (number : Scaled) : Option Binary64 :=
  let start := Binary64.ofNat number.significand
  if number.significand = 0 then some .zero
  else if 308 < number.exponent then none
  else if 0 ≤ number.exponent then
    let product := start * powerOfTen number.exponent.toNat
    if product.isInfinite then none else some product
  else if -308 ≤ number.exponent then some (start / powerOfTen (-number.exponent).toNat)
  else if -616 ≤ number.exponent then
    some (start / powerOfTen 308 / powerOfTen (-number.exponent - 308).toNat)
  else some .zero

/-- The integers that keep being integers: those of sixty-four bits, with or without a sign,
and not -0. -/
def isIntegral (negative : Bool) (n : Nat) : Bool :=
  if negative then 0 < n && n ≤ 0x8000000000000000 else n < 0x10000000000000000

/-- A float with its sign. -/
def signed (negative : Bool) (x : Binary64) : Json := .float (if negative then -x else x)

/-- An exponent with its sign. -/
def exponent? : List Char → Option (Int × List Char)
  | [] => none
  | c :: rest =>
    let (negative, cs) := if c = '-' then (true, rest) else if c = '+' then (false, rest)
      else (false, c :: rest)
    let digits := cs.takeWhile Char.isDigit
    let n : Int := Binary64.digitsValue digits
    if digits.isEmpty then none
    else some (if negative then -n else n, cs.dropWhile Char.isDigit)

/-- The rest of a number after its digits before the point. -/
def tail? (negative : Bool) (digits : List Char) : List Char → Option (Json × List Char)
  | '.' :: rest => do
    let decimals := rest.takeWhile Char.isDigit
    if decimals.isEmpty then none
    else scale (fraction (whole 0 digits) decimals) (rest.dropWhile Char.isDigit)
  | rest@(c :: _) =>
    if c = 'e' || c = 'E' then scale (whole 0 digits) rest else integer rest
  | [] => integer []
where
  /-- A number without a fraction and an exponent. -/
  integer (rest : List Char) : Option (Json × List Char) := do
    let n := Binary64.digitsValue digits
    if isIntegral negative n then some (.int (if negative then -n else n), rest)
    else some (signed negative (← (whole 0 digits).toFloat?), rest)
  /-- Applies the exponent, if there is one. -/
  scale (number : Scaled) : List Char → Option (Json × List Char)
    | c :: rest => do
      if c = 'e' || c = 'E' then
        let (e, rest) ← exponent? rest
        some (signed negative (← { number with exponent := number.exponent + e }.toFloat?), rest)
      else some (signed negative (← number.toFloat?), c :: rest)
    | [] => do some (signed negative (← number.toFloat?), [])

/-- A number from the front of a text. A zero in front stands alone. -/
def read? (cs : List Char) : Option (Json × List Char) :=
  let (negative, cs) := match cs with
    | '-' :: rest => (true, rest)
    | _ => (false, cs)
  let digits := cs.takeWhile Char.isDigit
  match digits with
  | [] => none
  | '0' :: _ :: _ => none
  | _ => tail? negative digits (cs.dropWhile Char.isDigit)

end SiteIndex.Json.Number
