/-!
# Random numbers

The generator xoshiro256++ with 256 bits of state. A seed of 64 bits is spread over the state
by a permuted congruential generator, and `Generator.below` draws a number below a bound
without bias, by rejection.
-/

namespace SiteIndex.Random

/-- The state of the generator. -/
structure Generator where
  s0 : UInt64
  s1 : UInt64
  s2 : UInt64
  s3 : UInt64
  deriving DecidableEq, Repr

/-- Rotation of 32 bits to the right. -/
def rotateRight32 (x n : UInt32) : UInt32 :=
  if n = 0 then x else (x >>> n) ||| (x <<< (32 - n))

/-- Rotation of 64 bits to the left by less than 64 places. -/
def rotateLeft64 (x n : UInt64) : UInt64 := (x <<< n) ||| (x >>> (64 - n))

/-- One step of the seeding generator: its next state and a word of 32 bits. -/
def seedStep (x : UInt64) : UInt64 × UInt32 :=
  let x := x * 6364136223846793005 + 11634580027462260723
  (x, rotateRight32 (((x >>> 18) ^^^ x) >>> 27).toUInt32 (x >>> 59).toUInt32)

/-- A word of 64 bits of the seed, low half first. -/
def seedWord (x : UInt64) : UInt64 × UInt64 :=
  let (x, low) := seedStep x
  let (x, high) := seedStep x
  (x, (high.toUInt64 <<< 32) ||| low.toUInt64)

namespace Generator

/-- The generator of a seed. -/
def ofSeed (seed : UInt64) : Generator :=
  let (x, s0) := seedWord seed
  let (x, s1) := seedWord x
  let (x, s2) := seedWord x
  let (_, s3) := seedWord x
  ⟨s0, s1, s2, s3⟩

/-- The next word of 64 bits. -/
def next (g : Generator) : UInt64 × Generator :=
  let word := rotateLeft64 (g.s0 + g.s3) 23 + g.s0
  let t := g.s1 <<< 17
  let s2 := g.s2 ^^^ g.s0
  let s3 := g.s3 ^^^ g.s1
  (word, ⟨g.s0 ^^^ s3, g.s1 ^^^ s2, s2 ^^^ t, rotateLeft64 s3 45⟩)

/-- Draws until the low half of the product with the bound lies in the zone where every
number below the bound is as likely as any other, at most `tries` times more. -/
def drawBelow (bound zone : Nat) : Nat → Generator → Nat × Generator
  | tries, g =>
    let (word, g) := g.next
    let product := word.toNat * bound
    match tries with
    | 0 => (product / 0x10000000000000000, g)
    | tries + 1 =>
      if product % 0x10000000000000000 ≤ zone then (product / 0x10000000000000000, g)
      else drawBelow bound zone tries g

/-- The number of zero bits in front of a number of 64 bits. -/
def leadingZeros (n : Nat) : Nat := if n = 0 then 64 else 63 - n.log2

/-- A number below a positive bound. Each draw is accepted with a chance of at least one half,
so that a limit of so many draws is never met. -/
def below (bound : Nat) (g : Generator) : Nat × Generator :=
  drawBelow bound (bound * Nat.pow 2 (leadingZeros bound) - 1) 1000 g

end Generator

end SiteIndex.Random
