import SiteIndex.Binary64.Read
import SiteIndex.Text.Blank
import SiteIndex.Time.Instant

/-!
# Lengths of time

A `Span` is a number of seconds and nanoseconds. It is written with units, as in `1h30m` or
`1.5s` (`Span.text`), and read from a sum of such amounts (`Span.read?`), which are added as
doubles and rounded to the nearest nanosecond at the end.
-/

namespace SiteIndex.Time

/-- A length of time to the nanosecond. -/
structure Span where
  seconds : UInt64
  nanos : Fin 1000000000
  deriving DecidableEq, Repr

namespace Span

/-- Shorter before longer. -/
def compareTo (a b : Span) : Ordering :=
  (compare a.seconds.toNat b.seconds.toNat).then (compare a.nanos.val b.nanos.val)

/-- The digits of a fraction of a second after a point, without zeros at the end. -/
def fractionText (nanos : Nat) : String :=
  "." ++ .ofList (((Instant.padded 9 nanos).toList.reverse.dropWhile (· = '0')).reverse)

/-- Hours and minutes where there are any, then seconds unless they are zero. -/
def text (d : Span) : String :=
  let total := d.seconds.toNat
  let hours := total / 3600
  let minutes := total % 3600 / 60
  let seconds := total % 60
  let large := (if hours > 0 then toString hours ++ "h" else "")
    ++ (if minutes > 0 then toString minutes ++ "m" else "")
  if d.nanos.val > 0 then large ++ toString seconds ++ fractionText d.nanos.val ++ "s"
  else if seconds > 0 ∨ large = "" then large ++ toString seconds ++ "s"
  else large

/-- The units of an amount of time. -/
inductive TimeUnit where
  | nanosecond | microsecond | millisecond | second | minute | hour
  deriving DecidableEq, Repr

/-- An amount of a unit in seconds. -/
def TimeUnit.inSeconds (amount : Binary64) : TimeUnit → Binary64
  | .nanosecond => amount / .ofNat 1000000000
  | .microsecond => amount / .ofNat 1000000
  | .millisecond => amount / .ofNat 1000
  | .second => amount
  | .minute => amount * .ofNat 60
  | .hour => amount * .ofNat 3600

/-- The unit in front of a text and the text after it; milliseconds go before minutes. -/
def TimeUnit.split? : List Char → Option (TimeUnit × List Char)
  | 'n' :: 's' :: rest => some (.nanosecond, rest)
  | 'u' :: 's' :: rest => some (.microsecond, rest)
  | 'µ' :: 's' :: rest => some (.microsecond, rest)
  | 'm' :: 's' :: rest => some (.millisecond, rest)
  | 's' :: rest => some (.second, rest)
  | 'm' :: rest => some (.minute, rest)
  | 'h' :: rest => some (.hour, rest)
  | _ => none

/-- Digits with an optional point and digits after it, and the text after them. -/
def splitAmount (cs : List Char) : List Char × List Char :=
  let whole := cs.takeWhile Char.isDigit
  match cs.dropWhile Char.isDigit with
  | '.' :: rest =>
    let fraction := rest.takeWhile Char.isDigit
    if fraction.isEmpty then (whole, '.' :: rest)
    else (whole ++ '.' :: fraction, rest.dropWhile Char.isDigit)
  | rest => (whole, rest)

/-- An amount with its unit in seconds, and the text after it. -/
def splitTerm? (cs : List Char) : Option (Binary64 × List Char) := do
  let (amount, rest) := splitAmount cs
  let amount ← Binary64.readDecimal? false amount
  let (unit, rest) ← TimeUnit.split? rest
  return (unit.inSeconds amount, rest)

/-- The sum in seconds of the amounts that make up a text, added from the left. A text has
no more amounts than characters, so as much fuel is enough. -/
def sumTerms? : Nat → Binary64 → List Char → Option Binary64
  | _, total, [] => some total
  | 0, _, _ :: _ => none
  | fuel + 1, total, cs => do
    let (seconds, rest) ← splitTerm? cs
    sumTerms? fuel (total + seconds) rest

/-- A quotient rounded to the nearest natural number, ties to even. -/
def divNearest (num den : Nat) : Nat :=
  let whole := num / den
  let twice := 2 * (num % den)
  if twice < den ∨ (twice = den ∧ whole % 2 = 0) then whole else whole + 1

/-- The span nearest to a number of seconds that is not negative, if it has less than 2^64
seconds. -/
def ofSeconds? (seconds : Binary64) : Option Span :=
  if seconds.isFinite then
    let (num, den) := seconds.ratio
    let total := divNearest (num * 1000000000) den
    if total < 0x10000000000000000 * 1000000000 then
      some ⟨.ofNat (total / 1000000000), .ofNat 1000000000 (total % 1000000000)⟩
    else none
  else none

/-- The span that a text denotes: a sum of amounts such as `1h30m` or `1.5h`. Blanks may
stand around it but not within. -/
def read? (text : String) : Option Span :=
  match Text.trimChars text.toList with
  | [] => none
  | cs => do ofSeconds? (← sumTerms? cs.length .zero cs)

end Span

end SiteIndex.Time
