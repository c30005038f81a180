import SiteIndex.Time.Calendar

/-!
# Points in time

An `Instant` is a moment of Coordinated Universal Time to the nanosecond: a day, a second of
that day and a fraction. A leap second is the second before it with a fraction of a second or
more. `Instant.text` writes the instant as RFC 3339 does.
-/

namespace SiteIndex.Time

/-- A moment of Coordinated Universal Time. -/
structure Instant where
  /-- Days since 1970-01-01. -/
  day : Int
  /-- The second of the day. -/
  second : Fin 86400
  /-- Nanoseconds; a value of a second or more stands for a leap second. -/
  nanos : Fin 2000000000
  deriving DecidableEq, Repr

namespace Instant

/-- The first moment of 1970. -/
def epoch : Instant := ⟨0, ⟨0, by decide⟩, ⟨0, by decide⟩⟩

/-- Earlier before later. -/
def compareTo (a b : Instant) : Ordering :=
  ((compare a.day b.day).then (compare a.second.val b.second.val)).then
    (compare a.nanos.val b.nanos.val)

/-- Decimal digits with zeros in front up to a width. -/
def padded (width n : Nat) : String :=
  let digits := Nat.toDigits 10 n
  .ofList (List.replicate (width - digits.length) '0' ++ digits)

/-- Four digits, and a sign before a year of more or a negative one. -/
def yearText (year : Int) : String :=
  if year < 0 then "-" ++ padded 4 year.natAbs
  else if year ≤ 9999 then padded 4 year.toNat
  else "+" ++ padded 4 year.toNat

/-- No digits for a whole second, else three, six or nine, the fewest that are exact. -/
def fractionText (nanos : Nat) : String :=
  if nanos = 0 then ""
  else if nanos % 1000000 = 0 then "." ++ padded 3 (nanos / 1000000)
  else if nanos % 1000 = 0 then "." ++ padded 6 (nanos / 1000)
  else "." ++ padded 9 nanos

/-- The date and the time of day; second 60 is a leap second. -/
def localText (t : Instant) : String :=
  let date := Date.ofDays t.day
  let second := t.second.val
  yearText date.year ++ "-" ++ padded 2 date.month ++ "-" ++ padded 2 date.day ++ "T"
    ++ padded 2 (second / 3600) ++ ":" ++ padded 2 (second / 60 % 60) ++ ":"
    ++ padded 2 (second % 60 + t.nanos.val / 1000000000)
    ++ fractionText (t.nanos.val % 1000000000)

/-- RFC 3339 with a numeric offset, which is always zero. -/
def text (t : Instant) : String := t.localText ++ "+00:00"

/-- RFC 3339 with the letter for a zero offset, the form in which instants are stored. -/
def storedText (t : Instant) : String := t.localText ++ "Z"

/-- The instant of a local date and time that is `offset` seconds ahead of universal time. A
second of 60 is the leap second after 59. Fails where the date, the time or the universal
date does not exist. -/
def ofLocal? (date : Date) (hour minute second nanos : Nat) (offset : Int) : Option Instant :=
  if date.isValid && hour < 24 && minute < 60 && second ≤ 60 && nanos < 1000000000 then
    let whole := min second 59
    let fraction := if second = 60 then 1000000000 + nanos else nanos
    let total : Int := date.toDays * 86400 + (hour * 3600 + minute * 60 + whole : Nat) - offset
    let day := total / 86400
    if Date.yearInRange (Date.ofDays day).year then
      some ⟨day, .ofNat 86400 (total % 86400).toNat, .ofNat 2000000000 fraction⟩
    else none
  else none

end Instant

end SiteIndex.Time
