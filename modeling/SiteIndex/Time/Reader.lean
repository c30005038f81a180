import SiteIndex.Text.Blank
import SiteIndex.Time.Instant

/-!
# Reading points in time

`Instant.read?` accepts what people write: RFC 3339, a date and a time of day separated by
blanks, or a bare date, which means midnight; the latter two are in universal time.
`Instant.ofRfc3339?` accepts RFC 3339 alone and `Instant.ofStored?` the looser form in which
stored instants are read back.
-/

namespace SiteIndex.Time

/-- A reader consumes the front of a text or fails. -/
abbrev Scan := StateT (List Char) Option

namespace Scan

/-- Between `least` and `most` decimal digits, as many as there are. -/
def digits (least : Nat) (most : Option Nat) : Scan (List Char) := fun cs =>
  let run := cs.takeWhile Char.isDigit
  let run := match most with
    | some most => run.take most
    | none => run
  if run.length < least then none else some (run, cs.drop run.length)

/-- The number written by between `least` and `most` digits. -/
def number (least : Nat) (most : Option Nat) : Scan Nat := do
  let run ← digits least most
  return run.foldl (fun n c => 10 * n + (c.toNat - '0'.toNat)) 0

/-- One character of a class. -/
def satisfy (accept : Char → Bool) : Scan Char
  | [] => none
  | c :: cs => if accept c then some (c, cs) else none

/-- One given character. -/
def char (c : Char) : Scan Unit := do let _ ← satisfy (· == c)

/-- Any number of characters of a class. -/
def skipWhile (accept : Char → Bool) : Scan Unit := fun cs => some ((), cs.dropWhile accept)

/-- Any number of blanks. -/
def blanks : Scan Unit := skipWhile Text.isBlank

/-- The next character, if there is one. -/
def peek : Scan (Option Char) := fun cs => some (cs.head?, cs)

/-- The end of the text. -/
def finish : Scan Unit
  | [] => some ((), [])
  | _ :: _ => none

/-- A number of at most two digits after blanks. -/
def field : Scan Nat := do blanks; number 1 (some 2)

/-- A year after blanks: up to four digits, or a sign and any number of digits. -/
def year : Scan Int := do
  blanks
  match ← peek with
  | some '-' => char '-'; return -((← number 1 none) : Int)
  | some '+' => char '+'; return ((← number 1 none) : Int)
  | _ => return ((← number 1 (some 4)) : Int)

/-- A year, a month and a day parted by hyphens; `gap` stands before each hyphen. -/
def date (gap : Scan Unit) : Scan Date := do
  let year ← year
  gap; char '-'
  let month ← field
  gap; char '-'
  let day ← field
  return { year, month, day }

/-- Hours, minutes and seconds parted by colons; `gap` stands before each colon. -/
def clock (gap : Scan Unit) : Scan (Nat × Nat × Nat) := do
  let hour ← field
  gap; char ':'
  let minute ← field
  gap; char ':'
  let second ← field
  return (hour, minute, second)

/-- A point and the digits of a fraction of a second, of which the first nine count. -/
def fraction : Scan Nat := do
  match ← peek with
  | some '.' =>
    char '.'
    let run ← digits 1 none
    let run := run.take 9
    return (run ++ List.replicate (9 - run.length) '0').foldl
      (fun n c => 10 * n + (c.toNat - '0'.toNat)) 0
  | _ => return 0

/-- The separator between a date and a time of day. -/
def dateTimeMark : Scan Unit := do let _ ← satisfy fun c => c = 'T' || c = 't' || c = ' '

/-- An offset from universal time in seconds: the letter Z, or a sign, two digits for the
hours and two for the minutes with `colon` between. The minus sign may be the hyphen or
U+2212. -/
def offset (colon : Scan Unit) : Scan Int := do
  match ← satisfy fun c => c = 'Z' || c = 'z' || c = '+' || c = '-' || c = '\u2212' with
  | 'Z' | 'z' => return 0
  | sign =>
    let hours ← number 2 (some 2)
    colon
    let minutes ← number 2 (some 2)
    if 60 ≤ minutes then failure
    let seconds : Int := (hours * 3600 + minutes * 60 : Nat)
    return if sign = '+' then seconds else -seconds

end Scan

open Scan

namespace Instant

/-- Reads RFC 3339 up to the end of the text. -/
def rfc3339 : Scan Instant := do
  let year ← number 4 (some 4)
  char '-'
  let month ← number 2 (some 2)
  char '-'
  let day ← number 2 (some 2)
  dateTimeMark
  let hour ← number 2 (some 2)
  char ':'
  let minute ← number 2 (some 2)
  char ':'
  let second ← number 2 (some 2)
  let nanos ← fraction
  let shift ← offset (char ':')
  finish
  if shift.natAbs ≤ 86340 then ofLocal? ⟨year, month, day⟩ hour minute second nanos shift
  else failure

/-- Reads a date and a time of day in universal time. -/
def dateAndTime : Scan Instant := do
  let date ← date (pure ())
  blanks
  let (hour, minute, second) ← clock (pure ())
  finish
  ofLocal? date hour minute second 0 0

/-- Reads a date, which stands for its midnight in universal time. -/
def bareDate : Scan Instant := do
  let date ← date (pure ())
  finish
  ofLocal? date 0 0 0 0 0

/-- The offset of a stored instant: the letters UTC or an offset with any separators. -/
def storedOffset : Scan Int := fun cs =>
  if (cs.take 3).map Char.toUpper = ['U', 'T', 'C'] then some (0, cs.drop 3)
  else offset (skipWhile fun c => c = ':' || Text.isBlank c) cs

/-- Reads the form in which instants are stored, with blanks allowed around its marks. -/
def stored : Scan Instant := do
  let date ← date blanks
  dateTimeMark
  let (hour, minute, second) ← clock blanks
  let nanos ← fraction
  blanks
  let shift ← storedOffset
  blanks
  finish
  if shift.natAbs < 86400 then ofLocal? date hour minute second nanos shift else failure

/-- The instant that an RFC 3339 text denotes. -/
def ofRfc3339? (text : String) : Option Instant := (rfc3339 text.toList).map (·.1)

/-- The instant that a stored text denotes. -/
def ofStored? (text : String) : Option Instant := (stored text.toList).map (·.1)

/-- The instant that a text denotes; blanks around it do not count. -/
def read? (text : String) : Option Instant :=
  let cs := Text.trimChars text.toList
  ((rfc3339 cs <|> dateAndTime cs) <|> bareDate cs).map (·.1)

end Instant

end SiteIndex.Time
