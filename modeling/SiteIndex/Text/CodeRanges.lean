/-!
# Sets of code points

A set of code points is a list of closed ranges in ascending order. `CodeRanges.contains`
looks a character up, and `CodeRanges.ofText` reads a table from its written form:
hexadecimal ranges such as `41-5A` and single code points such as `AA`, separated by blanks.
-/

namespace SiteIndex.Text

/-- Ascending, disjoint closed ranges of code points. -/
structure CodeRanges where
  ranges : List (Nat × Nat)

namespace CodeRanges

/-- Looks a code point up; a range that starts above it ends the search. -/
def mem (c : Nat) : List (Nat × Nat) → Bool
  | [] => false
  | (low, high) :: rest => if c < low then false else c ≤ high || mem c rest

/-- The character lies in one of the ranges. -/
def contains (table : CodeRanges) (c : Char) : Bool := mem c.toNat table.ranges

/-- The value of a hexadecimal digit. -/
def hexValue (c : Char) : Nat :=
  if c.isDigit then c.toNat - '0'.toNat else c.toNat - 'A'.toNat + 10

/-- Reads a range whose bounds are joined by a hyphen, or a single code point.
`low` is the bound before the hyphen, once it is seen, and `value` the digits since. -/
def readRanges (low : Option Nat) (value : Nat) : List Char → List (Nat × Nat)
  | [] => [(low.getD value, value)]
  | '-' :: rest => readRanges (some value) 0 rest
  | c :: rest =>
    if c.isWhitespace then
      match low, value with
      | none, 0 => readRanges none 0 rest
      | _, _ => (low.getD value, value) :: readRanges none 0 rest
    else readRanges low (16 * value + hexValue c) rest

/-- The table written as hexadecimal ranges separated by blanks. -/
def ofText (text : String) : CodeRanges := ⟨readRanges none 0 text.toList⟩

end CodeRanges

end SiteIndex.Text
