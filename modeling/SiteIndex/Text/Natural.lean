/-!
# Natural order of texts

Texts compare as people number things: a run of ASCII digits counts by its value, so `page2`
stands before `page10`. A text is cut into its maximal digit runs and its other characters
(`pieces`), and the pieces compare one after the other. Runs of equal value compare by their
length, so that only equal texts compare as equal.
-/

namespace SiteIndex.Text.Natural

/-- A maximal run of digits, or one character that is no digit. -/
inductive Piece where
  | digits (run : List Char)
  | other (c : Char)
  deriving DecidableEq, Repr

/-- Puts a digit in front of a list of pieces, into the run that starts it if there is one. -/
def pushDigit (c : Char) : List Piece → List Piece
  | .digits run :: rest => .digits (c :: run) :: rest
  | rest => .digits [c] :: rest

/-- The maximal digit runs and the other characters of a text, in order. -/
def pieces : List Char → List Piece
  | [] => []
  | c :: cs => if c.isDigit then pushDigit c (pieces cs) else .other c :: pieces cs

/-- Character order is code point order. -/
def compareChar (a b : Char) : Ordering := compare a.toNat b.toNat

/-- Lexicographic order by code points. -/
def compareChars : List Char → List Char → Ordering
  | [], [] => .eq
  | [], _ :: _ => .lt
  | _ :: _, [] => .gt
  | a :: as, b :: bs => (compareChar a b).then (compareChars as bs)

/-- The run without its leading zeros. -/
def significant (run : List Char) : List Char := run.dropWhile (· = '0')

/-- Digit runs compare by value, that is by the count of significant digits and then the
digits; of equal values the longer run is greater. -/
def compareRuns (a b : List Char) : Ordering :=
  ((compare (significant a).length (significant b).length).then
    (compareChars (significant a) (significant b))).then
    (compare a.length b.length)

/-- The first character of a piece; a run is never empty. -/
def Piece.head : Piece → Char
  | .digits run => run.headD '0'
  | .other c => c

/-- Runs compare as numbers, all else by the first character. -/
def Piece.compare : Piece → Piece → Ordering
  | .digits a, .digits b => compareRuns a b
  | a, b => compareChar a.head b.head

/-- Lexicographic order of pieces. -/
def comparePieces : List Piece → List Piece → Ordering
  | [], [] => .eq
  | [], _ :: _ => .lt
  | _ :: _, [] => .gt
  | a :: as, b :: bs => (a.compare b).then (comparePieces as bs)

/-- The natural order of two texts. -/
def compareText (a b : String) : Ordering :=
  comparePieces (pieces a.toList) (pieces b.toList)

/-- `a` stands before `b` or is equal to it. -/
def le (a b : String) : Bool := (compareText a b).isLE

/-- Sorts by a key in natural order; items with equal keys keep their order. -/
def sortBy {α : Type} (key : α → String) (items : List α) : List α :=
  items.mergeSort fun a b => le (key a) (key b)

end SiteIndex.Text.Natural
