import SiteIndex.Text.Class
import SiteIndex.Text.WordBreakTables

/-!
# Words of a text

The default word boundaries of Unicode (UAX #29). `segments` cuts a text at every boundary,
so that the segments joined again are the text; `words` keeps the segments that hold a letter
or a number, each with its byte offset.
-/

namespace SiteIndex.Text

namespace WordBreak

/-- The classes of characters that the boundary rules tell apart. -/
inductive Class where
  | carriageReturn | lineFeed | newline
  | extend | joiner | format
  | regional | letter | hebrewLetter | numeric | katakana | connector
  | midLetter | midNumber | midBoth | singleQuote | doubleQuote
  | space | pictographic | other
  deriving DecidableEq, Repr

/-- The class of a character outside the tables' first rows. -/
def classOfTables (c : Char) : Class :=
  if letter.contains c then .letter
  else if numeric.contains c then .numeric
  else if extend.contains c then .extend
  else if katakana.contains c then .katakana
  else if hebrewLetter.contains c then .hebrewLetter
  else if connector.contains c then .connector
  else if midLetter.contains c then .midLetter
  else if midNumber.contains c then .midNumber
  else if midBoth.contains c then .midBoth
  else if newline.contains c then .newline
  else if format.contains c then .format
  else if space.contains c then .space
  else if pictographic.contains c then .pictographic
  else .other

/-- The class of a character. -/
def classOf (c : Char) : Class :=
  if c = '\r' then .carriageReturn
  else if c = '\n' then .lineFeed
  else if c = '\'' then .singleQuote
  else if c = '"' then .doubleQuote
  else if c = '\u200D' then .joiner
  else if 0x1F1E6 ≤ c.toNat ∧ c.toNat ≤ 0x1F1FF then .regional
  else classOfTables c

namespace Class

/-- Line ends, around which there is always a boundary. -/
def isLineEnd (k : Class) : Bool := k = .carriageReturn || k = .lineFeed || k = .newline

/-- Classes that attach to the character before them and are skipped by the other rules. -/
def isIgnored (k : Class) : Bool := k = .extend || k = .joiner || k = .format

/-- Letters of an alphabet. -/
def isLetter (k : Class) : Bool := k = .letter || k = .hebrewLetter

/-- Marks that join two letters. -/
def joinsLetters (k : Class) : Bool := k = .midLetter || k = .midBoth || k = .singleQuote

/-- Marks that join two digits. -/
def joinsDigits (k : Class) : Bool := k = .midNumber || k = .midBoth || k = .singleQuote

end Class

/-- What the rules look at to the left of a position. -/
structure Context where
  /-- The class of the character right before the position. -/
  previous : Option Class := none
  /-- The class of the last character that is not skipped. -/
  base : Option Class := none
  /-- The class of the one before it. -/
  beforeBase : Option Class := none
  /-- Whether an odd number of regional indicators ends here. -/
  oddRegional : Bool := false

/-- An ignored class is skipped unless it starts the text or a line. -/
def Context.skips (ctx : Context) (k : Class) : Bool :=
  k.isIgnored && ctx.previous.any (!·.isLineEnd)

/-- The context one character further. -/
def Context.push (ctx : Context) (k : Class) : Context :=
  if ctx.skips k then { ctx with previous := some k }
  else
    { previous := some k, base := some k, beforeBase := ctx.base,
      oddRegional := k = .regional && !ctx.oddRegional }

/-- The first class that is not skipped. -/
def nextBase (rest : List (Char × Class)) : Option Class :=
  ((rest.map (·.2)).dropWhile Class.isIgnored).head?

/-- The rules that join two characters of words: the class `base` on the left, with
`beforeBase` to its left, and `k` on the right, with `following` to its right. -/
def joinsWord (beforeBase : Option Class) (base k : Class) (following : Option Class) : Bool :=
  (base.isLetter && k.isLetter)
  || (base.isLetter && k.joinsLetters && following.any (·.isLetter))
  || (base.joinsLetters && k.isLetter && beforeBase.any (·.isLetter))
  || (base = .hebrewLetter && k = .singleQuote)
  || (base = .hebrewLetter && k = .doubleQuote && following = some .hebrewLetter)
  || (base = .doubleQuote && k = .hebrewLetter && beforeBase = some .hebrewLetter)
  || (base = .numeric && k = .numeric)
  || (base.isLetter && k = .numeric)
  || (base = .numeric && k.isLetter)
  || (base.joinsDigits && k = .numeric && beforeBase = some .numeric)
  || (base = .numeric && k.joinsDigits && following = some .numeric)
  || (base = .katakana && k = .katakana)
  || ((base.isLetter || base = .numeric || base = .katakana || base = .connector)
        && k = .connector)
  || (base = .connector && (k.isLetter || k = .numeric || k = .katakana))

/-- There is a boundary before the character of class `k`. -/
def Context.breaksBefore (ctx : Context) (k : Class) (rest : List (Char × Class)) : Bool :=
  match ctx.previous, ctx.base with
  | some previous, some base =>
    if previous = .carriageReturn && k = .lineFeed then false
    else if previous.isLineEnd || k.isLineEnd then true
    else if previous = .joiner && k = .pictographic then false
    else if previous = .space && k = .space then false
    else if k.isIgnored then false
    else if ctx.oddRegional && k = .regional then false
    else !joinsWord ctx.beforeBase base k (nextBase rest)
  | _, _ => false

/-- The rest of the segment that is being read, and the segments after it. -/
def cut (ctx : Context) : List (Char × Class) → List Char × List (List Char)
  | [] => ([], [])
  | (c, k) :: rest =>
    let (segment, more) := cut (ctx.push k) rest
    if ctx.breaksBefore k rest then ([], (c :: segment) :: more) else (c :: segment, more)

end WordBreak

/-- The segments of a text between its word boundaries. -/
def segments (cs : List Char) : List (List Char) :=
  match WordBreak.cut {} (cs.map fun c => (c, WordBreak.classOf c)) with
  | ([], more) => more
  | (segment, more) => segment :: more

/-- The number of bytes of a text in UTF-8. -/
def byteLength : List Char → Nat
  | [] => 0
  | c :: cs => c.utf8Size + byteLength cs

/-- Each segment with the number of bytes before it. -/
def withOffsets (offset : Nat) : List (List Char) → List (Nat × List Char)
  | [] => []
  | segment :: rest => (offset, segment) :: withOffsets (offset + byteLength segment) rest

/-- The words of a text with their byte offsets. -/
def words (cs : List Char) : List (Nat × List Char) :=
  (withOffsets 0 (segments cs)).filter (·.2.any isAlphanumeric)

end SiteIndex.Text
