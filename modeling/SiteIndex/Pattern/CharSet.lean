import SiteIndex.Text.Case
import SiteIndex.Text.Category
import SiteIndex.Text.Class
import SiteIndex.Text.Script

/-!
# Sets of characters in patterns

What one step of a pattern may match: single characters, ranges, the named classes, and what
is built from them. `CharSet.property?` finds a Unicode property by name. A set also knows
about how large an automaton for its UTF-8 form is, since patterns are limited in size.
-/

namespace SiteIndex.Pattern

open SiteIndex.Text

/-- A set of characters and the size of an automaton that tells them apart. -/
structure CharSet where
  contains : Char → Bool
  size : Nat := 1

namespace CharSet

/-- One character. -/
def single (c : Char) : CharSet := ⟨(· == c), c.utf8Size⟩

/-- The characters from one to another. -/
def range (first last : Char) : CharSet := ⟨fun c => first ≤ c && c ≤ last, last.utf8Size⟩

/-- All characters but those of a set. -/
def complement (s : CharSet) : CharSet := ⟨fun c => !s.contains c, s.size + 6⟩

/-- The characters of either set. -/
def union (s t : CharSet) : CharSet := ⟨fun c => s.contains c || t.contains c, s.size + t.size⟩

/-- The characters of both sets. -/
def inter (s t : CharSet) : CharSet := ⟨fun c => s.contains c && t.contains c, s.size + t.size⟩

/-- The characters of the first set that are not in the second. -/
def diff (s t : CharSet) : CharSet := ⟨fun c => s.contains c && !t.contains c, s.size + t.size⟩

/-- The characters of exactly one of the sets. -/
def symmDiff (s t : CharSet) : CharSet := ⟨fun c => s.contains c != t.contains c, s.size + t.size⟩

/-- No character. -/
def none : CharSet := ⟨fun _ => false, 1⟩

/-- Every character. -/
def all : CharSet := ⟨fun _ => true, 7⟩

/-- The set together with every case variant of its characters. -/
def folded (s : CharSet) : CharSet := ⟨fun c => (caseVariants c).any s.contains, 2 * s.size⟩

/-- The set together with the other ASCII case of its characters. -/
def foldedAscii (s : CharSet) : CharSet :=
  ⟨fun c => s.contains c || s.contains c.toLower || s.contains c.toUpper, 2 * s.size⟩

/-- The characters of a table. -/
def ofTable (table : CodeRanges) : CharSet := ⟨table.contains, 1 + 2 * table.ranges.length / 3⟩

/-- The ASCII characters of a class. -/
def ascii (accept : Char → Bool) : CharSet := ⟨fun c => c.toNat < 128 && accept c, 2⟩

/-- The decimal digits of Unicode. -/
def digit : CharSet := .ofTable decimalDigit

/-- The white space of Unicode. -/
def space : CharSet := .ofTable whiteSpace

/-- The word characters of Unicode. -/
def word : CharSet := ⟨isWordCharacter, 500⟩

/-- An ASCII word character. -/
def isAsciiWord (c : Char) : Bool := c.isAlphanum || c = '_'

/-- ASCII white space as patterns know it. -/
def isAsciiSpace (c : Char) : Bool :=
  c = ' ' || c = '\t' || c = '\n' || c = '\r' || c = '\x0b' || c = '\x0c'

/-- A visible ASCII character that is neither a letter nor a digit. -/
def isAsciiPunctuation (c : Char) : Bool := '!' ≤ c && c ≤ '~' && !c.isAlphanum

/-- The ASCII class of a name between `[:` and `:]`. -/
def ascii? (name : String) : Option CharSet :=
  match name with
  | "alnum" => some (ascii Char.isAlphanum)
  | "alpha" => some (ascii Char.isAlpha)
  | "ascii" => some (ascii fun _ => true)
  | "blank" => some (ascii fun c => c = ' ' || c = '\t')
  | "cntrl" => some (ascii fun c => c < ' ' || c = '\x7f')
  | "digit" => some (ascii Char.isDigit)
  | "graph" => some (ascii fun c => '!' ≤ c && c ≤ '~')
  | "lower" => some (ascii Char.isLower)
  | "print" => some (ascii fun c => ' ' ≤ c && c ≤ '~')
  | "punct" => some (ascii isAsciiPunctuation)
  | "space" => some (ascii isAsciiSpace)
  | "upper" => some (ascii Char.isUpper)
  | "word" => some (ascii isAsciiWord)
  | "xdigit" => some (ascii fun c =>
      c.isDigit || ('a' ≤ c && c ≤ 'f') || ('A' ≤ c && c ≤ 'F'))
  | _ => .none

/-- The general categories under their short and long names. -/
def categories : List (List String × List CodeRanges) :=
  [(["lu", "uppercaseletter"], [categoryLu]), (["ll", "lowercaseletter"], [categoryLl]),
   (["lt", "titlecaseletter"], [categoryLt]), (["lm", "modifierletter"], [categoryLm]),
   (["lo", "otherletter"], [categoryLo]),
   (["lc", "casedletter"], [categoryLu, categoryLl, categoryLt]),
   (["l", "letter"], [categoryLu, categoryLl, categoryLt, categoryLm, categoryLo]),
   (["mn", "nonspacingmark"], [categoryMn]), (["mc", "spacingmark"], [categoryMc]),
   (["me", "enclosingmark"], [categoryMe]),
   (["m", "mark", "combiningmark"], [categoryMn, categoryMc, categoryMe]),
   (["nd", "decimalnumber", "digit"], [categoryNd]), (["nl", "letternumber"], [categoryNl]),
   (["no", "othernumber"], [categoryNo]),
   (["n", "number"], [categoryNd, categoryNl, categoryNo]),
   (["pc", "connectorpunctuation"], [categoryPc]), (["pd", "dashpunctuation"], [categoryPd]),
   (["ps", "openpunctuation"], [categoryPs]), (["pe", "closepunctuation"], [categoryPe]),
   (["pi", "initialpunctuation"], [categoryPi]), (["pf", "finalpunctuation"], [categoryPf]),
   (["po", "otherpunctuation"], [categoryPo]),
   (["p", "punctuation", "punct"],
     [categoryPc, categoryPd, categoryPs, categoryPe, categoryPi, categoryPf, categoryPo]),
   (["sm", "mathsymbol"], [categorySm]), (["sc", "currencysymbol"], [categorySc]),
   (["sk", "modifiersymbol"], [categorySk]), (["so", "othersymbol"], [categorySo]),
   (["s", "symbol"], [categorySm, categorySc, categorySk, categorySo]),
   (["zs", "spaceseparator"], [categoryZs]), (["zl", "lineseparator"], [categoryZl]),
   (["zp", "paragraphseparator"], [categoryZp]),
   (["z", "separator"], [categoryZs, categoryZl, categoryZp]),
   (["cc", "control", "cntrl"], [categoryCc]), (["cf", "format"], [categoryCf]),
   (["co", "privateuse"], [categoryCo]), (["cn", "unassigned"], [categoryCn]),
   (["cs", "surrogate"], []),
   (["c", "other"], [categoryCc, categoryCf, categoryCo, categoryCn])]

/-- A property name in lower case without blanks, hyphens and low lines, and without `is` in
front. -/
def normalName (name : List Char) : String :=
  let kept := (name.filter fun c => c.toNat < 128 && !(isAsciiSpace c || c = '_' || c = '-')).map
    Char.toLower
  .ofList (match kept with
    | 'i' :: 's' :: rest => if rest = ['c'] then kept else rest
    | _ => kept)

/-- The general category of a name. -/
def category? (name : String) : Option CharSet :=
  if name = "any" then some all
  else if name = "ascii" then some (ascii fun _ => true)
  else if name = "assigned" then some (complement (.ofTable categoryCn))
  else (categories.find? fun entry => entry.1.contains name).map fun entry =>
    (entry.2.map ofTable).foldl union none

/-- The script of a name. -/
def script? (name : String) : Option CharSet :=
  (scripts.find? fun entry => entry.names.contains name).map fun entry => .ofTable entry.table

/-- The binary property of a name. -/
def binary? (name : String) : Option CharSet :=
  match name with
  | "alphabetic" | "alpha" => some (.ofTable alphabetic)
  | "whitespace" | "wspace" | "space" => some space
  | "cased" => some (.ofTable cased)
  | "caseignorable" | "ci" => some (.ofTable caseIgnorable)
  | "upper" => (binaryProperties.find? fun e => e.names.contains "uppercase").map (.ofTable ·.table)
  | "lower" => (binaryProperties.find? fun e => e.names.contains "lowercase").map (.ofTable ·.table)
  | _ => (binaryProperties.find? fun e => e.names.contains name).map (.ofTable ·.table)

/-- The property that a single name stands for: a binary property, a general category or a
script. -/
def property? (name : String) : Option CharSet :=
  if name = "cf" || name = "sc" || name = "lc" then category? name
  else (binary? name).or ((category? name).or (script? name))

/-- The property that a name and a value stand for. -/
def propertyValue? (name value : String) : Option CharSet :=
  match name with
  | "gc" | "generalcategory" => category? value
  | "sc" | "script" | "scx" | "scriptextensions" => script? value
  | _ => .none

end CharSet

end SiteIndex.Pattern
