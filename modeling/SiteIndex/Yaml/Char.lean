/-!
# Characters and places in YAML texts

The line breaks of YAML are more than those of most formats: besides line feed and carriage
return they are the next line character and the line and paragraph separators.
-/

namespace SiteIndex.Yaml

/-- A space or a tab. -/
def isBlank (c : Char) : Bool := c = ' ' || c = '\t'

/-- A character that ends a line. -/
def isBreak (c : Char) : Bool :=
  c = '\n' || c = '\r' || c = '\x85' || c = '\u2028' || c = '\u2029'

/-- A character that may stand in a document. -/
def isAllowed (c : Char) : Bool :=
  c = '\t' || c = '\n' || c = '\r' || (' ' ≤ c && c ≤ '~') || c = '\x85'
    || ('\xa0' ≤ c && c.toNat ≠ 0xFEFF && c.toNat ≠ 0xFFFE && c.toNat ≠ 0xFFFF)

/-- A character of anchors, handles and directives. -/
def isNameChar (c : Char) : Bool := c.isAlphanum || c = '_' || c = '-'

/-- The text is at its end, or goes on with a blank or a line break. -/
def atGap : List Char → Bool
  | [] => true
  | c :: _ => isBlank c || isBreak c

/-- The text is at its end or at the end of a line. -/
def atLineEnd : List Char → Bool
  | [] => true
  | c :: _ => isBreak c

/-- A line break as it stands in a text: the separators are kept, the others become a line
feed. -/
def breakText (c : Char) : Char := if c = '\u2028' || c = '\u2029' then c else '\n'

/-- The line break at the front of a text. -/
def splitBreak? : List Char → Option (Char × List Char)
  | '\r' :: '\n' :: rest => some ('\n', rest)
  | c :: rest => if isBreak c then some (breakText c, rest) else none
  | [] => none

/-- The text without the line break at its front. -/
def dropBreak (cs : List Char) : List Char :=
  match splitBreak? cs with
  | some (_, rest) => rest
  | none => cs

/-- The text from the end of its first line on. -/
def toLineEnd (cs : List Char) : List Char := cs.dropWhile (!isBreak ·)

/-- Three of a character and then a gap, at the start of a line, part documents. -/
def isDocumentMark (mark : Char) : List Char → Bool
  | a :: b :: c :: rest => a = mark && b = mark && c = mark && atGap rest
  | _ => false

/-- One of the marks that part documents. -/
def atDocumentMark (cs : List Char) : Bool := isDocumentMark '-' cs || isDocumentMark '.' cs

/-- A place in a text: characters from the start, lines from the start, and characters from
the start of the line. -/
structure Place where
  index : Nat := 0
  line : Nat := 0
  column : Nat := 0
  deriving DecidableEq, Repr

/-- The place after some text. -/
def Place.advance (p : Place) : List Char → Place
  | [] => p
  | '\r' :: '\n' :: rest => advance { index := p.index + 2, line := p.line + 1 } rest
  | c :: rest =>
    if isBreak c then advance { index := p.index + 1, line := p.line + 1 } rest
    else advance { p with index := p.index + 1, column := p.column + 1 } rest

end SiteIndex.Yaml
