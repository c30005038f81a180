import SiteIndex.Markup.Html

/-!
# Text of Markdown

What a reader sees of a page of Markdown is found in steps: the lines that fence code go,
images and links leave their texts, lines lose the marks they start with, marks of emphasis
go, and what is left is read as HTML.
-/

namespace SiteIndex.Markup

/-- Drops the rest of a line, but not its end. -/
def dropLine (cs : List Char) : List Char := cs.dropWhile (· ≠ '\n')

/-- The text after a line that fences code, with the blanks and blank lines before it. -/
def afterFence? (cs : List Char) : Option (List Char) :=
  match Text.trimStart cs with
  | '\x60' :: '\x60' :: '\x60' :: rest => some (dropLine rest)
  | '~' :: '~' :: '~' :: rest => some (dropLine rest)
  | _ => none

/-- The text after the blanks at its front, if there are any, and whether it starts a line. -/
def afterBlanks? : List Char → Option (Bool × List Char)
  | [] => none
  | c :: cs =>
    if Text.isBlank c then some ((afterBlanks? cs).getD (c = '\n', cs)) else none

/-- The text after the mark of a heading, a quotation or an item of a list. -/
def afterMark? (cs : List Char) : Option (List Char) :=
  match cs with
  | '>' :: rest | '-' :: rest | '*' :: rest | '+' :: rest => some rest
  | '#' :: _ =>
    let marks := cs.takeWhile (· = '#')
    if marks.length ≤ 6 then some (cs.drop marks.length) else none
  | _ =>
    let isDigit := Text.decimalDigit.contains
    match cs.dropWhile isDigit with
    | '.' :: rest => if (cs.takeWhile isDigit).isEmpty then none else some rest
    | _ => none

/-- The text after the mark that a line starts with and the blanks around it, and whether it
starts a line. -/
def afterLineMark? (cs : List Char) : Option (Bool × List Char) := do
  afterBlanks? (← afterMark? (Text.trimStart cs))

/-- Takes away what `after` finds at the start of lines. Every time the text gets shorter, so
that its length is fuel enough. -/
def stripLines (after : List Char → Option (Bool × List Char)) :
    Nat → Bool → List Char → List Char
  | 0, _, cs => cs
  | _ + 1, _, [] => []
  | fuel + 1, lineStart, c :: cs =>
    match if lineStart then after (c :: cs) else none with
    | some (lineStart, rest) => stripLines after fuel lineStart rest
    | none => c :: stripLines after fuel (c = '\n') cs

/-- Takes away the lines that fence code. -/
def stripFences (cs : List Char) : List Char :=
  stripLines (fun cs => (afterFence? cs).map fun rest => (false, rest)) (cs.length + 1) true cs

/-- Takes away the marks that lines start with. -/
def stripLineMarks (cs : List Char) : List Char := stripLines afterLineMark? (cs.length + 1) true cs

/-- The text of a link that starts with a bracket, and what follows the link. -/
def link? (cs : List Char) : Option (List Char × List Char) :=
  match cs with
  | '[' :: inner =>
    match inner.dropWhile (· ≠ ']') with
    | ']' :: '(' :: target =>
      match target.dropWhile (· ≠ ')') with
      | ')' :: rest => some (inner.takeWhile (· ≠ ']'), rest)
      | _ => none
    | _ => none
  | _ => none

/-- The text of an image, and what follows it. -/
def image? (cs : List Char) : Option (List Char × List Char) :=
  match cs with
  | '!' :: rest => link? rest
  | _ => none

/-- Puts texts in the place of what `find` finds. Every time the text gets shorter, so that its
length is fuel enough. -/
def replaceAll (find : List Char → Option (List Char × List Char)) : Nat → List Char → List Char
  | 0, cs => cs
  | _ + 1, [] => []
  | fuel + 1, c :: cs =>
    match find (c :: cs) with
    | some (text, rest) => text ++ replaceAll find fuel rest
    | none => c :: replaceAll find fuel cs

/-- Marks of emphasis, of code and of what is struck out. -/
def isEmphasis (c : Char) : Bool := c = '*' || c = '_' || c = '\x60' || c = '~'

/-- What a reader sees of a page of Markdown. -/
def markdownText (content : String) : String :=
  let cs := stripFences content.toList
  let cs := replaceAll image? (cs.length + 1) cs
  let cs := replaceAll link? (cs.length + 1) cs
  let cs := (stripLineMarks cs).filter (!isEmphasis ·)
  Text.collapse (htmlText (.ofList cs))

/-- The rest of a line holds nothing but number signs and blanks around them. -/
def isHeadingEnd (cs : List Char) : Bool :=
  (Text.trimStart ((Text.trimStart cs).dropWhile (· = '#'))).isEmpty

/-- The text of a heading without the number signs at its end. It has at least one
character. -/
def headingText : List Char → List Char
  | [] => []
  | c :: cs => if isHeadingEnd cs then [c] else c :: headingText cs

/-- The heading at the start of a line: a number sign, blanks, and the text up to the end of
its line, which may be a later line. Where blanks are all that follows the text is blank. -/
def lineHeading? : List Char → Option (List Char)
  | '#' :: cs =>
    match Text.trimStart cs with
    | [] => if (cs.drop 1).any (· ≠ '\n') then some [] else none
    | rest =>
      if rest.length < cs.length then some (headingText (rest.takeWhile (· ≠ '\n'))) else none
  | _ => none

/-- The first heading of a text. -/
def firstHeading? (lineStart : Bool) : List Char → Option (List Char)
  | [] => none
  | c :: cs =>
    (if lineStart then lineHeading? (c :: cs) else none) <|> firstHeading? (c = '\n') cs

/-- The title of a page of Markdown: its first heading of the first level, without marks of
emphasis. -/
def markdownTitle? (content : String) : Option String :=
  (firstHeading? true content.toList).map fun heading =>
    .ofList (Text.trimChars (heading.filter fun c => c ≠ '*' && c ≠ '_' && c ≠ '\x60'))

end SiteIndex.Markup
