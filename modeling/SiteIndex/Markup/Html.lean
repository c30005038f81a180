import SiteIndex.Bytes
import SiteIndex.Text.Blank
import SiteIndex.Text.Words

/-!
# Text of HTML

A page of HTML is cut into tags, references and text without asking for more than that its
markup can be told apart: elements need not be closed and references need not be known.
`htmlText` is what a reader sees of it, with the bodies of scripts and style sheets left out.
Where markup begins that cannot be told apart, what follows counts as text.
-/

namespace SiteIndex.Markup

/-- What a page of HTML is made of. -/
inductive Event where
  /-- A tag that opens an element. -/
  | opening (name : List Char)
  /-- A tag that closes an element. -/
  | closing (name : List Char)
  /-- A tag of an element without content. -/
  | empty
  | text (cs : List Char)
  /-- A reference to a character or an entity, without its delimiters. -/
  | reference (name : List Char)
  /-- A comment, a declaration or an instruction. -/
  | silent
  deriving DecidableEq, Repr

/-- The blanks that part the name of a tag from its attributes. -/
def isTagBlank (c : Char) : Bool := c = ' ' || c = '\t' || c = '\r' || c = '\n'

/-- Cuts at the first point where the reversed text before satisfies `ends` and `>` follows;
`before` is the reversed text so far. -/
def cutAtClose (ends : List Char → Bool) (before : List Char) :
    List Char → Option (List Char × List Char)
  | [] => none
  | c :: cs =>
    if c = '>' ∧ ends before then some (before.reverse, cs) else cutAtClose ends (c :: before) cs

/-- Cuts at the end of a tag, which does not stand between quotes. -/
def cutTag (quote : Option Char) (before : List Char) : List Char → Option (List Char × List Char)
  | [] => none
  | c :: cs =>
    match quote with
    | some q => cutTag (if c = q then none else some q) (c :: before) cs
    | none =>
      if c = '>' then some (before.reverse, cs)
      else cutTag (if c = '\'' ∨ c = '"' then some c else none) (c :: before) cs

/-- Where the end of a document type declaration is looked for. -/
inductive DoctypePlace where
  /-- Before or after the declarations within. -/
  | outside
  /-- Between the declarations within. -/
  | within
  | declaration (quote : Option Char)
  /-- A comment and the number of hyphens just read, up to two. -/
  | comment (hyphens : Nat)
  /-- An instruction and whether a question mark was just read. -/
  | instruction (mark : Bool)

/-- Cuts at the end of a document type declaration. -/
def cutDoctype (place : DoctypePlace) (before : List Char) :
    List Char → Option (List Char × List Char)
  | [] => none
  | c :: cs =>
    let next : DoctypePlace :=
      match place with
      | .outside => if c = '[' then .within else .outside
      | .within =>
        if c = ']' then .outside
        else if c = '<' then
          match cs with
          | '!' :: '-' :: '-' :: _ => .comment 0
          | '?' :: _ => .instruction false
          | _ => .declaration none
        else .within
      | .declaration none =>
        if c = '>' then .within
        else .declaration (if c = '\'' ∨ c = '"' then some c else none)
      | .declaration (some q) => .declaration (if c = q then none else some q)
      | .comment hyphens =>
        if c = '-' then .comment (min (hyphens + 1) 2)
        else if c = '>' ∧ hyphens = 2 then .within
        else .comment 0
      | .instruction mark => if c = '>' ∧ mark then .within else .instruction (c = '?')
    match place with
    | .outside =>
      if c = '>' then some (before.reverse, cs) else cutDoctype next (c :: before) cs
    | _ => cutDoctype next (c :: before) cs

/-- The text without the blanks of tags at its end. -/
def dropTagBlanks (cs : List Char) : List Char := (cs.reverse.dropWhile isTagBlank).reverse

/-- The event of a tag that opens an element, or is all there is of one. -/
def openingEvent (tag : List Char) : Event :=
  if tag.getLast? = some '/' then .empty
  else .opening ((tag.takeWhile (!isTagBlank ·)).map Char.toLower)

/-- What markup comes to. -/
inductive Step where
  | event (e : Event) (rest : List Char)
  /-- The markup cannot be told apart; the rest is text. -/
  | broken (rest : List Char)

/-- The event of a cut, or broken markup up to the end if there is none. -/
def Step.ofCut (make : List Char → Option Event) : Option (List Char × List Char) → Step
  | none => .broken []
  | some (body, rest) =>
    match make body with
    | some e => .event e rest
    | none => .broken rest

/-- The event of a comment; two hyphens start it, and it has at least five characters. -/
def commentEvent? (body : List Char) : Option Event :=
  if "!--".toList.isPrefixOf body then some .silent else none

/-- The text of a section of character data. -/
def dataEvent? (body : List Char) : Option Event :=
  if "![CDATA[".toList.isPrefixOf body then some (.text ((body.drop 8).dropLast.dropLast))
  else none

/-- The event of a document type declaration, which names a type. -/
def doctypeEvent? (body : List Char) : Option Event :=
  if (body.take 8).map Char.toUpper = "!DOCTYPE".toList ∧ (body.drop 8).any (!isTagBlank ·) then
    some .silent
  else none

/-- The event of an instruction; question marks stand at both ends. -/
def instructionEvent? (body : List Char) : Option Event :=
  if 1 < body.length then some .silent else none

/-- The first markup of a text, after its opening `<`. -/
def markup : List Char → Step
  | [] => .broken []
  | '!' :: cs =>
    match cs with
    | '-' :: _ =>
      .ofCut commentEvent?
        (cutAtClose (fun b => 4 < b.length && "--".toList.isPrefixOf b) [] ('!' :: cs))
    | '[' :: _ => .ofCut dataEvent? (cutAtClose ("]]".toList.isPrefixOf ·) [] ('!' :: cs))
    | 'D' :: _ | 'd' :: _ => .ofCut doctypeEvent? (cutDoctype .outside [] ('!' :: cs))
    | _ => .broken ('!' :: cs)
  | '?' :: cs => .ofCut instructionEvent? (cutAtClose ("?".toList.isPrefixOf ·) [] ('?' :: cs))
  | '/' :: cs =>
    .ofCut (fun tag => some (.closing ((dropTagBlanks tag).map Char.toLower))) (cutTag none [] cs)
  | cs => .ofCut (fun tag => some (openingEvent tag)) (cutTag none [] cs)

/-- The first event of a text. A reference that does not end before the next one or before
markup is text. -/
def step : List Char → Step
  | [] => .broken []
  | '<' :: cs => markup cs
  | '&' :: cs =>
    let inner := fun c => c ≠ ';' && c ≠ '&' && c ≠ '<'
    match cs.dropWhile inner with
    | ';' :: rest => .event (.reference (cs.takeWhile inner)) rest
    | rest => .event (.text ('&' :: cs.takeWhile inner)) rest
  | cs =>
    let plain := fun c => c ≠ '<' && c ≠ '&'
    .event (.text (cs.takeWhile plain)) (cs.dropWhile plain)

/-- The events of a text and, if markup cannot be told apart, the text after it. There are no
more events than characters, so as much fuel is enough. -/
def events : Nat → List Char → List Event × Option (List Char)
  | _, [] => ([], none)
  | 0, _ :: _ => ([], none)
  | fuel + 1, cs =>
    match step cs with
    | .event e rest =>
      let (more, broken) := events fuel rest
      (e :: more, broken)
    | .broken rest => ([], some rest)

/-- The number that the digits of a base denote. -/
def numberIn? (base : Nat) (digits : List Char) : Option Nat :=
  if digits.isEmpty then none
  else digits.foldlM (fun n c => (Bytes.hexDigit? c).bind fun d =>
    if d < base then some (base * n + d) else none) 0

/-- The character that a numeric reference stands for; there is none of number zero. -/
def numericReference? (name : List Char) : Option Char := do
  let code ← match name with
    | '#' :: 'x' :: digits => numberIn? 16 digits
    | '#' :: digits => numberIn? 10 digits
    | _ => none
  if code ≠ 0 ∧ code.isValidChar then some (.ofNat code) else none

/-- The entities that are shown by other characters. -/
def entities : List (String × String) :=
  [("amp", "&"), ("lt", "<"), ("gt", ">"), ("quot", "\""), ("apos", "'"), ("rsquo", "'"),
    ("lsquo", "'"), ("ldquo", "\""), ("rdquo", "\""), ("nbsp", " "), ("ndash", "-"),
    ("mdash", "-"), ("hellip", "..."), ("copy", "\u00a9")]

/-- What a reference is shown as; an unknown one is shown as it is written. -/
def referenceText (name : List Char) : List Char :=
  match numericReference? name with
  | some c => [c]
  | none =>
    match entities.lookup (.ofList name) with
    | some shown => shown.toList
    | none => '&' :: name ++ [';']

/-- The bodies of these elements are not shown. -/
def isHidden (name : List Char) : Bool := name = "script".toList || name = "style".toList

/-- What is shown of the events, and the element whose body is left out at their end. -/
def shown (hidden : Option (List Char)) : List Event → List Char × Option (List Char)
  | [] => ([], hidden)
  | e :: rest =>
    let (here, hidden) : List Char × Option (List Char) := match e with
      | .opening name => ([' '], if hidden.isNone && isHidden name then some name else hidden)
      | .closing name => ([' '], if hidden = some name then none else hidden)
      | .empty => ([' '], hidden)
      | .text cs => (if hidden.isSome then [] else cs, hidden)
      | .reference name => (if hidden.isSome then [] else referenceText name, hidden)
      | .silent => ([], hidden)
    let (more, hidden) := shown hidden rest
    (here ++ more, hidden)

/-- The text after a number of bytes; nothing if they end within a character. -/
def dropBytes : Nat → List Char → List Char
  | 0, cs => cs
  | _ + 1, [] => []
  | n + 1, c :: cs => if c.utf8Size ≤ n + 1 then dropBytes (n + 1 - c.utf8Size) cs else []

/-- What a reader sees of a page of HTML. A byte order mark in front is no text; the place of
broken markup is counted from behind it. -/
def htmlText (content : String) : String :=
  let whole := content.toList
  let body := match whole with
    | '\uFEFF' :: rest => rest
    | _ => whole
  let (found, broken) := events body.length body
  let (text, hidden) := shown none found
  let tail := match broken with
    | some rest =>
      if hidden.isSome then []
      else dropBytes (Text.byteLength body - Text.byteLength rest) whole
    | none => []
  Text.collapse (.ofList (text ++ tail))

/-- The text after a word in any case that it starts with. -/
def dropWord? (word : String) (cs : List Char) : Option (List Char) :=
  if (cs.take word.length).map Char.toLower = word.toList then some (cs.drop word.length) else none

/-- The text up to a tag that closes a title or a first heading. -/
def cutHeading (before : List Char) : List Char → Option (List Char)
  | [] => none
  | c :: cs =>
    if ((dropWord? "</title>" (c :: cs)) <|> (dropWord? "</h1>" (c :: cs))).isSome then
      some before.reverse
    else cutHeading (c :: before) cs

/-- The content of a title or first heading that opens at the front of a text. -/
def headingHere? (cs : List Char) : Option (List Char) := do
  let rest ← (dropWord? "<title" cs) <|> (dropWord? "<h1" cs)
  match rest.dropWhile (· ≠ '>') with
  | [] => none
  | _ :: inner => cutHeading [] inner

/-- The content of the first title or heading. -/
def heading? : List Char → Option (List Char)
  | [] => none
  | c :: cs => headingHere? (c :: cs) <|> heading? cs

/-- The title of a page of HTML: the text of its first title or heading, unless that is
empty. -/
def htmlTitle? (content : String) : Option String :=
  match heading? content.toList with
  | some inner =>
    let title := htmlText (.ofList inner)
    if title = "" then none else some title
  | none => none

end SiteIndex.Markup
