import SiteIndex.Yaml.Token

/-!
# The layout of YAML texts

The tokens of a text in order. Two of its rules need memory. Blocks start and end by
indentation, so the columns of the open blocks are kept. And a key without a mark is known as
a key only by the colon after it, so the places where a key may have started are kept, one
for each bracket, and its token is put in there when the colon comes.
-/

namespace SiteIndex.Yaml

/-- A place where a key may have started. -/
structure PossibleKey where
  /-- The tokens before the key. -/
  before : Nat
  place : Place
  /-- A key must stand there: it is at the indentation of a block mapping. -/
  needed : Bool

/-- A text that has been read up to a place. -/
structure Layout where
  rest : List Char
  place : Place := {}
  /-- The tokens so far, the last one first. -/
  tokens : List Token := []
  /-- The column of the innermost block, -1 outside of blocks. -/
  indent : Int := -1
  /-- The columns of the blocks around it. -/
  outer : List Int := []
  /-- A key may start here. -/
  keyAllowed : Bool := true
  /-- The possible key in the innermost bracket. -/
  key : Option PossibleKey := none
  /-- The possible keys outside of it, one for each open bracket. -/
  outerKeys : List (Option PossibleKey) := []

namespace Layout

/-- The place is within brackets. -/
def flow (l : Layout) : Bool := !l.outerKeys.isEmpty

/-- Goes on to a later part of the text. -/
def moveTo (rest : List Char) (l : Layout) : Layout :=
  { l with rest, place := l.place.advance (l.rest.take (l.rest.length - rest.length)) }

/-- Adds a token. -/
def push (token : Token) (l : Layout) : Layout := { l with tokens := token :: l.tokens }

/-- Puts a token in after the first `before` ones. -/
def insert (before : Nat) (token : Token) (l : Layout) : Layout :=
  let later := l.tokens.length - before
  { l with tokens := l.tokens.take later ++ token :: l.tokens.drop later }

/-- Skips blanks, line breaks and comments. After a line break a key may start. Tabs are no
blanks where a key may start. -/
def skipped (flow inComment keyAllowed : Bool) : List Char → Bool × List Char
  | [] => (keyAllowed, [])
  | '\r' :: '\n' :: rest => skipped flow false (keyAllowed || !flow) rest
  | c :: rest =>
    if isBreak c then skipped flow false (keyAllowed || !flow) rest
    else if inComment then skipped flow true keyAllowed rest
    else if c = ' ' || (c = '\t' && (flow || !keyAllowed)) then skipped flow false keyAllowed rest
    else if c = '#' then skipped flow true keyAllowed rest
    else (keyAllowed, c :: rest)

/-- Goes on to the next token. -/
def skip (l : Layout) : Layout :=
  let (keyAllowed, rest) := skipped l.flow false l.keyAllowed l.rest
  { l.moveTo rest with keyAllowed }

/-- A key is at most this long. -/
def longestKey : Nat := 1024

/-- A possible key, unless its line has ended or it is too long. A needed key must not go. -/
def refreshKey (here : Place) : Option PossibleKey → Option (Option PossibleKey)
  | none => some none
  | some key =>
    if key.place.line < here.line || key.place.index + longestKey < here.index then
      if key.needed then none else some none
    else some (some key)

/-- Gives up the possible keys that can be none any more. -/
def refreshKeys? (l : Layout) : Option Layout := do
  let key ← refreshKey l.place l.key
  let outerKeys ← l.outerKeys.mapM (refreshKey l.place)
  some { l with key, outerKeys }

/-- Gives up the innermost possible key. A needed key must not go. -/
def dropKey? (l : Layout) : Option Layout :=
  if l.key.any (·.needed) then none else some { l with key := none }

/-- Notes that a key may start here. -/
def noteKey? (l : Layout) : Option Layout :=
  if l.keyAllowed then do
    let l ← l.dropKey?
    let needed := !l.flow && l.indent = l.place.column
    some { l with key := some { before := l.tokens.length, place := l.place, needed } }
  else some l

/-- Closes the blocks to the right of a column, as many as `depth`. -/
def closeBlocks (column : Int) : (depth : Nat) → Layout → Layout
  | 0, l => l
  | depth + 1, l =>
    if column < l.indent then
      closeBlocks column depth
        { l.push .blockEnd with indent := l.outer.headD (-1), outer := l.outer.tail }
    else l

/-- Closes the blocks to the right of a column. Within brackets no block ends. -/
def unroll (column : Int) (l : Layout) : Layout :=
  if l.flow then l else l.closeBlocks column (l.outer.length + 1)

/-- Opens a block at a column to the right of the innermost one, before a token. Within
brackets no block starts. -/
def roll (column : Nat) (before : Nat) (start : Token) (l : Layout) : Layout :=
  if !l.flow && l.indent < column then
    { l.insert before start with indent := column, outer := l.indent :: l.outer }
  else l

/-- The text after the first `n` characters. -/
def past (n : Nat) (l : Layout) : Layout := l.moveTo (l.rest.drop n)

/-- A mark that parts documents. -/
def documentMark? (token : Token) (l : Layout) : Option Layout := do
  let l ← (l.unroll (-1)).dropKey?
  some (({ l with keyAllowed := false }.past 3).push token)

/-- A directive. -/
def directiveLine? (l : Layout) : Option Layout := do
  let l ← (l.unroll (-1)).dropKey?
  let (token, rest) ← directive? l.rest.tail
  some (({ l with keyAllowed := false }.moveTo rest).push token)

/-- An opening bracket. -/
def openBracket? (token : Token) (l : Layout) : Option Layout := do
  let l ← l.noteKey?
  let l := { l with keyAllowed := true, key := none, outerKeys := l.key :: l.outerKeys }
  some ((l.past 1).push token)

/-- A closing bracket. -/
def closeBracket? (token : Token) (l : Layout) : Option Layout := do
  let l ← l.dropKey?
  let l := { l with
    keyAllowed := false, key := l.outerKeys.headD none, outerKeys := l.outerKeys.tail }
  some ((l.past 1).push token)

/-- A comma between brackets. -/
def comma? (l : Layout) : Option Layout := do
  let l ← l.dropKey?
  some (({ l with keyAllowed := true }.past 1).push .comma)

/-- The mark of an item or a key, which may open a block. -/
def blockMark? (token start : Token) (keyAllowed : Bool) (l : Layout) : Option Layout := do
  if !l.flow && !l.keyAllowed then none
  else
    let l ← (l.roll l.place.column l.tokens.length start).dropKey?
    some (({ l with keyAllowed }.past 1).push token)

/-- The colon before a value. The possible key before it is a key; without one the colon
itself stands where a key may start. -/
def colon? (l : Layout) : Option Layout :=
  match l.key with
  | some key =>
    let l := (l.insert key.before .key).roll key.place.column key.before .mappingStart
    some (({ l with key := none, keyAllowed := false }.past 1).push .value)
  | none =>
    if !l.flow && !l.keyAllowed then none
    else
      let l := l.roll l.place.column l.tokens.length .mappingStart
      some (({ l with keyAllowed := !l.flow }.past 1).push .value)

/-- A token that a key may start with. -/
def content? (l : Layout) (read : List Char → Option (Token × List Char)) : Option Layout := do
  let l ← l.noteKey?
  let (token, rest) ← read l.rest
  some (({ l with keyAllowed := false }.moveTo rest).push token)

/-- A plain scalar. After one that ends with its line, a key may start. -/
def plainScalar? (l : Layout) : Option Layout := do
  let l ← l.noteKey?
  let (body, rest, broken) ← plain? l.flow (l.indent + 1) l.rest
  some (({ l with keyAllowed := broken }.moveTo rest).push (.scalar true (.ofList body)))

/-- A block scalar. -/
def blockScalar? (literal : Bool) (l : Layout) : Option Layout := do
  let l ← l.dropKey?
  let (body, rest) ← block? literal l.indent l.rest.tail
  some (({ l with keyAllowed := true }.moveTo rest).push (.scalar false (.ofList body)))

/-- The characters that a plain scalar cannot start with. -/
def isIndicator (c : Char) : Bool :=
  isFlowIndicator c || "-?:#&*!|>'\"%@".toList.contains c || c = '\x60'

/-- A plain scalar may start with some indicators if no gap follows. -/
def startsPlain (flow : Bool) (c : Char) (rest : List Char) : Bool :=
  !(isBlank c || isBreak c || isIndicator c)
    || (c = '-' && !rest.head?.any isBlank)
    || (!flow && (c = '?' || c = ':') && !atGap rest)

/-- Reads the next token. -/
def next? (l : Layout) : Option Layout :=
  match l.rest with
  | [] => none
  | c :: rest =>
    let lineStart := l.place.column = 0
    if lineStart && c = '%' then l.directiveLine?
    else if lineStart && isDocumentMark '-' l.rest then l.documentMark? .documentStart
    else if lineStart && isDocumentMark '.' l.rest then l.documentMark? .documentEnd
    else if c = '[' then l.openBracket? .openSequence
    else if c = '\x7b' then l.openBracket? .openMapping
    else if c = ']' then l.closeBracket? .closeSequence
    else if c = '\x7d' then l.closeBracket? .closeMapping
    else if c = ',' then l.comma?
    else if c = '-' && atGap rest then l.blockMark? .item .sequenceStart true
    else if c = '?' && (l.flow || atGap rest) then l.blockMark? .key .mappingStart (!l.flow)
    else if c = ':' && (l.flow || atGap rest) then l.colon?
    else if c = '*' then
      l.content? fun cs => (anchorName? cs.tail).map fun (name, rest) => (.alias name, rest)
    else if c = '&' then
      l.content? fun cs => (anchorName? cs.tail).map fun (name, rest) => (.anchor name, rest)
    else if c = '!' then l.content? fun cs => tag? l.flow cs.tail
    else if c = '|' && !l.flow then l.blockScalar? true
    else if c = '>' && !l.flow then l.blockScalar? false
    else if c = '\'' || c = '"' then
      l.content? fun cs =>
        (quoted? (c = '\'') cs.tail).map fun (body, rest) => (.scalar false (.ofList body), rest)
    else if startsPlain l.flow c rest then l.plainScalar?
    else none

/-- The tokens of the rest of a text. Each token has a character, so that as much fuel as
there are characters is enough. -/
def tokens? : (fuel : Nat) → Layout → Option (List Token)
  | 0, _ => none
  | fuel + 1, l => do
    let l ← l.skip.refreshKeys?
    let l := l.unroll l.place.column
    if l.rest.isEmpty then
      let l ← (l.unroll (-1)).dropKey?
      some l.tokens.reverse
    else tokens? fuel (← l.next?)

end Layout

/-- The tokens of a text, which may start with a byte order mark. -/
def tokens? (cs : List Char) : Option (List Token) :=
  let cs := match cs with
    | '\ufeff' :: rest => rest
    | _ => cs
  if cs.all isAllowed then Layout.tokens? (cs.length + 1) { rest := cs } else none

end SiteIndex.Yaml
