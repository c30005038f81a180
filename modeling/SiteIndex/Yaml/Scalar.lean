import SiteIndex.Yaml.Char

/-!
# Scalars in YAML texts

The text of a scalar is not the text as written: line breaks between words are folded, quotes
and escapes are resolved, and the indentation of a block is left out. `plain?`, `quoted?` and
`block?` read the three styles from the front of a text.
-/

namespace SiteIndex.Yaml

/-- Blanks and line breaks between two words. -/
structure Gap where
  /-- Blanks before the first line break. -/
  blanks : List Char := []
  /-- The first line break; an escaped one has no text. -/
  first : Option (List Char) := none
  /-- The line breaks after the first. -/
  more : List Char := []
  /-- The column after the gap, if there is a line break. -/
  column : Nat := 0
  /-- The leftmost tab after the first line break. -/
  tab : Option Nat := none

namespace Gap

/-- The gap has a line break. -/
def breaks (g : Gap) : Bool := g.first.isSome

/-- The gap with a blank after it. -/
def blank (g : Gap) (c : Char) : Gap :=
  if g.breaks then
    let tab := if c = '\t' then some (min g.column (g.tab.getD g.column)) else g.tab
    { g with column := g.column + 1, tab }
  else { g with blanks := g.blanks ++ [c] }

/-- The gap with a line break after it. -/
def lineBreak (g : Gap) (c : Char) : Gap :=
  if g.breaks then { g with more := g.more ++ [c], column := 0 }
  else { g with first := some [c], column := 0 }

/-- Reads on to the next character that is no blank and no line break. -/
def read (g : Gap) : List Char → Gap × List Char
  | [] => (g, [])
  | '\r' :: '\n' :: rest => read (g.lineBreak '\n') rest
  | c :: rest =>
    if isBlank c then read (g.blank c) rest
    else if isBreak c then read (g.lineBreak (breakText c)) rest
    else (g, c :: rest)

/-- What a gap stands for in a scalar. A single line feed is a space, more of them lose the
first, and blanks next to a line break are dropped. -/
def text (g : Gap) : List Char :=
  match g.first with
  | none => g.blanks
  | some ['\n'] => if g.more.isEmpty then [' '] else g.more
  | some first => first ++ g.more

end Gap

/-- A flow indicator, which ends a plain scalar in brackets. -/
def isFlowIndicator (c : Char) : Bool :=
  c = ',' || c = '[' || c = ']' || c = '\x7b' || c = '\x7d'

/-- A word of a plain scalar and the text after it. In brackets, a colon must not stand right
before an indicator. -/
def plainWord? (flow : Bool) : List Char → Option (List Char × List Char)
  | [] => some ([], [])
  | c :: rest =>
    if isBlank c || isBreak c then some ([], c :: rest)
    else if flow && c = ':' && rest.head?.any (fun d => isFlowIndicator d || d = '?') then none
    else if c = ':' && atGap rest then some ([], c :: rest)
    else if flow && isFlowIndicator c then some ([], c :: rest)
    else (plainWord? flow rest).map fun (word, rest) => (c :: word, rest)

/-- The words of a plain scalar, the text after it and after the gap that follows, and whether
that gap breaks the line. Lines below `indent` do not belong to it. Each round reads a word, so
that as much fuel as there are characters is enough. -/
def plainWords? (flow : Bool) (indent : Int) :
    (fuel : Nat) → Gap → List Char → Option (List Char × List Char × Bool)
  | 0, _, _ => none
  | fuel + 1, before, cs =>
    if (before.breaks && before.column = 0 && atDocumentMark cs) || cs.head? = some '#' then
      some ([], cs, before.breaks)
    else
      match plainWord? flow cs with
      | none => none
      | some ([], rest) => some ([], rest, before.breaks)
      | some (word, rest) =>
        let (gap, after) := Gap.read {} rest
        if gap.tab.any (· < indent) then none
        else if (gap.blanks.isEmpty && !gap.breaks) || (!flow && gap.breaks && gap.column < indent)
        then some (before.text ++ word, after, gap.breaks)
        else
          (plainWords? flow indent fuel gap after).map fun (more, rest, broken) =>
            (before.text ++ word ++ more, rest, broken)

/-- A plain scalar. -/
def plain? (flow : Bool) (indent : Int) (cs : List Char) :
    Option (List Char × List Char × Bool) :=
  plainWords? flow indent (cs.length + 1) {} cs

/-- The value of a hexadecimal digit. -/
def hexDigit? (c : Char) : Option Nat :=
  if c.isDigit then some (c.toNat - '0'.toNat)
  else if 'a' ≤ c ∧ c ≤ 'f' then some (c.toNat - 'a'.toNat + 10)
  else if 'A' ≤ c ∧ c ≤ 'F' then some (c.toNat - 'A'.toNat + 10)
  else none

/-- The character whose code point stands in the first `width` digits. -/
def codePoint? (width : Nat) (cs : List Char) : Option (Char × List Char) := do
  if cs.length < width then none
  else
    let n ← (cs.take width).foldlM (fun n c => return n * 16 + (← hexDigit? c)) 0
    if n.isValidChar then some (.ofNat n, cs.drop width) else none

/-- The character of an escape in double quotes, and the text after it. -/
def escape? : List Char → Option (Char × List Char)
  | '0' :: rest => some ('\x00', rest)
  | 'a' :: rest => some ('\x07', rest)
  | 'b' :: rest => some ('\x08', rest)
  | 't' :: rest => some ('\t', rest)
  | '\t' :: rest => some ('\t', rest)
  | 'n' :: rest => some ('\n', rest)
  | 'v' :: rest => some ('\x0b', rest)
  | 'f' :: rest => some ('\x0c', rest)
  | 'r' :: rest => some ('\r', rest)
  | 'e' :: rest => some ('\x1b', rest)
  | ' ' :: rest => some (' ', rest)
  | '"' :: rest => some ('"', rest)
  | '/' :: rest => some ('/', rest)
  | '\\' :: rest => some ('\\', rest)
  | 'N' :: rest => some ('\x85', rest)
  | '_' :: rest => some ('\xa0', rest)
  | 'L' :: rest => some ('\u2028', rest)
  | 'P' :: rest => some ('\u2029', rest)
  | 'x' :: rest => codePoint? 2 rest
  | 'u' :: rest => codePoint? 4 rest
  | 'U' :: rest => codePoint? 8 rest
  | _ => none

/-- Quoted text up to a gap or the closing quote: the text, the gap that an escaped line break
starts, and what follows. -/
def quotedWord? (single : Bool) : (fuel : Nat) → List Char → Option (List Char × Gap × List Char)
  | 0, _ => none
  | fuel + 1, cs =>
    match cs with
    | [] => some ([], {}, [])
    | c :: rest =>
      if isBlank c || isBreak c then some ([], {}, cs)
      else if single then
        match c, rest with
        | '\'', '\'' :: rest =>
          (quotedWord? single fuel rest).map fun (word, r) => ('\'' :: word, r)
        | '\'', _ => some ([], {}, cs)
        | c, rest => (quotedWord? single fuel rest).map fun (word, r) => (c :: word, r)
      else if c = '"' then some ([], {}, cs)
      else if c = '\\' then
        match splitBreak? rest with
        | some (_, rest) => some ([], { first := some [] }, rest)
        | none =>
          match escape? rest with
          | some (d, rest) => (quotedWord? single fuel rest).map fun (word, r) => (d :: word, r)
          | none => none
      else (quotedWord? single fuel rest).map fun (word, r) => (c :: word, r)

/-- The quote that opens and closes a quoted scalar. -/
def quoteMark (single : Bool) : Char := if single then '\'' else '"'

/-- The rest of a quoted scalar and the text after the closing quote. No line of it starts with
a mark that parts documents. -/
def quotedWords? (single : Bool) :
    (fuel : Nat) → (lineStart : Bool) → List Char → Option (List Char × List Char)
  | 0, _, _ => none
  | fuel + 1, lineStart, cs =>
    if lineStart && atDocumentMark cs then none
    else
      match quotedWord? single (cs.length + 1) cs with
      | none | some (_, _, []) => none
      | some (word, gap, c :: rest) =>
        if c = quoteMark single then some (word, rest)
        else
          let (gap, rest) := gap.read (c :: rest)
          (quotedWords? single fuel (gap.breaks && gap.column = 0) rest).map fun (more, rest) =>
            (word ++ gap.text ++ more, rest)

/-- The text of a quoted scalar after its opening quote. -/
def quoted? (single : Bool) (cs : List Char) : Option (List Char × List Char) :=
  quotedWords? single (cs.length + 1) false cs

/-- What becomes of the line breaks at the end of a block. -/
inductive Chomping where
  | strip | clip | keep
  deriving DecidableEq, Repr

/-- The mark of a chomping. -/
def chomping? : List Char → Option (Chomping × List Char)
  | '-' :: rest => some (.strip, rest)
  | '+' :: rest => some (.keep, rest)
  | _ => none

/-- The mark of an indentation, from 1 to 9. -/
def increment? : List Char → Option (Nat × List Char)
  | c :: rest => if c.isDigit then some (c.toNat - '0'.toNat, rest) else none
  | [] => none

/-- The marks after the indicator of a block, in either order. -/
def blockMarks (cs : List Char) : Chomping × Option Nat × List Char :=
  match chomping? cs with
  | some (chomping, rest) =>
    match increment? rest with
    | some (n, rest) => (chomping, some n, rest)
    | none => (chomping, none, rest)
  | none =>
    match increment? cs with
    | some (n, rest) =>
      match chomping? rest with
      | some (chomping, rest) => (chomping, some n, rest)
      | none => (.clip, some n, rest)
    | none => (.clip, none, cs)

/-- Indentation and empty lines in a block. -/
structure Margin where
  /-- The column of the next character. -/
  column : Nat := 0
  /-- The widest indentation. -/
  widest : Nat := 0
  /-- The line breaks. -/
  breaks : List Char := []

/-- Skips spaces below the indentation, all of them as long as it is not known, and empty
lines. A tab must not stand there. -/
def Margin.read? (indent : Option Nat) (m : Margin) : List Char → Option (Margin × List Char)
  | [] => some (m, [])
  | '\r' :: '\n' :: rest => read? indent { m with column := 0, breaks := m.breaks ++ ['\n'] } rest
  | c :: rest =>
    let inside := indent.all (m.column < ·)
    if c = ' ' && inside then
      let column := m.column + 1
      read? indent { m with column, widest := max m.widest column } rest
    else if c = '\t' && inside then none
    else if isBreak c then
      read? indent { m with column := 0, breaks := m.breaks ++ [breakText c] } rest
    else some (m, c :: rest)

/-- A block as far as it has been read. -/
structure Block where
  text : List Char := []
  /-- The line break of the last line. -/
  leading : List Char := []
  /-- The line breaks of empty lines after it. -/
  trailing : List Char := []
  /-- The last line starts with a blank. -/
  blank : Bool := false

/-- The block with a line after it. In a folded block, a line feed between two lines that
start with a word is a space. -/
def Block.line (literal : Bool) (line : List Char) (b : Block) : Block :=
  let blank := line.head?.any isBlank
  let folds := !literal && b.leading = ['\n'] && !b.blank && !blank
  let gap := if folds then (if b.trailing.isEmpty then [' '] else b.trailing)
    else b.leading ++ b.trailing
  { text := b.text ++ gap ++ line, blank }

/-- The lines of a block at its indentation. Each round reads a line, so that as much fuel as
there are characters is enough. -/
def blockLines? (literal : Bool) (indent : Nat) :
    (fuel : Nat) → Block → (column : Nat) → List Char → Option (Block × List Char)
  | 0, _, _, _ => none
  | fuel + 1, b, column, cs =>
    if column ≠ indent || cs.isEmpty then some (b, cs)
    else
      let b := b.line literal (cs.takeWhile (!isBreak ·))
      match splitBreak? (toLineEnd cs) with
      | none => some (b, [])
      | some (leading, rest) =>
        match Margin.read? (some indent) {} rest with
        | none => none
        | some (m, rest) =>
          blockLines? literal indent fuel { b with leading := [leading], trailing := m.breaks }
            m.column rest

/-- The text of a block. -/
def Block.chomp (chomping : Chomping) (b : Block) : List Char :=
  match chomping with
  | .strip => b.text
  | .clip => b.text ++ b.leading
  | .keep => b.text ++ b.leading ++ b.trailing

/-- The end of the line of a block's indicator, after an optional comment. -/
def blockHeadEnd? (cs : List Char) : Option (List Char) :=
  let rest := cs.dropWhile isBlank
  let rest := if rest.head? = some '#' then toLineEnd rest else rest
  if atLineEnd rest then some (dropBreak rest) else none

/-- A block after its indicator, within the indentation `outer`, and the text after it. -/
def block? (literal : Bool) (outer : Int) (cs : List Char) : Option (List Char × List Char) := do
  let (chomping, increment, rest) := blockMarks cs
  if increment = some 0 then none
  else
    let rest ← blockHeadEnd? rest
    let indent := increment.map fun n => outer.toNat + n
    let (m, rest) ← Margin.read? indent {} rest
    let indent := indent.getD (max (max m.widest (outer + 1).toNat) 1)
    let (b, rest) ←
      blockLines? literal indent (rest.length + 1) { trailing := m.breaks } m.column rest
    some (b.chomp chomping, rest)

end SiteIndex.Yaml
