import SiteIndex.Bytes
import SiteIndex.Pattern.Regex

/-!
# Reading regular expressions

The written form of regular expressions: literals and escapes, classes with set operations,
groups, alternation, repetition, assertions and inline flags. There is neither look-around nor
a reference to a group. `Pattern.compile?` reads an expression and refuses one that would need
too large an automaton.
-/

namespace SiteIndex.Pattern

open SiteIndex.Text (isBlank)

/-- The flags in force at a point of an expression. -/
structure Flags where
  /-- Letters match in either case. -/
  ignoreCase : Bool := false
  /-- The line anchors match at every line. -/
  multiLine : Bool := false
  /-- The point matches line ends too. -/
  dotAll : Bool := false
  /-- Repetitions prefer few. -/
  swapGreed : Bool := false
  /-- Classes are those of Unicode. -/
  unicode : Bool := true
  /-- Lines may end with a carriage return. -/
  carriageReturn : Bool := false
  /-- Blanks and comments are skipped. -/
  extended : Bool := false

namespace Reader

/-- Skips blanks and comments, which run to the end of the line. -/
def skipComments (inComment : Bool) : List Char → List Char
  | [] => []
  | c :: cs =>
    if inComment then skipComments (c ≠ '\n') cs
    else if c = '#' then skipComments true cs
    else if isBlank c then skipComments false cs
    else c :: cs

/-- Skips what the flags say does not count. -/
def skip (flags : Flags) (cs : List Char) : List Char :=
  if flags.extended then skipComments false cs else cs

/-- The value of a hexadecimal text as a character. -/
def charOfHex? (digits : List Char) : Option Char := do
  let value ← digits.foldlM (fun n c => (Bytes.hexDigit? c).map (16 * n + ·)) 0
  if digits.length ≤ 64 ∧ value.isValidChar then some (.ofNat value) else none

/-- A character given by exactly `count` hexadecimal digits. -/
def fixedHex? (flags : Flags) : Nat → List Char → List Char → Option (Char × List Char)
  | 0, digits, cs => do return (← charOfHex? digits.reverse, cs)
  | count + 1, digits, cs =>
    match (if digits.isEmpty then cs else skip flags cs) with
    | [] => none
    | c :: rest =>
      if (Bytes.hexDigit? c).isSome then fixedHex? flags count (c :: digits) rest else none

/-- A character given by hexadecimal digits up to a closing brace. -/
def bracedHex? (cs : List Char) : Option (Char × List Char) := do
  let digits := cs.takeWhile (· ≠ '\x7d')
  match cs.dropWhile (· ≠ '\x7d') with
  | _ :: rest => if digits.isEmpty then none else return (← charOfHex? digits, rest)
  | [] => none

/-- A character given by its code after `\x`, `\u` or `\U`. Two digits without Unicode are a
byte, which must be one of ASCII. -/
def hexEscape? (flags : Flags) (kind : Char) (cs : List Char) : Option (Char × List Char) :=
  match skip flags cs with
  | '\x7b' :: rest => bracedHex? rest
  | cs => do
    let (c, rest) ← fixedHex? flags (if kind = 'x' then 2 else if kind = 'u' then 4 else 8) [] cs
    if kind = 'x' ∧ !flags.unicode ∧ 128 ≤ c.toNat then none else some (c, rest)

/-- What an escape stands for. -/
inductive Escape where
  | literal (c : Char)
  | set (s : CharSet)
  | position (a : Assertion)

/-- Characters with a meaning of their own. -/
def isMeta (c : Char) : Bool := "\\.+*?()|[]\x7b\x7d^$#&-~".toList.contains c

/-- Characters that may stand for themselves after a backslash. -/
def isEscapable (c : Char) : Bool :=
  isMeta c || (c.toNat < 128 && !c.isAlphanum && c ≠ '<' && c ≠ '>')

/-- The set, or what is left out of it. -/
def negateIf (negated : Bool) (s : CharSet) : CharSet := if negated then s.complement else s

/-- The set with case variants where the flags ask for them. -/
def foldIf (flags : Flags) (s : CharSet) : CharSet :=
  if flags.ignoreCase then (if flags.unicode then s.folded else s.foldedAscii) else s

/-- The set of a class letter. -/
def letterClass (flags : Flags) (c : Char) : Option CharSet :=
  let negated := c.isUpper
  if flags.unicode then
    match c.toLower with
    | 'd' => some (negateIf negated .digit)
    | 's' => some (negateIf negated .space)
    | 'w' => some (negateIf negated .word)
    | _ => none
  else if negated then none
  else
    match c with
    | 'd' => some (.ascii Char.isDigit)
    | 's' => some (.ascii CharSet.isAsciiSpace)
    | 'w' => some (.ascii CharSet.isAsciiWord)
    | _ => none

/-- The property named between braces: a name alone, or a name and a value. -/
def bracedProperty? (text : List Char) : Option CharSet :=
  let name (cs : List Char) := CharSet.normalName cs
  let upTo (stop : Char → Bool) := text.takeWhile (!stop ·)
  let after (stop : Char → Bool) := (text.dropWhile (!stop ·)).drop 1
  if text.contains '=' ∨ text.contains ':' then
    let before := upTo fun c => c = '=' || c = ':'
    let value := after fun c => c = '=' || c = ':'
    if before.getLast? = some '!' then
      (CharSet.propertyValue? (name before.dropLast) (name value)).map CharSet.complement
    else CharSet.propertyValue? (name before) (name value)
  else CharSet.property? (name text)

/-- A Unicode property after `\p` or, if `negated`, `\P`. -/
def propertyEscape? (flags : Flags) (negated : Bool) (cs : List Char) :
    Option (CharSet × List Char) :=
  if !flags.unicode then none
  else do
    let (set, rest) ← (match skip flags cs with
      | '\x7b' :: rest =>
        match rest.dropWhile (· ≠ '\x7d') with
        | _ :: after => (bracedProperty? (rest.takeWhile (· ≠ '\x7d'))).map (·, after)
        | [] => none
      | c :: rest => (CharSet.category? (CharSet.normalName [c])).map (·, rest)
      | [] => none)
    return (negateIf negated (foldIf flags set), rest)

/-- A boundary named between braces after `\b`; any other text is left to be read as a
repetition. -/
def namedBoundary (ascii : Bool) (cs : List Char) : Option (Assertion × List Char) :=
  let name := (cs.takeWhile (· ≠ '\x7d')).drop 1
  let rest := (cs.dropWhile (· ≠ '\x7d')).drop 1
  match String.ofList name with
  | "start" => some (.wordStart ascii, rest)
  | "end" => some (.wordEnd ascii, rest)
  | "start-half" => some (.wordStartHalf ascii, rest)
  | "end-half" => some (.wordEndHalf ascii, rest)
  | _ => none

/-- The escape after a backslash. -/
def escape? (flags : Flags) : List Char → Option (Escape × List Char)
  | [] => none
  | c :: rest =>
    let ascii := !flags.unicode
    if c.isDigit then none
    else if c = 'x' ∨ c = 'u' ∨ c = 'U' then
      (hexEscape? flags c rest).map fun (d, rest) => (.literal d, rest)
    else if c = 'p' ∨ c = 'P' then
      (propertyEscape? flags (c = 'P') rest).map fun (s, rest) => (.set s, rest)
    else if "dDsSwW".toList.contains c then
      (letterClass flags c).map fun s => (.set s, rest)
    else if isEscapable c then some (.literal c, rest)
    else
      match c with
      | 'a' => some (.literal '\x07', rest)
      | 'f' => some (.literal '\x0c', rest)
      | 't' => some (.literal '\t', rest)
      | 'n' => some (.literal '\n', rest)
      | 'r' => some (.literal '\r', rest)
      | 'v' => some (.literal '\x0b', rest)
      | 'A' => some (.position .textStart, rest)
      | 'z' => some (.position .textEnd, rest)
      | 'b' =>
        match rest with
        | '\x7b' :: _ =>
          match namedBoundary ascii rest with
          | some (a, rest) => some (.position a, rest)
          | none => some (.position (.wordBoundary ascii), rest)
        | _ => some (.position (.wordBoundary ascii), rest)
      | 'B' => some (.position (.notWordBoundary ascii), rest)
      | '<' => some (.position (.wordStart ascii), rest)
      | '>' => some (.position (.wordEnd ascii), rest)
      | _ => none

/-- The set of one literal character. Without Unicode a character above ASCII is no set. -/
def literalSet? (flags : Flags) (c : Char) : Option CharSet :=
  if flags.unicode || c.toNat < 128 then some (.single c) else none

/-- One item of a class: a character or a set. -/
def classItem? (flags : Flags) : List Char → Option (Escape × List Char)
  | [] => none
  | '\\' :: rest => do
    match ← escape? flags rest with
    | (.position _, _) => none
    | item => some item
  | c :: rest => some (.literal c, rest)

/-- The first character after blanks that do not count. -/
def peekAfter (flags : Flags) (cs : List Char) : Option Char := (skip flags cs).head?

/-- One item of a class or a range of characters. -/
def classRange? (flags : Flags) (cs : List Char) : Option (CharSet × List Char) := do
  let (item, rest) ← classItem? flags cs
  let rest := skip flags rest
  let single : Option (CharSet × List Char) :=
    match item with
    | .literal c => (literalSet? flags c).map (·, rest)
    | .set s => some (s, rest)
    | .position _ => none
  match rest with
  | [] => none
  | '-' :: more =>
    let next := peekAfter flags more
    if next = some ']' ∨ next = some '-' then single
    else
      let (last, rest) ← classItem? flags (skip flags more)
      match item, last with
      | .literal first, .literal last =>
        if first ≤ last ∧ (flags.unicode ∨ last.toNat < 128) then
          some (.range first last, rest)
        else none
      | _, _ => none
  | _ :: _ => single

/-- An ASCII class such as `[:alpha:]` at the front. -/
def asciiClass? (cs : List Char) : Option (CharSet × List Char) :=
  match cs with
  | '[' :: ':' :: rest =>
    let (negated, rest) := match rest with
      | '^' :: more => (true, more)
      | more => (false, more)
    let name := rest.takeWhile (· ≠ ':')
    match rest.dropWhile (· ≠ ':') with
    | ':' :: ']' :: after =>
      (CharSet.ascii? (.ofList name)).map fun s => (negateIf negated s, after)
    | _ => none
  | _ => none

/-- The operations between the sets of a class; they bind equally and to the left. -/
inductive SetOp where
  | inter | diff | symmDiff

/-- Applies an operation; letters get their case variants first. -/
def SetOp.apply (flags : Flags) (op : SetOp) (a b : CharSet) : CharSet :=
  let a := foldIf flags a
  let b := foldIf flags b
  match op with
  | .inter => a.inter b
  | .diff => a.diff b
  | .symmDiff => a.symmDiff b

/-- Joins the set before an operation, if there is one, with the set after it. -/
def joinSets (flags : Flags) (left : Option (CharSet × SetOp)) (right : CharSet) : CharSet :=
  match left with
  | some (a, op) => op.apply flags a right
  | none => right

/-- Hyphens at the start of a class stand for themselves, and so does a closing bracket that
comes first. -/
def classStart (flags : Flags) (hyphens : Bool) : List Char → CharSet × List Char
  | [] => (if hyphens then .single '-' else .none, [])
  | c :: cs =>
    if c = '-' then classStart flags true cs
    else if flags.extended && isBlank c then classStart flags hyphens cs
    else if c = ']' && !hyphens then (.single ']', cs)
    else (if hyphens then .single '-' else .none, c :: cs)

/-- A class after its opening bracket: whether it is negated, what its start stands for, and
the text after that. -/
def openClass? (flags : Flags) (cs : List Char) : Option (Bool × CharSet × List Char) :=
  let cs := skip flags cs
  let (negated, cs) := match cs with
    | '^' :: rest => (true, skip flags rest)
    | rest => (false, rest)
  match classStart flags false cs with
  | (_, []) => none
  | (set, rest) => some (negated, set, rest)

/-- Reads a class up to its closing bracket. `left` is the set before the last operation and
`current` the union of the items since. Every step takes characters. -/
def classBody? (flags : Flags) (left : Option (CharSet × SetOp)) (current : CharSet) :
    Nat → List Char → Option (CharSet × List Char)
  | 0, _ => none
  | fuel + 1, cs =>
    match skip flags cs with
    | [] => none
    | '[' :: rest =>
      match asciiClass? ('[' :: rest) with
      | some (s, rest) => classBody? flags left (current.union s) fuel rest
      | none => do
        let (negated, start, rest) ← openClass? flags rest
        let (s, rest) ← classBody? flags none start fuel rest
        classBody? flags left (current.union (negateIf negated (foldIf flags s))) fuel rest
    | ']' :: rest => some (joinSets flags left current, rest)
    | '&' :: '&' :: rest =>
      classBody? flags (some (joinSets flags left current, .inter)) .none fuel rest
    | '-' :: '-' :: rest =>
      classBody? flags (some (joinSets flags left current, .diff)) .none fuel rest
    | '~' :: '~' :: rest =>
      classBody? flags (some (joinSets flags left current, .symmDiff)) .none fuel rest
    | cs => do
      let (s, rest) ← classRange? flags cs
      classBody? flags left (current.union s) fuel rest

/-- A class after its opening bracket. Without Unicode it must stay within ASCII. -/
def class? (flags : Flags) (cs : List Char) : Option (CharSet × List Char) := do
  let (negated, start, rest) ← openClass? flags cs
  let (s, rest) ← classBody? flags none start (rest.length + 1) rest
  let s := negateIf negated (foldIf flags s)
  if !flags.unicode && s.contains '\u0080' then none else some (s, rest)

/-- The flag of a letter. -/
def setFlag? (on : Bool) (flags : Flags) : Char → Option Flags
  | 'i' => some { flags with ignoreCase := on }
  | 'm' => some { flags with multiLine := on }
  | 's' => some { flags with dotAll := on }
  | 'U' => some { flags with swapGreed := on }
  | 'u' => some { flags with unicode := on }
  | 'R' => some { flags with carriageReturn := on }
  | 'x' => some { flags with extended := on }
  | _ => none

/-- Flag letters up to a colon or a closing parenthesis, which is returned. A letter comes
once, a minus sign once and not last. -/
def flags? (on : Bool) (seen : List Char) (flags : Flags) :
    List Char → Option (Flags × Bool × Char × List Char)
  | [] => none
  | c :: rest =>
    if c = ':' ∨ c = ')' then
      if seen.head? = some '-' then none else some (flags, seen.isEmpty, c, rest)
    else if seen.contains c then none
    else if c = '-' then flags? false (c :: seen) flags rest
    else
      match setFlag? on flags c with
      | some flags => flags? on (c :: seen) flags rest
      | none => none

/-- The name of a group up to its closing angle bracket. -/
def groupName? (cs : List Char) : Option (String × List Char) :=
  let name := cs.takeWhile (· ≠ '>')
  match name, cs.dropWhile (· ≠ '>') with
  | first :: others, _ :: rest =>
    let starts := first = '_' || Text.isAlphanumeric first && !Text.number.contains first
    let goesOn (c : Char) := c = '_' || c = '.' || c = '[' || c = ']' || Text.isAlphanumeric c
    if starts && others.all goesOn then some (.ofList name, rest) else none
  | _, _ => none

/-- A number of at most 32 bits with blanks around it. -/
def decimal? (cs : List Char) : Option (Nat × List Char) :=
  let cs := cs.dropWhile isBlank
  let digits := cs.takeWhile Char.isDigit
  let value := digits.foldl (fun n c => 10 * n + (c.toNat - '0'.toNat)) 0
  if digits.isEmpty ∨ 0x100000000 ≤ value then none
  else some (value, (cs.dropWhile Char.isDigit).dropWhile isBlank)

/-- The counts of a repetition after its opening brace. -/
def counts? (cs : List Char) : Option (Nat × Option Nat × List Char) := do
  let (least, rest) ← decimal? cs
  match rest with
  | '\x7d' :: rest => some (least, some least, rest)
  | ',' :: rest =>
    match rest.dropWhile isBlank with
    | '\x7d' :: rest => some (least, none, rest)
    | rest =>
      let (most, rest) ← decimal? rest
      match rest with
      | '\x7d' :: rest => if least ≤ most then some (least, some most, rest) else none
      | _ => none
  | _ => none

/-- An item of a sequence; a change of flags cannot be repeated. -/
inductive Item where
  | regex (r : Regex)
  | flags

/-- The sequence of items, given last first. -/
def sequence (items : List Item) : Regex :=
  items.foldl (fun r item =>
    match item with
    | .regex s => match r with
      | .empty => s
      | _ => .cat s r
    | .flags => r) .empty

/-- One of several branches, given last first. -/
def choice (branch : Regex) (others : List Regex) : Regex :=
  others.foldl (fun r other => .alt other r) branch

/-- Repeats the last item. -/
def repeatLast? (least : Nat) (most : Option Nat) : List Item → Option (List Item)
  | .regex r :: items => some (.regex (.repeated r least most) :: items)
  | _ => none

/-- What follows a repetition to turn its preference around does not matter here. -/
def dropLazyMark : List Char → List Char
  | '?' :: rest => rest
  | rest => rest

/-- The assertion of a line anchor. -/
def anchor (flags : Flags) (atStart : Bool) : Assertion :=
  if !flags.multiLine then (if atStart then .textStart else .textEnd)
  else if flags.carriageReturn then (if atStart then .lineStartAny else .lineEndAny)
  else if atStart then .lineStart else .lineEnd

/-- What the point matches. -/
def dot? (flags : Flags) : Option CharSet :=
  if !flags.unicode then none
  else if flags.dotAll then some .all
  else if flags.carriageReturn then some ⟨fun c => c ≠ '\n' && c ≠ '\r', 8⟩
  else some ⟨(· ≠ '\n'), 8⟩

/-- A single step: an escape, a point, an anchor or a literal. -/
def primitive? (flags : Flags) : List Char → Option (Regex × List Char)
  | [] => none
  | '\\' :: rest => do
    match ← escape? flags rest with
    | (.literal c, rest) => some (.chars (foldIf flags (.single c)), rest)
    | (.set s, rest) => some (.chars (foldIf flags s), rest)
    | (.position a, rest) => some (.assertion a, rest)
  | '.' :: rest => (dot? flags).map fun s => (.chars s, rest)
  | '^' :: rest => some (.assertion (anchor flags true), rest)
  | '$' :: rest => some (.assertion (anchor flags false), rest)
  | c :: rest => some (.chars (foldIf flags (.single c)), rest)

/-- What is read of an expression: the names of groups so far, the finished branches, the
items of the branch being read, last first, and the flags in force. -/
structure Progress where
  names : List String := []
  branches : List Regex := []
  items : List Item := []
  flags : Flags := {}

namespace Progress

/-- Puts an item at the end of the branch. -/
def push (p : Progress) (r : Regex) : Progress := { p with items := .regex r :: p.items }

/-- Ends a branch. -/
def endBranch (p : Progress) : Progress :=
  { p with branches := sequence p.items :: p.branches, items := [] }

/-- The expression that was read. -/
def result (p : Progress) : Regex := choice (sequence p.items) p.branches

end Progress

/-- What an opening parenthesis starts. -/
inductive Opening where
  | group (flags : Flags) (name : Option String)
  | setFlags (flags : Flags)

/-- Reads what follows an opening parenthesis up to the body of the group. -/
def opening? (flags : Flags) (cs : List Char) : Option (Opening × List Char) :=
  match skip flags cs with
  | '?' :: 'P' :: '<' :: rest | '?' :: '<' :: rest =>
    (groupName? rest).map fun (name, rest) => (.group flags (some name), rest)
  | '?' :: rest => do
    let (changed, bare, stop, rest) ← flags? true [] flags rest
    if stop = ':' then some (.group changed none, rest)
    else if bare then none
    else some (.setFlags changed, rest)
  | rest => some (.group flags none, rest)

/-- Reads an expression up to the parenthesis that closes its group, or to the end if it is not
in a group. Every step takes characters. -/
def body? (inGroup : Bool) (p : Progress) : Nat → List Char → Option (Progress × List Char)
  | 0, _ => none
  | fuel + 1, cs =>
    match skip p.flags cs with
    | [] => if inGroup then none else some (p, [])
    | ')' :: rest => if inGroup then some (p, rest) else none
    | '|' :: rest => body? inGroup p.endBranch fuel rest
    | '(' :: rest => do
      match ← opening? p.flags rest with
      | (.setFlags flags, rest) =>
        body? inGroup { p with flags, items := .flags :: p.items } fuel rest
      | (.group flags name, rest) =>
        if name.any p.names.contains then none
        else
          let inner : Progress := { names := name.toList ++ p.names, flags }
          let (inner, rest) ← body? true inner fuel rest
          body? inGroup ({ p with names := inner.names }.push inner.result) fuel rest
    | '[' :: rest => do
      let (s, rest) ← class? p.flags rest
      body? inGroup (p.push (.chars s)) fuel rest
    | '?' :: rest => do
      let items ← repeatLast? 0 (some 1) p.items
      body? inGroup { p with items } fuel (dropLazyMark rest)
    | '*' :: rest => do
      let items ← repeatLast? 0 none p.items
      body? inGroup { p with items } fuel (dropLazyMark rest)
    | '+' :: rest => do
      let items ← repeatLast? 1 none p.items
      body? inGroup { p with items } fuel (dropLazyMark rest)
    | '\x7b' :: rest => do
      let (least, most, rest) ← counts? rest
      let items ← repeatLast? least most p.items
      body? inGroup { p with items } fuel (dropLazyMark (skip p.flags rest))
    | cs => do
      let (r, rest) ← primitive? p.flags cs
      body? inGroup (p.push r) fuel rest

end Reader

/-- The number of automaton states that an expression may need. -/
def sizeLimit : Nat := 300000

/-- The expression that a text denotes. -/
def compile? (source : String) : Option Regex := do
  let cs := source.toList
  let (p, _) ← Reader.body? false {} (cs.length + 1) cs
  if p.result.size ≤ sizeLimit then some p.result else none

end SiteIndex.Pattern
