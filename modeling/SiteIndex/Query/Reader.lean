import SiteIndex.Failure
import SiteIndex.Pattern.Reader
import SiteIndex.Query.Syntax
import SiteIndex.Text.AttributeName

/-!
# Reading queries

The grammar of queries:

* a statement is an expression with optional clauses `LIMIT` and `OFFSET` with a number,
  `ORDER BY` with an attribute, and `ASC`, `DESC` or `DSC`, in this order;
* an expression is two expressions joined by `AND` or `OR`, or an attribute, an operator and
  an operand, in parentheses;
* an operand is an attribute, a regular expression `m/…/` with flags, or a quoted string;
* a selection is `SELECT` and terms parted by commas, with an optional `WITHIN` and a statement;
* a term is an attribute after any of `RANDOM`, `COUNT` and `DISTINCT`.

Blanks may stand between tokens and keywords may be in any case. A text that does not follow
the grammar is refused at the first place that cannot be continued.
-/

namespace SiteIndex.Query

/-- Why a query cannot be read on. -/
inductive Fault where
  | expectedReference | expectedName
  | expectedInteger | integerRange
  | expectedOperator | expectedOperand
  | unknownEscape | unterminatedString
  | unterminatedPattern | unknownFlag (flag : Char) | invalidPattern
  | expectedOpening | expectedConnective | expectedClosing
  | expectedBy | expectedSelect
  | selectedTwice (key : String)
  | trailing
  deriving DecidableEq, Repr

/-- The text of a fault. -/
def Fault.message : Fault → String
  | .expectedReference => "expected attribute reference like .Name"
  | .expectedName => "expected attribute name after '.'"
  | .expectedInteger => "expected a non-negative integer"
  | .integerRange => "integer out of range"
  | .expectedOperator => "expected one of ==, !=, =~, !~"
  | .expectedOperand => "expected .Name, m/regexp/ or a quoted string"
  | .unknownEscape => "unknown escape sequence"
  | .unterminatedString => "unterminated string"
  | .unterminatedPattern => "unterminated regular expression"
  | .unknownFlag flag => "unknown regex flag '" ++ flag.toString ++ "'"
  | .invalidPattern => "invalid regular expression: "
  | .expectedOpening => "expected '('"
  | .expectedConnective => "expected AND or OR"
  | .expectedClosing => "expected ')'"
  | .expectedBy => "expected BY after ORDER"
  | .expectedSelect => "expected SELECT"
  | .selectedTwice key => "attribute ." ++ key ++ " selected twice"
  | .trailing => "unexpected trailing input"

/-- A fault and the text from where it stands. -/
structure Stuck where
  fault : Fault
  rest : List Char
  deriving DecidableEq, Repr

/-- What was read from the front of a text and the text after it. -/
abbrev Parsed (α : Type) := Except Stuck (α × List Char)

namespace Reader

/-- The blanks of the query language. -/
def isBlank (c : Char) : Bool := c = ' ' || c = '\t' || c = '\r' || c = '\n'

/-- Skips blanks. -/
def blanks (cs : List Char) : List Char := cs.dropWhile isBlank

/-- A character that may stand in a word. -/
def isWordChar (c : Char) : Bool := c.isAlphanum || c = '_'

/-- A character that may start an attribute name. -/
def startsName (c : Char) : Bool := c.isAlpha || c = '_'

/-- A character that may go on in an attribute name. -/
def continuesName (c : Char) : Bool := c.isAlphanum || c = '_' || c = '-'

/-- The text after a word in any case. -/
def afterWord? : List Char → List Char → Option (List Char)
  | [], cs => some cs
  | _ :: _, [] => none
  | w :: word, c :: cs => if c.toUpper = w then afterWord? word cs else none

/-- The text after a keyword, which is not the front of a longer word. -/
def keyword? (word : String) (cs : List Char) : Option (List Char) :=
  match afterWord? word.toList cs with
  | some [] => some []
  | some (c :: rest) => if isWordChar c then none else some (c :: rest)
  | none => none

/-- An attribute: a point and a name, which is put into camel case. -/
def reference : List Char → Parsed String
  | '.' :: c :: rest =>
    if startsName c then
      .ok (.ofList (Text.camelChars (c :: rest.takeWhile continuesName)),
        rest.dropWhile continuesName)
    else .error ⟨.expectedName, c :: rest⟩
  | '.' :: [] => .error ⟨.expectedName, []⟩
  | cs => .error ⟨.expectedReference, cs⟩

/-- A number of sixty-four bits. -/
def count (cs : List Char) : Parsed UInt64 :=
  let digits := cs.takeWhile Char.isDigit
  let n := digits.foldl (fun n c => 10 * n + (c.toNat - '0'.toNat)) 0
  if digits.isEmpty then .error ⟨.expectedInteger, cs⟩
  else if n < 0x10000000000000000 then .ok (.ofNat n, cs.dropWhile Char.isDigit)
  else .error ⟨.integerRange, cs⟩

/-- An operator. -/
def operator : List Char → Parsed Operator
  | '=' :: '=' :: rest => .ok (.eq, rest)
  | '!' :: '=' :: rest => .ok (.ne, rest)
  | '=' :: '~' :: rest => .ok (.matches, rest)
  | '!' :: '~' :: rest => .ok (.notMatches, rest)
  | cs => .error ⟨.expectedOperator, cs⟩

/-- The character that an escape in a string stands for. -/
def unescape? : Char → Option Char
  | 'n' => some '\n'
  | 't' => some '\t'
  | 'r' => some '\r'
  | c => if c = '\\' ∨ c = '"' ∨ c = '\'' then some c else none

/-- The rest of a string up to the quote that ends it; `start` is the text from its first
quote. -/
def stringBody (quote : Char) (start : List Char) : List Char → Parsed (List Char)
  | [] => .error ⟨.unterminatedString, start⟩
  | '\\' :: [] => .error ⟨.unterminatedString, start⟩
  | '\\' :: c :: rest =>
    match unescape? c with
    | some d => (stringBody quote start rest).map fun (text, rest) => (d :: text, rest)
    | none => .error ⟨.unknownEscape, c :: rest⟩
  | c :: rest =>
    if c = quote then .ok ([], rest)
    else (stringBody quote start rest).map fun (text, rest) => (c :: text, rest)

/-- The rest of a pattern up to the slash that ends it, and the text after the slash. A slash
in it is written with a backslash; all other escapes belong to the pattern. -/
def patternBody? : List Char → Option (List Char × List Char)
  | [] => none
  | '/' :: rest => some ([], rest)
  | '\\' :: [] => none
  | '\\' :: '/' :: rest => (patternBody? rest).map fun (p, rest) => ('/' :: p, rest)
  | '\\' :: c :: rest => (patternBody? rest).map fun (p, rest) => ('\\' :: c :: p, rest)
  | c :: rest => (patternBody? rest).map fun (p, rest) => (c :: p, rest)

/-- The flags that a pattern may have. -/
def isFlag (c : Char) : Bool := c = 'i' || c = 'm' || c = 's' || c = 'x' || c = 'U'

/-- A pattern after its opening `m/`; `start` is the text from there. -/
def patternLiteral (start body : List Char) : Parsed PatternLiteral :=
  match patternBody? body with
  | none => .error ⟨.unterminatedPattern, start⟩
  | some (pattern, rest) =>
    let flags := rest.takeWhile Char.isAlpha
    match flags.find? (!isFlag ·) with
    | some bad => .error ⟨.unknownFlag bad, rest⟩
    | none =>
      let literal : PatternLiteral := ⟨.ofList pattern, .ofList flags⟩
      if (Pattern.compile? literal.source).isSome then
        .ok (literal, rest.dropWhile Char.isAlpha)
      else .error ⟨.invalidPattern, start⟩

/-- An operand. -/
def operand : List Char → Parsed Operand
  | '.' :: rest => (reference ('.' :: rest)).map fun (key, rest) => (.reference key, rest)
  | 'm' :: '/' :: rest =>
    (patternLiteral ('m' :: '/' :: rest) rest).map fun (p, rest) => (.pattern p, rest)
  | c :: rest =>
    if c = '"' ∨ c = '\'' then
      (stringBody c (c :: rest) rest).map fun (text, rest) => (.literal (.ofList text), rest)
    else .error ⟨.expectedOperand, c :: rest⟩
  | [] => .error ⟨.expectedOperand, []⟩

/-- The word between two expressions. -/
def connective (cs : List Char) : Parsed Connective :=
  match keyword? "AND" cs with
  | some rest => .ok (.and, rest)
  | none =>
    match keyword? "OR" cs with
    | some rest => .ok (.or, rest)
    | none => .error ⟨.expectedConnective, cs⟩

/-- The parenthesis that ends an expression. -/
def closing : List Char → Parsed Unit
  | ')' :: rest => .ok ((), rest)
  | cs => .error ⟨.expectedClosing, cs⟩

/-- An attribute, an operator and an operand. -/
def comparison (cs : List Char) : Except Stuck (Expression × List Char) := do
  let (key, rest) ← reference cs
  let (op, rest) ← operator (blanks rest)
  let (operand, rest) ← operand (blanks rest)
  return (.operation key op operand, rest)

/-- An expression of at most `depth` nested parentheses. No text has more of them than
characters, so its length is always enough. -/
def expression : Nat → List Char → Except Stuck (Expression × List Char)
  | depth + 1, '(' :: rest => do
    let (e, rest) ←
      match blanks rest with
      | '(' :: more => do
        let (left, rest) ← expression depth ('(' :: more)
        let (kind, rest) ← connective (blanks rest)
        let (right, rest) ← expression depth (blanks rest)
        pure (.condition kind left right, rest)
      | cs => comparison cs
    let ((), rest) ← closing (blanks rest)
    return (e, rest)
  | _, cs => .error ⟨.expectedOpening, cs⟩

/-- An optional clause of a keyword and what follows it. Without the keyword nothing is
taken. -/
def clause {α : Type} (word : String) (body : List Char → Parsed α) (cs : List Char) :
    Parsed (Option α) :=
  match keyword? word (blanks cs) with
  | some rest => (body (blanks rest)).map fun (x, rest) => (some x, rest)
  | none => .ok (none, cs)

/-- The order clause after its first word. -/
def orderBody (cs : List Char) : Parsed String :=
  match keyword? "BY" cs with
  | some rest => reference (blanks rest)
  | none => .error ⟨.expectedBy, cs⟩

/-- The direction and the text after it. -/
def direction (cs : List Char) : Direction × List Char :=
  match keyword? "ASC" (blanks cs) with
  | some rest => (.ascending, rest)
  | none =>
    match (keyword? "DESC" (blanks cs)).or (keyword? "DSC" (blanks cs)) with
    | some rest => (.descending, rest)
    | none => (.ascending, cs)

/-- A statement. -/
def statement (cs : List Char) : Except Stuck (Statement × List Char) := do
  let (e, rest) ← expression cs.length (blanks cs)
  let (limit, rest) ← clause "LIMIT" count rest
  let (offset, rest) ← clause "OFFSET" count rest
  let (orderBy, rest) ← clause "ORDER" orderBody rest
  let (dir, rest) := direction rest
  return ({ expression := e, limit, offset, orderBy, direction := dir }, rest)

/-- A word in front of a selected attribute. -/
def modifier? (cs : List Char) : Option ((Term → Term) × List Char) :=
  match keyword? "RANDOM" cs with
  | some rest => some (fun t => { t with random := true }, rest)
  | none =>
    match keyword? "COUNT" cs with
    | some rest => some (fun t => { t with count := true }, rest)
    | none => (keyword? "DISTINCT" cs).map fun rest => (fun t => { t with distinct := true }, rest)

/-- A term after `t` has got its words so far. Every word takes characters, so that the length
of the text bounds their number. -/
def termFrom (t : Term) : Nat → List Char → Parsed Term
  | fuel + 1, cs =>
    match modifier? (blanks cs) with
    | some (mark, rest) => termFrom (mark t) fuel rest
    | none => (reference (blanks cs)).map fun (key, rest) => ({ t with key }, rest)
  | 0, cs => (reference (blanks cs)).map fun (key, rest) => ({ t with key }, rest)

/-- A term. -/
def term (cs : List Char) : Parsed Term := termFrom { key := "" } cs.length cs

/-- Terms parted by commas, none with an attribute that another has. `seen` holds the
attributes so far; every term takes characters. -/
def terms (seen : List String) : Nat → List Char → Except Stuck (List Term × List Char)
  | 0, cs => .error ⟨.expectedReference, cs⟩
  | fuel + 1, cs => do
    let start := blanks cs
    let (t, rest) ← term start
    if seen.contains t.key then throw ⟨.selectedTwice t.key, start⟩
    match blanks rest with
    | ',' :: more => do
      let (others, rest) ← terms (t.key :: seen) fuel more
      return (t :: others, rest)
    | _ => return ([t], rest)

/-- A selection. -/
def selection (cs : List Char) : Except Stuck (Selection × List Char) := do
  let start := blanks cs
  match keyword? "SELECT" start with
  | none => throw ⟨.expectedSelect, start⟩
  | some rest =>
    let (terms, rest) ← terms [] (rest.length + 1) rest
    let (scope, rest) ← clause "WITHIN" statement rest
    return ({ terms, scope }, rest)

/-- What a text holds besides blanks at its end; nothing else may follow. -/
def whole {α : Type} (read : List Char → Parsed α) (cs : List Char) : Except Stuck α := do
  let (x, rest) ← read cs
  match blanks rest with
  | [] => return x
  | rest => throw ⟨.trailing, rest⟩

/-- The fault as an error at the column of its place, counted in characters from 1. -/
def toSyntaxError (text : String) (stuck : Stuck) : SyntaxError :=
  .make text (text.toList.length - stuck.rest.length + 1) stuck.fault.message

end Reader

/-- The statement that a text denotes. -/
def readStatement (text : String) : Except SyntaxError Statement :=
  (Reader.whole Reader.statement text.toList).mapError (Reader.toSyntaxError text)

/-- The selection that a text denotes. -/
def readSelection (text : String) : Except SyntaxError Selection :=
  (Reader.whole Reader.selection text.toList).mapError (Reader.toSyntaxError text)

end SiteIndex.Query
