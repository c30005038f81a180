import SiteIndex.Query.Syntax

/-!
# Written form of queries

`Statement.text` and `Selection.text` write a query so that reading it gives the query back.
-/

namespace SiteIndex.Query

/-- A character of a literal between double quotes. -/
def escapeLiteralChar (c : Char) : List Char :=
  if c = '"' then ['\\', '"']
  else if c = '\\' then ['\\', '\\']
  else if c = '\n' then ['\\', 'n']
  else if c = '\t' then ['\\', 't']
  else if c = '\r' then ['\\', 'r']
  else [c]

/-- A character of a pattern between slashes. -/
def escapePatternChar (c : Char) : List Char := if c = '/' then ['\\', '/'] else [c]

/-- The written form of an operand. -/
def Operand.chars : Operand → List Char
  | .reference key => '.' :: key.toList
  | .pattern p =>
    'm' :: '/' :: p.pattern.toList.flatMap escapePatternChar ++ '/' :: p.flags.toList
  | .literal text => '"' :: text.toList.flatMap escapeLiteralChar ++ ['"']

/-- The word of a connective. -/
def Connective.word : Connective → String
  | .and => "AND"
  | .or => "OR"

/-- The written form of an expression. -/
def Expression.chars : Expression → List Char
  | .condition kind left right =>
    '(' :: left.chars ++ ' ' :: kind.word.toList ++ ' ' :: right.chars ++ [')']
  | .operation key op operand =>
    '(' :: '.' :: key.toList ++ ' ' :: op.symbol.toList ++ ' ' :: operand.chars ++ [')']

/-- A clause of a word and a number, if there is a number. -/
def countClause (word : String) : Option UInt64 → List Char
  | some n => ' ' :: word.toList ++ ' ' :: Nat.toDigits 10 n.toNat
  | none => []

/-- The order clause, if there is one. -/
def orderClause : Option String → List Char
  | some key => " ORDER BY .".toList ++ key.toList
  | none => []

/-- The direction, which is written only if it is not the usual one. -/
def directionClause : Direction → List Char
  | .ascending => []
  | .descending => " DESC".toList

/-- The written form of a statement. -/
def Statement.chars (s : Statement) : List Char :=
  s.expression.chars ++ countClause "LIMIT" s.limit ++ countClause "OFFSET" s.offset
    ++ orderClause s.orderBy ++ directionClause s.direction

/-- The text of a statement. -/
def Statement.text (s : Statement) : String := .ofList s.chars

/-- The words in front of a selected attribute. -/
def Term.modifiers (t : Term) : List Char :=
  (if t.random then "RANDOM ".toList else [])
    ++ (if t.count then "COUNT ".toList else [])
    ++ (if t.distinct then "DISTINCT ".toList else [])

/-- The written form of a term. -/
def Term.chars (t : Term) : List Char := t.modifiers ++ '.' :: t.key.toList

/-- The terms of a selection parted by commas. -/
def termsChars : List Term → List Char
  | [] => []
  | [t] => t.chars
  | t :: rest => t.chars ++ ',' :: ' ' :: termsChars rest

/-- The written form of a selection. -/
def Selection.chars (s : Selection) : List Char :=
  "SELECT ".toList ++ termsChars s.terms ++
    match s.scope with
    | some statement => " WITHIN ".toList ++ statement.chars
    | none => []

/-- The text of a selection. -/
def Selection.text (s : Selection) : String := .ofList s.chars

end SiteIndex.Query
