import SiteIndex.Text.Natural

/-!
# Queries

The two kinds of queries. A statement names the pages that satisfy an expression, in an order
and within a window. A selection projects attributes of pages, of all or of those that a
statement names.
-/

namespace SiteIndex.Query

/-- How an attribute is compared with an operand. -/
inductive Operator where
  | eq | ne | matches | notMatches
  deriving DecidableEq, Repr

/-- The operator keeps the pages that the comparison does not hit. -/
def Operator.isNegated : Operator → Bool
  | .ne | .notMatches => true
  | .eq | .matches => false

/-- The sign of an operator. -/
def Operator.symbol : Operator → String
  | .eq => "=="
  | .ne => "!="
  | .matches => "=~"
  | .notMatches => "!~"

/-- A regular expression as it stands in a query. -/
structure PatternLiteral where
  pattern : String
  flags : String
  deriving DecidableEq, Repr

/-- The regular expression with its flags in front. -/
def PatternLiteral.source (p : PatternLiteral) : String :=
  if p.flags = "" then p.pattern else "(?" ++ p.flags ++ ")" ++ p.pattern

/-- What an attribute is compared with. -/
inductive Operand where
  /-- Another attribute of the same page. -/
  | reference (key : String)
  | pattern (literal : PatternLiteral)
  | literal (text : String)
  deriving DecidableEq, Repr

/-- How two expressions are joined. -/
inductive Connective where
  | and | or
  deriving DecidableEq, Repr

/-- A condition on pages. -/
inductive Expression where
  | condition (kind : Connective) (left right : Expression)
  | operation (key : String) (op : Operator) (operand : Operand)
  deriving DecidableEq, Repr

/-- The direction of an order. -/
inductive Direction where
  | ascending | descending
  deriving DecidableEq, Repr

/-- The attribute that orders pages when a statement names none. -/
def defaultOrderKey : String := "url"

/-- A query for pages. -/
structure Statement where
  expression : Expression
  limit : Option UInt64 := none
  offset : Option UInt64 := none
  orderBy : Option String := none
  direction : Direction := .ascending
  deriving DecidableEq, Repr

/-- The attributes that an expression reads, with repeats. -/
def Expression.keys : Expression → List String
  | .condition _ left right => left.keys ++ right.keys
  | .operation key _ (.reference other) => [key, other]
  | .operation key _ _ => [key]

/-- Puts a name into an ascending list unless it is there. -/
def insertName (name : String) : List String → List String
  | [] => [name]
  | other :: rest =>
    match Text.Natural.compareChars name.toList other.toList with
    | .lt => name :: other :: rest
    | .eq => other :: rest
    | .gt => other :: insertName name rest

/-- The names in ascending order, each once. -/
def sortNames (names : List String) : List String := names.foldl (fun s n => insertName n s) []

namespace Statement

/-- The attribute that orders the pages. -/
def orderKey (s : Statement) : String := s.orderBy.getD defaultOrderKey

/-- Every attribute that the statement reads, the order key too, in ascending order. -/
def contextKeys (s : Statement) : List String := sortNames (s.expression.keys ++ [s.orderKey])

end Statement

/-- One attribute of a selection and what becomes of its values. -/
structure Term where
  key : String
  count : Bool := false
  random : Bool := false
  distinct : Bool := false
  deriving DecidableEq, Repr

/-- A plain term gives one value for each page. -/
def Term.isPlain (t : Term) : Bool := !t.count && !t.random && !t.distinct

/-- A projection of attributes. -/
structure Selection where
  terms : List Term
  scope : Option Statement := none
  deriving DecidableEq, Repr

end SiteIndex.Query
