import Mathlib.Data.Nat.Digits.Defs
import SiteIndex.Query.Syntax
import SiteIndex.Query.Reader

/-!
# The grammar of queries

The grammar as relations between texts and what they denote. `XAt cs x rest` says that the text
`cs` is an X that denotes `x`, followed by `rest`. Nothing here says how a text is read: blanks
may be cut off anywhere, optional parts may be left out wherever the rules allow it, and there
is no order in which rules are tried. A text is in the language if only blanks are left of it
(`Derives`).
-/

namespace SiteIndex.Query.Grammar

open Reader (isBlank isWordChar startsName continuesName isFlag)

/-! ## Tokens -/

/-- A text does not go on with a character of a class. -/
def NotNext (p : Char → Bool) (rest : List Char) : Prop := ∀ c ∈ rest.head?, p c = false

/-- Any number of blanks. -/
def BlanksAt (cs rest : List Char) : Prop :=
  ∃ front, (∀ c ∈ front, isBlank c = true) ∧ cs = front ++ rest

/-- A keyword in any case, which is not the front of a longer word. -/
def KeywordAt (word : String) (cs rest : List Char) : Prop :=
  ∃ front : List Char, front.map Char.toUpper = word.toList ∧ NotNext isWordChar rest ∧
    cs = front ++ rest

/-- A point and the longest name after it, which denotes the attribute in camel case. -/
def AttributeAt (cs : List Char) (key : String) (rest : List Char) : Prop :=
  ∃ c name, startsName c = true ∧ (∀ d ∈ name, continuesName d = true) ∧
    NotNext continuesName rest ∧ cs = '.' :: c :: (name ++ rest) ∧
    key = Text.camelCase (.ofList (c :: name))

/-- The number that a decimal digit stands for. -/
def digitValue (d : Char) : Nat := d.toNat - '0'.toNat

/-- The longest run of decimal digits, for a number that fits sixty-four bits. -/
def NumberAt (cs : List Char) (n : UInt64) (rest : List Char) : Prop :=
  ∃ digits : List Char, digits ≠ [] ∧ (∀ d ∈ digits, d.isDigit = true) ∧
    NotNext Char.isDigit rest ∧ cs = digits ++ rest ∧
    n.toNat = Nat.ofDigits 10 (digits.reverse.map digitValue)

/-- The sign of an operator. -/
def OperatorAt (cs : List Char) (op : Operator) (rest : List Char) : Prop :=
  cs = op.symbol.toList ++ rest

/-- What is written after a backslash in a string, and the character that it denotes. -/
inductive Escape : Char → Char → Prop where
  | newline : Escape 'n' '\n'
  | tab : Escape 't' '\t'
  | carriage : Escape 'r' '\r'
  | backslash : Escape '\\' '\\'
  | doubleQuote : Escape '"' '"'
  | singleQuote : Escape '\'' '\''

/-- A string after its opening quote, up to the next one that is not escaped. -/
inductive QuotedAt (quote : Char) : List Char → List Char → List Char → Prop where
  | close {rest} : QuotedAt quote (quote :: rest) [] rest
  | plain {c cs text rest} : c ≠ quote → c ≠ '\\' → QuotedAt quote cs text rest →
      QuotedAt quote (c :: cs) (c :: text) rest
  | escape {e c cs text rest} : Escape e c → QuotedAt quote cs text rest →
      QuotedAt quote ('\\' :: e :: cs) (c :: text) rest

/-- A string in double or single quotes. -/
def LiteralAt (cs : List Char) (text : String) (rest : List Char) : Prop :=
  ∃ quote body chars, (quote = '"' ∨ quote = '\'') ∧ cs = quote :: body ∧
    QuotedAt quote body chars rest ∧ text = .ofList chars

/-- A pattern after its opening slash. A slash in it is written with a backslash, and all other
escapes belong to the pattern. -/
inductive PatternBodyAt : List Char → List Char → List Char → Prop where
  | close {rest} : PatternBodyAt ('/' :: rest) [] rest
  | slash {cs p rest} : PatternBodyAt cs p rest → PatternBodyAt ('\\' :: '/' :: cs) ('/' :: p) rest
  | escape {c cs p rest} : c ≠ '/' → PatternBodyAt cs p rest →
      PatternBodyAt ('\\' :: c :: cs) ('\\' :: c :: p) rest
  | plain {c cs p rest} : c ≠ '/' → c ≠ '\\' → PatternBodyAt cs p rest →
      PatternBodyAt (c :: cs) (c :: p) rest

/-- A regular expression with its flags, which the engine for regular expressions takes. -/
def PatternAt (cs : List Char) (p : PatternLiteral) (rest : List Char) : Prop :=
  ∃ body chars flags, cs = 'm' :: '/' :: body ∧ PatternBodyAt body chars (flags ++ rest) ∧
    (∀ c ∈ flags, isFlag c = true) ∧ p = ⟨.ofList chars, .ofList flags⟩ ∧
    (Pattern.compile? p.source).isSome = true

/-- What an attribute is compared with. -/
inductive OperandAt : List Char → Operand → List Char → Prop where
  | reference {cs key rest} : AttributeAt cs key rest → OperandAt cs (.reference key) rest
  | pattern {cs p rest} : PatternAt cs p rest → OperandAt cs (.pattern p) rest
  | literal {cs text rest} : LiteralAt cs text rest → OperandAt cs (.literal text) rest

/-! ## Expressions and statements -/

/-- The word between two expressions. -/
inductive ConnectiveAt : List Char → Connective → List Char → Prop where
  | and {cs rest} : KeywordAt "AND" cs rest → ConnectiveAt cs .and rest
  | or {cs rest} : KeywordAt "OR" cs rest → ConnectiveAt cs .or rest

/-- An expression in its parentheses. -/
inductive ExpressionAt : List Char → Expression → List Char → Prop where
  | condition {c₁ c₂ c₃ c₄ c₅ c₆ c₇ rest left kind right} :
      BlanksAt c₁ c₂ → ExpressionAt c₂ left c₃ → BlanksAt c₃ c₄ → ConnectiveAt c₄ kind c₅ →
      BlanksAt c₅ c₆ → ExpressionAt c₆ right c₇ → BlanksAt c₇ (')' :: rest) →
      ExpressionAt ('(' :: c₁) (.condition kind left right) rest
  | operation {c₁ c₂ c₃ c₄ c₅ c₆ c₇ rest key op operand} :
      BlanksAt c₁ c₂ → AttributeAt c₂ key c₃ → BlanksAt c₃ c₄ → OperatorAt c₄ op c₅ →
      BlanksAt c₅ c₆ → OperandAt c₆ operand c₇ → BlanksAt c₇ (')' :: rest) →
      ExpressionAt ('(' :: c₁) (.operation key op operand) rest

/-- An optional clause of a keyword and a body. -/
inductive ClauseAt {α : Type} (word : String) (BodyAt : List Char → α → List Char → Prop) :
    List Char → Option α → List Char → Prop where
  | absent {cs} : ClauseAt word BodyAt cs none cs
  | present {cs c₁ c₂ c₃ x rest} : BlanksAt cs c₁ → KeywordAt word c₁ c₂ → BlanksAt c₂ c₃ →
      BodyAt c₃ x rest → ClauseAt word BodyAt cs (some x) rest

/-- The order clause after its first word. -/
def OrderAt (cs : List Char) (key : String) (rest : List Char) : Prop :=
  ∃ c₁ c₂, KeywordAt "BY" cs c₁ ∧ BlanksAt c₁ c₂ ∧ AttributeAt c₂ key rest

/-- An optional direction. -/
inductive DirectionAt : List Char → Direction → List Char → Prop where
  | absent {cs} : DirectionAt cs .ascending cs
  | asc {cs c₁ rest} : BlanksAt cs c₁ → KeywordAt "ASC" c₁ rest → DirectionAt cs .ascending rest
  | desc {cs c₁ rest} : BlanksAt cs c₁ → KeywordAt "DESC" c₁ rest → DirectionAt cs .descending rest
  | dsc {cs c₁ rest} : BlanksAt cs c₁ → KeywordAt "DSC" c₁ rest → DirectionAt cs .descending rest

/-- A statement: an expression and its optional clauses in their order. -/
inductive StatementAt : List Char → Statement → List Char → Prop where
  | mk {cs c₁ c₂ c₃ c₄ c₅ rest expression limit offset orderBy direction} :
      BlanksAt cs c₁ → ExpressionAt c₁ expression c₂ → ClauseAt "LIMIT" NumberAt c₂ limit c₃ →
      ClauseAt "OFFSET" NumberAt c₃ offset c₄ → ClauseAt "ORDER" OrderAt c₄ orderBy c₅ →
      DirectionAt c₅ direction rest →
      StatementAt cs { expression, limit, offset, orderBy, direction } rest

/-! ## Selections -/

/-- A term: an attribute after any number of words in any order. -/
inductive TermAt : List Char → Term → List Char → Prop where
  | plain {cs key rest} : AttributeAt cs key rest → TermAt cs { key } rest
  | random {cs c₁ c₂ t rest} : KeywordAt "RANDOM" cs c₁ → BlanksAt c₁ c₂ → TermAt c₂ t rest →
      TermAt cs { t with random := true } rest
  | count {cs c₁ c₂ t rest} : KeywordAt "COUNT" cs c₁ → BlanksAt c₁ c₂ → TermAt c₂ t rest →
      TermAt cs { t with count := true } rest
  | distinct {cs c₁ c₂ t rest} : KeywordAt "DISTINCT" cs c₁ → BlanksAt c₁ c₂ →
      TermAt c₂ t rest → TermAt cs { t with distinct := true } rest

/-- Terms parted by commas. -/
inductive TermsAt : List Char → List Term → List Char → Prop where
  | last {cs c₁ t rest} : BlanksAt cs c₁ → TermAt c₁ t rest → TermsAt cs [t] rest
  | more {cs c₁ c₂ c₃ t ts rest} : BlanksAt cs c₁ → TermAt c₁ t c₂ → BlanksAt c₂ (',' :: c₃) →
      TermsAt c₃ ts rest → TermsAt cs (t :: ts) rest

/-- A selection of attributes, none of them twice, of all pages or of those of a statement. -/
inductive SelectionAt : List Char → Selection → List Char → Prop where
  | mk {cs c₁ c₂ c₃ rest terms scope} :
      BlanksAt cs c₁ → KeywordAt "SELECT" c₁ c₂ → TermsAt c₂ terms c₃ →
      (terms.map Term.key).Nodup → ClauseAt "WITHIN" StatementAt c₃ scope rest →
      SelectionAt cs { terms, scope } rest

/-- A whole text denotes something; blanks may stand behind it. -/
def Derives {α : Type} (At : List Char → α → List Char → Prop) (text : String) (a : α) : Prop :=
  ∃ rest, At text.toList a rest ∧ BlanksAt rest []

end SiteIndex.Query.Grammar
