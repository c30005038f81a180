import SiteIndex.Binary64.Read
import SiteIndex.Yaml.Basic
import SiteIndex.Yaml.Scalar

/-!
# What scalars stand for

A plain scalar without a tag is null, a boolean, a number or else a text. Integers take up to
sixty-four bits; those that take up to a hundred and twenty-eight are refused, and longer ones
are floats. A zero in front of other digits makes a text. Tags of the core schema say which of
these a scalar must be.
-/

namespace SiteIndex.Yaml

/-- The words for null. -/
def isNull (s : String) : Bool := s = "null" || s = "Null" || s = "NULL" || s = "~"

/-- The words for the two booleans. -/
def readBool? (s : String) : Option Bool :=
  if s = "true" || s = "True" || s = "TRUE" then some true
  else if s = "false" || s = "False" || s = "FALSE" then some false
  else none

/-- The value of a digit in a base. -/
def digitIn? (base : Nat) (c : Char) : Option Nat := do
  let n ← hexDigit? c
  if n < base then some n else none

/-- The number that digits of a base write, at least one. -/
def readDigits? (base : Nat) (cs : List Char) : Option Nat :=
  if cs.isEmpty then none else cs.foldlM (fun n c => return n * base + (← digitIn? base c)) 0

/-- Digits after the mark of their base. -/
def readMarked? : List Char → Option Nat
  | '0' :: 'x' :: rest => readDigits? 16 rest
  | '0' :: 'o' :: rest => readDigits? 8 rest
  | '0' :: 'b' :: rest => readDigits? 2 rest
  | _ => none

/-- Digits after a zero, which are no number. -/
def isPaddedDigits : List Char → Bool
  | '0' :: d :: rest => d.isDigit && rest.all Char.isDigit
  | _ => false

/-- A number without a sign. -/
def readUnsigned? (cs : List Char) : Option Nat :=
  (readMarked? cs).or (if isPaddedDigits cs then none else readDigits? 10 cs)

/-- A whole number and its size. -/
inductive Integral where
  | small (n : Int)
  | medium
  | large
  deriving DecidableEq, Repr

/-- Integers that fit sixty-four bits, with or without a sign, are small; those that fit a
hundred and twenty-eight are medium. -/
def Integral.ofInt (n : Int) : Integral :=
  if -0x8000000000000000 ≤ n ∧ n < 0x10000000000000000 then .small n
  else if -0x80000000000000000000000000000000 ≤ n
      ∧ n < 0x100000000000000000000000000000000 then .medium
  else .large

/-- A whole number with an optional sign. -/
def readIntegral? (cs : List Char) : Option Integral :=
  match cs with
  | '-' :: rest => (readUnsigned? rest).map fun n => .ofInt (-n)
  | '+' :: rest => (readUnsigned? rest).map fun n => .ofInt n
  | _ => (readUnsigned? cs).map fun n => .ofInt n

/-- A digit string with an optional sign that is no number because of a zero in front. -/
def isPadded (cs : List Char) : Bool := isPaddedDigits (Binary64.splitSign cs).2

/-- A float. Infinities and NaN have words of their own, and a number must be finite. -/
def readFloat? (s : String) : Option Binary64 :=
  let finite (text : String) := (Binary64.read? text).filter Binary64.isFinite
  if s = ".inf" || s = ".Inf" || s = ".INF" || s = "+.inf" || s = "+.Inf" || s = "+.INF" then
    some (.infinity false)
  else if s = "-.inf" || s = "-.Inf" || s = "-.INF" then some (.infinity true)
  else if s = ".nan" || s = ".NaN" || s = ".NAN" then some (.nan false)
  else
    match s.toList with
    | '+' :: '+' :: _ => none
    | '+' :: '-' :: _ => none
    | _ => finite s

/-- The value of a plain scalar without a tag. -/
def ofPlain? (s : String) : Option Yaml :=
  if s.isEmpty || isNull s then some .null
  else
    match readBool? s with
    | some b => some (.bool b)
    | none =>
      match readIntegral? s.toList with
      | some (.small n) => some (.int n)
      | some .medium => none
      | _ =>
        match if isPadded s.toList then none else readFloat? s with
        | some x => some (.float x)
        | none => some (.text s)

/-- The tags of the core schema. -/
def coreTag (name : String) : String := "tag:yaml.org,2002:" ++ name

/-- The value of a scalar. A tag of the core schema refuses other scalars; a tag that has been
taken note of by the caller counts as none. -/
def ofScalar? (tag : Option String) (plain : Bool) (s : String) : Option Yaml :=
  match tag with
  | none => if plain then ofPlain? s else some (.text s)
  | some tag =>
    if tag = coreTag "bool" then (readBool? s).map .bool
    else if tag = coreTag "int" then
      match readIntegral? s.toList with
      | some (.small n) => some (.int n)
      | _ => none
    else if tag = coreTag "float" then (readFloat? s).map .float
    else if tag = coreTag "null" then (if isNull s then some .null else none)
    else some (.text s)

end SiteIndex.Yaml
