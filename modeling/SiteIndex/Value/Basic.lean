import SiteIndex.Binary64.Shortest
import SiteIndex.Failure
import SiteIndex.Json
import SiteIndex.Text.Natural
import SiteIndex.Time.Reader
import SiteIndex.Time.Span

/-!
# Attribute values

The typed values that pages carry under their attributes. A list only groups values: what is
indexed are its scalars (`Value.fanOut`). Literals of a query take the type of the value they
are compared with (`Value.ofLiteral`), equality asks for equal types (`Value.equals`), and
sorting orders values of any types (`Value.compareTo`).
-/

namespace SiteIndex

open Time (Instant Span)

/-- An attribute value. -/
inductive Value where
  | bool (value : Bool)
  | int (value : Int64)
  | float (value : Binary64)
  | time (value : Instant)
  | duration (value : Span)
  | text (value : String)
  | list (items : List Value)
  deriving Repr, Inhabited

namespace Value

mutual

/-- Values are compared variant by variant and bit by bit. -/
def decEq : (a b : Value) → Decidable (a = b)
  | .bool a, .bool b => decidable_of_iff (a = b) (by simp)
  | .int a, .int b => decidable_of_iff (a = b) (by simp)
  | .float a, .float b => decidable_of_iff (a = b) (by simp)
  | .time a, .time b => decidable_of_iff (a = b) (by simp)
  | .duration a, .duration b => decidable_of_iff (a = b) (by simp)
  | .text a, .text b => decidable_of_iff (a = b) (by simp)
  | .list a, .list b => @decidable_of_iff _ (a = b) (by simp) (decEqList a b)
  | .bool _, .int _ | .bool _, .float _ | .bool _, .time _ | .bool _, .duration _
  | .bool _, .text _ | .bool _, .list _
  | .int _, .bool _ | .int _, .float _ | .int _, .time _ | .int _, .duration _
  | .int _, .text _ | .int _, .list _
  | .float _, .bool _ | .float _, .int _ | .float _, .time _ | .float _, .duration _
  | .float _, .text _ | .float _, .list _
  | .time _, .bool _ | .time _, .int _ | .time _, .float _ | .time _, .duration _
  | .time _, .text _ | .time _, .list _
  | .duration _, .bool _ | .duration _, .int _ | .duration _, .float _ | .duration _, .time _
  | .duration _, .text _ | .duration _, .list _
  | .text _, .bool _ | .text _, .int _ | .text _, .float _ | .text _, .time _
  | .text _, .duration _ | .text _, .list _
  | .list _, .bool _ | .list _, .int _ | .list _, .float _ | .list _, .time _
  | .list _, .duration _ | .list _, .text _ => isFalse (by simp)

/-- Lists of values are compared item by item. -/
def decEqList : (as bs : List Value) → Decidable (as = bs)
  | [], [] => isTrue rfl
  | [], _ :: _ => isFalse (by simp)
  | _ :: _, [] => isFalse (by simp)
  | a :: as, b :: bs =>
    match decEq a b, decEqList as bs with
    | isTrue h, isTrue hs => isTrue (by rw [h, hs])
    | isFalse h, _ => isFalse fun e => h (List.cons.inj e).1
    | _, isFalse hs => isFalse fun e => hs (List.cons.inj e).2

end

instance : DecidableEq Value := decEq

/-- The name of a value's type in messages. -/
def typeName : Value → String
  | .bool _ => "bool"
  | .int _ => "int"
  | .float _ => "float"
  | .time _ => "time"
  | .duration _ => "duration"
  | .text _ => "string"
  | .list _ => "list"

/-- The text of a text value. -/
def asText? : Value → Option String
  | .text s => some s
  | _ => none

/-- The value is a list. -/
def isList : Value → Bool
  | .list _ => true
  | _ => false

mutual

/-- The scalars that a value is indexed under: itself, or those of a list's items in order. -/
def fanOut : Value → List Value
  | .list items => fanOutAll items
  | scalar => [scalar]

/-- The scalars of several values, in order. -/
def fanOutAll : List Value → List Value
  | [] => []
  | item :: rest => fanOut item ++ fanOutAll rest

end

mutual

/-- The text of a value as people read it. -/
def display : Value → String
  | .bool b => if b then "true" else "false"
  | .int i => toString i.toInt
  | .float x => x.text
  | .time t => t.text
  | .duration d => d.text
  | .text s => s
  | .list items => "[" ++ ", ".intercalate (displayAll items) ++ "]"

/-- The texts of several values. -/
def displayAll : List Value → List String
  | [] => []
  | item :: rest => display item :: displayAll rest

end

mutual

/-- Plain JSON: times and durations become texts and a float that is no number null. -/
def toJson : Value → Json
  | .bool b => .bool b
  | .int i => .int i.toInt
  | .float x => if x.isFinite then .float x else .null
  | .time t => .text t.text
  | .duration d => .text d.text
  | .text s => .text s
  | .list items => .array (toJsonAll items)

/-- The plain JSON of several values. -/
def toJsonAll : List Value → List Json
  | [] => []
  | item :: rest => toJson item :: toJsonAll rest

end

/-- The integer of 64 bits that an optional sign and decimal digits denote. -/
def readInt? (text : String) : Option Int64 :=
  let (negative, digits) := Binary64.splitSign text.toList
  if !digits.isEmpty && digits.all Char.isDigit then
    let n : Int := Binary64.digitsValue digits
    let n := if negative then -n else n
    if Int64.minValue.toInt ≤ n ∧ n ≤ Int64.maxValue.toInt then some (.ofInt n) else none
  else none

/-- The literal as a value of the type of `like`; a literal that has no such reading is a
mismatch and never silently unequal. -/
def ofLiteral (like : Value) (literal : String) : Outcome Value :=
  let mismatch := Failure.literalMismatch like.typeName literal
  let read : Option Value :=
    match like with
    | .text _ => some (.text literal)
    | .bool _ =>
      if literal = "true" then some (.bool true)
      else if literal = "false" then some (.bool false)
      else none
    | .int _ => (readInt? literal).map .int
    | .float _ => (Binary64.read? literal).map .float
    | .time _ => (Instant.read? literal).map .time
    | .duration _ => (Span.read? literal).map .duration
    | .list _ => none
  match read with
  | some value => .ok value
  | none => .error mismatch

/-- Equality of scalars of one type; all else cannot be compared. -/
def equals : Value → Value → Outcome Bool
  | .bool a, .bool b => .ok (a == b)
  | .int a, .int b => .ok (a == b)
  | .float a, .float b => .ok (a.sameNumber b)
  | .time a, .time b => .ok (a == b)
  | .duration a, .duration b => .ok (a == b)
  | .text a, .text b => .ok (a == b)
  | a, b => .error (.typeMismatch a.typeName b.typeName)

/-- The place of a type when values of different types are sorted. -/
def rank : Value → Nat
  | .bool _ => 0
  | .int _ => 1
  | .float _ => 1
  | .duration _ => 2
  | .time _ => 3
  | .text _ => 4
  | .list _ => 5

/-- The order of texts by code points. -/
def compareText (a b : String) : Ordering := Text.Natural.compareChars a.toList b.toList

/-- The order in which values are sorted: within a type by value, an integer beside a float
as the nearest double, lists by length, and otherwise by type. -/
def compareTo : Value → Value → Ordering
  | .text a, .text b => compareText a b
  | .int a, .int b => compare a.toInt b.toInt
  | .float a, .float b => a.compareTotal b
  | .int a, .float b => (Binary64.ofInt a.toInt).compareTotal b
  | .float a, .int b => a.compareTotal (.ofInt b.toInt)
  | .time a, .time b => a.compareTo b
  | .duration a, .duration b => a.compareTo b
  | .bool a, .bool b => compare a.toNat b.toNat
  | .list a, .list b => compare a.length b.length
  | a, b => compare a.rank b.rank

end Value

end SiteIndex
