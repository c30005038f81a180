import SiteIndex.Query.Matching
import SiteIndex.Random

/-!
# Projecting attributes

A selection looks at a list of rows, the pages of its statement in their order or else all
pages that have a selected attribute, and gives for each term what became of the values: a
column with a slot for every row, or the distinct values, their number, or a random one.
-/

namespace SiteIndex.Query

open Posting (StubSet Tables.values Tables.shasums ValuePostings)
open SiteIndex.Random (Generator)

/-- What became of the values of a term. -/
inductive Selected where
  | null
  | scalar (value : Value)
  | count (n : Nat)
  | values (values : List Value)
  /-- One slot for every row. -/
  | column (slots : List (Option Value))
  deriving DecidableEq

/-- Plain JSON. -/
def Selected.toJson : Selected → Json
  | .null => .null
  | .scalar v => v.toJson
  | .count n => .int n
  | .values vs => .array (vs.map Value.toJson)
  | .column slots => .array (slots.map fun slot => (slot.map Value.toJson).getD .null)

/-- The first value of each row. -/
def column (entries : List ValuePostings) (rows : List UInt32) : List (Option Value) :=
  rows.map fun row => (entries.find? (·.postings.contains row)).map (·.value)

/-- What becomes of the values of a term. Only a random pick among values draws a number. -/
def project (t : Term) (entries : List ValuePostings) (rows : List UInt32) (g : Generator) :
    Selected × Generator :=
  let candidates := entries.map (·.value)
  if t.isPlain then (.column (column entries rows), g)
  else if t.count then
    (.count (if t.random then min candidates.length 1 else candidates.length), g)
  else if t.random then
    match candidates with
    | [] => (.null, g)
    | first :: _ =>
      let (pick, g) := g.below candidates.length
      (.scalar (candidates.getD pick first), g)
  else
    match candidates with
    | [value] => (.scalar value, g)
    | values => (.values values, g)

variable (ns : Store.Namespace)

/-- Every stub that has a selected attribute, in the natural order of the shasums. -/
def unscopedRows (terms : List Term) : Action Store (List UInt32) := do
  let columns ← terms.mapM fun t => Tables.values ns t.key
  let all := (columns.map allStubs).foldl StubSet.union ∅
  let shasums ← Tables.shasums ns all.toList
  return (Text.Natural.sortBy (·.2) (all.toList.zip shasums)).map (·.1)

/-- The entries that a stub of the scope carries; without a scope all of them. -/
def inScope (scope : Option StubSet) (entries : List ValuePostings) : List ValuePostings :=
  match scope with
  | some scope => entries.filter (·.postings.intersects scope)
  | none => entries

/-- What became of the values of each term's attribute. -/
abbrev Projected := List (String × Selected)

/-- Projects the terms one after the other. The generator is handed on even if the values of a
later term cannot be read. -/
def projectAll (rows : List UInt32) (scope : Option StubSet) :
    List Term → Generator → Action Store (Outcome Projected × Generator)
  | [], g => return (.ok [], g)
  | t :: rest, g => do
    match ← Action.attempt (Tables.values ns t.key) with
    | .error failure => return (.error failure, g)
    | .ok entries =>
      let (selected, g) := project t (inScope scope entries) rows g
      let (others, g) ← projectAll rows scope rest g
      return (others.map ((t.key, selected) :: ·), g)

/-- The rows of a selection and, if a statement names them, their set. -/
def rows (s : Selection) : Action Store (List UInt32 × Option StubSet) := do
  match s.scope with
  | some statement =>
    let found := (← run ns statement).matched.map (·.index)
    return (found, some (StubSet.ofList found))
  | none => return (← unscopedRows ns s.terms, none)

/-- Answers a selection. -/
def select (s : Selection) (g : Generator) : Action Store (Outcome Projected × Generator) := do
  match ← Action.attempt (rows ns s) with
  | .error failure => return (.error failure, g)
  | .ok (rows, scope) => projectAll ns rows scope s.terms g

end SiteIndex.Query
