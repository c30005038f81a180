import SiteIndex.Posting.Tables
import SiteIndex.Query.Reader

/-!
# Matching pages

`evaluate` finds the stubs that satisfy an expression from the postings of the attributes it
reads. `run` answers a statement: it takes a snapshot of the attributes of every match, orders
the matches and cuts out the window that was asked for.
-/

namespace SiteIndex

/-- The items from `offset` on, at most `limit` of them. -/
def window {α : Type} (items : List α) (offset : Nat) (limit : Option Nat) : List α :=
  match limit with
  | some limit => (items.drop offset).take limit
  | none => items.drop offset

namespace Query

open Posting (PostingList StubSet Tables.values Tables.shasums ValuePostings)

variable (ns : Store.Namespace)

/-- The stubs of the entries that pass a test. The first entry that cannot be tested fails. -/
def hitsBy (test : ValuePostings → Outcome Bool) : List ValuePostings → Outcome StubSet
  | [] => .ok ∅
  | entry :: rest => do
    let hit ← test entry
    let others ← hitsBy test rest
    return if hit then entry.postings.toSet.union others else others

/-- All stubs of the entries. -/
def allStubs (entries : List ValuePostings) : StubSet :=
  (entries.map (·.postings.toSet)).foldl StubSet.union ∅

/-- The value equals the literal, read as a value of its type. -/
def equalsLiteral (text : String) (entry : ValuePostings) : Outcome Bool := do
  entry.value.equals (← entry.value.ofLiteral text)

/-- The value is a text that the pattern matches. -/
def matchesPattern (key : String) (r : Pattern.Regex) (entry : ValuePostings) : Outcome Bool :=
  match entry.value with
  | .text s => .ok (r.isMatch s)
  | other => .error (.patternMismatch other.typeName key)

/-- Some of the values equals `value`; the first that cannot be compared fails. -/
def equalsAny (value : Value) : List Value → Outcome Bool
  | [] => .ok false
  | other :: rest => do
    if ← value.equals other then return true else equalsAny value rest

/-- The values of the entries that list a stub. -/
def valuesOf (entries : List ValuePostings) (stub : UInt32) : List Value :=
  (entries.filter (·.postings.stubs.contains stub)).map (·.value)

/-- The stubs among `stubs` of which some value in `others` equals `value`. -/
def referenceStubs (others : List ValuePostings) (value : Value) :
    List UInt32 → Outcome (List UInt32)
  | [] => .ok []
  | stub :: rest => do
    let hit ← equalsAny value (valuesOf others stub)
    let more ← referenceStubs others value rest
    return if hit then stub :: more else more

/-- The stubs that have an equal value under both attributes. -/
def referenceHits (others : List ValuePostings) : List ValuePostings → Outcome StubSet
  | [] => .ok ∅
  | entry :: rest => do
    let stubs ← referenceStubs others entry.value entry.postings.stubs
    let more ← referenceHits others rest
    return (StubSet.ofList stubs).union more

/-- The stubs that an operand hits among the entries of an attribute. -/
def operandHits (key : String) (entries : List ValuePostings) :
    Operand → Action Store StubSet
  | .literal text => Action.ofOutcome (hitsBy (equalsLiteral text) entries)
  | .pattern p =>
    match Pattern.compile? p.source with
    | some r => Action.ofOutcome (hitsBy (matchesPattern key r) entries)
    | none => throw .invalidPattern
  | .reference other => do
    Action.ofOutcome (referenceHits (← Tables.values ns other) entries)

/-- The stubs that satisfy an expression. A negated comparison is satisfied by the stubs that
have the attribute and are not hit. -/
def evaluate : Expression → Action Store StubSet
  | .condition kind left right => do
    let a ← evaluate left
    let b ← evaluate right
    return match kind with
      | .and => a.inter b
      | .or => a.union b
  | .operation key op operand => do
    let entries ← Tables.values ns key
    let hits ← operandHits ns key entries operand
    return if op.isNegated then (allStubs entries).diff hits else hits

/-- The attributes of a stub that a statement reads, in ascending order. -/
abbrev Snapshot := List (String × Value)

/-- A page that a statement names. -/
structure Match where
  index : UInt32
  shasum : String
  context : Snapshot
  deriving DecidableEq

/-- The pages that a statement names. -/
structure MatchResult where
  /-- The matches within the window. -/
  matched : List Match
  /-- The number of matches before the window was cut out. -/
  total : Nat

/-- The first value that a stub has in each of the attributes. -/
def snapshot (columns : List (String × List ValuePostings)) (stub : UInt32) : Snapshot :=
  columns.filterMap fun (key, entries) =>
    (entries.find? (·.postings.stubs.contains stub)).map fun entry => (key, entry.value)

/-- The order of two optional values; a missing one comes last in either direction. -/
def compareAt (direction : Direction) : Option Value → Option Value → Ordering
  | some x, some y =>
    match direction with
    | .ascending => x.compareTo y
    | .descending => y.compareTo x
  | some _, none => .lt
  | none, some _ => .gt
  | none, none => .eq

/-- Orders matches by an attribute and, where that does not tell them apart, by their shasums
in natural order. -/
def sortMatches (key : String) (direction : Direction) (matched : List Match) : List Match :=
  (Text.Natural.sortBy (·.shasum) matched).mergeSort fun a b =>
    (compareAt direction (a.context.lookup key) (b.context.lookup key)).isLE

/-- Answers a statement. -/
def run (s : Statement) : Action Store MatchResult := do
  let hits ← evaluate ns s.expression
  let columns ← s.contextKeys.mapM fun key => do return (key, ← Tables.values ns key)
  let shasums ← Tables.shasums ns hits.toList
  let matched := (hits.toList.zip shasums).map fun (index, shasum) =>
    { index, shasum, context := snapshot columns index : Match }
  let sorted := sortMatches s.orderKey s.direction matched
  return {
    matched := window sorted ((s.offset.map (·.toNat)).getD 0) (s.limit.map (·.toNat))
    total := sorted.length }

end Query

end SiteIndex
