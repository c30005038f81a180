import SiteIndex.Posting.Tables
import SiteIndex.Search.Token

/-!
# Scoring

The relevance of pages for the terms of a query. With `n` terms the one at position `i` weighs
`n - i`: where it should occur it adds `(n - i) / n`, and where it must occur
`(n - i) * (1 / n + 100)`, so that required words always dominate. A page with an excluded word
does not qualify, and if words are required only pages with all of them do.
-/

namespace SiteIndex.Search

open Posting (PostingList StubSet Tables.tokenPostings)

/-- A stub and its relevance. -/
structure Scored where
  index : UInt32
  score : Binary64
  deriving DecidableEq, Repr

/-- A term, its position in the query and the stubs posted under its word. -/
structure PostedTerm where
  position : Nat
  term : QueryTerm
  postings : PostingList

/-- What is known of a stub: its score so far and the required words it has. -/
structure Tally where
  index : UInt32
  score : Binary64 := .zero
  words : List String := []

/-- Changes the tally of a stub, which starts at zero; tallies ascend by stub. -/
def updateTally (index : UInt32) (change : Tally → Tally) : List Tally → List Tally
  | [] => [change { index }]
  | t :: rest =>
    if index < t.index then change { index } :: t :: rest
    else if index = t.index then change t :: rest
    else t :: updateTally index change rest

/-- The weight of the term at a position. -/
def multiplier (n position : Nat) : Binary64 :=
  .ofFloat ((Binary64.ofNat n).toFloat - (Binary64.ofNat position).toFloat)

/-- What a required word adds. -/
def mustWeight (n position : Nat) : Binary64 :=
  multiplier n position * (.ofNat 1 / .ofNat n + .ofNat 100)

/-- What a desired word adds. -/
def shouldWeight (n position : Nat) : Binary64 :=
  multiplier n position * (.ofNat 1 / .ofNat n)

/-- A stub has a required word; a word counts once for each stub. -/
def addMust (n : Nat) (p : PostedTerm) (tallies : List Tally) (index : UInt32) : List Tally :=
  updateTally index (fun t =>
    if t.words.contains p.term.text then t
    else
      { t with
        score := t.score + mustWeight n p.position
        words := p.term.text :: t.words }) tallies

/-- Adds the stubs of a required word that are not excluded. -/
def addMustTerm (n : Nat) (excluded : StubSet) (tallies : List Tally) (p : PostedTerm) :
    List Tally :=
  (p.postings.stubs.filter (!excluded.contains ·)).foldl (addMust n p) tallies

/-- Adds the stubs of a desired word that are admitted. -/
def addShouldTerm (n : Nat) (admitted : UInt32 → Bool) (tallies : List Tally) (p : PostedTerm) :
    List Tally :=
  (p.postings.stubs.filter admitted).foldl
    (fun tallies index =>
      updateTally index (fun t => { t with score := t.score + shouldWeight n p.position }) tallies)
    tallies

/-- The stubs that qualify, in ascending order, and their scores, for `n` terms. -/
def scorePosted (n : Nat) (excluding required desired : List PostedTerm) : List Scored :=
  let excluded := (excluding.map (·.postings.toSet)).foldl StubSet.union ∅
  let words := distinct (required.map (·.term.text))
  let complete := (required.foldl (addMustTerm n excluded) []).filter
    (·.words.length = words.length)
  let admitted := fun index =>
    if required.isEmpty then !excluded.contains index else complete.any (·.index = index)
  (desired.foldl (addShouldTerm n admitted) complete).map fun t => ⟨t.index, t.score⟩

/-- The terms of one kind with their positions and postings. -/
def postedTerms (ns : Store.Namespace) (occurrence : Occurrence) (terms : List QueryTerm) :
    Action Store (List PostedTerm) :=
  (terms.zipIdx.filter (·.1.occurrence = occurrence)).mapM fun (term, position) =>
    return { position, term, postings := ← Tables.tokenPostings ns term.text }

/-- The stubs that qualify for the terms, in ascending order, and their scores. -/
def score (ns : Store.Namespace) (terms : List QueryTerm) : Action Store (List Scored) := do
  let excluding ← postedTerms ns .mustNot terms
  let required ← postedTerms ns .must terms
  let desired ← postedTerms ns .should terms
  return scorePosted terms.length excluding required desired

end SiteIndex.Search
