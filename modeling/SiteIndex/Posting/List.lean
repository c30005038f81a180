import SiteIndex.Posting.Gaps
import SiteIndex.Posting.StubSet

/-!
# Posting lists

The stubs posted for a token or an attribute value. A list is kept in ascending order by
`insert` and `remove`, which find their place by bisection, and is stored as gaps.
-/

namespace SiteIndex.Posting

/-- The stubs posted under one entry. Ascending order is kept, not assumed. -/
structure PostingList where
  stubs : List UInt32 := []
  deriving DecidableEq, Repr

namespace PostingList

/-- A list is in good order when its stubs ascend strictly. -/
def Ascending (p : PostingList) : Prop := p.stubs.Pairwise (· < ·)

/-- Halves the section of `size` stubs from `base` until one is left: the last that is not
greater than `stub`, if the list ascends and has one. -/
def bisect (stubs : List UInt32) (stub : UInt32) (base size : Nat) : Nat :=
  if size ≤ 1 then base
  else
    let middle := base + size / 2
    bisect stubs stub (if stub < stubs.getD middle 0 then base else middle) (size - size / 2)
termination_by size
decreasing_by omega

/-- Where a stub stands in a list, or where it would have to be put. -/
inductive Place where
  | found (position : Nat)
  | absent (position : Nat)
  deriving DecidableEq, Repr

/-- Finds the place of a stub. -/
def locate (p : PostingList) (stub : UInt32) : Place :=
  let position := bisect p.stubs stub 0 p.stubs.length
  match p.stubs[position]? with
  | none => .absent 0
  | some other =>
    if other = stub then .found position
    else .absent (if other < stub then position + 1 else position)

/-- Posts a stub; says whether it was not posted before. -/
def insert (p : PostingList) (stub : UInt32) : Bool × PostingList :=
  match p.locate stub with
  | .found _ => (false, p)
  | .absent position => (true, ⟨p.stubs.take position ++ stub :: p.stubs.drop position⟩)

/-- Takes a stub away; says whether it was posted. -/
def remove (p : PostingList) (stub : UInt32) : Bool × PostingList :=
  match p.locate stub with
  | .found position => (true, ⟨p.stubs.eraseIdx position⟩)
  | .absent _ => (false, p)

/-- The stub is posted. -/
def contains (p : PostingList) (stub : UInt32) : Bool :=
  match p.locate stub with
  | .found _ => true
  | .absent _ => false

/-- Some posted stub belongs to the set. -/
def intersects (p : PostingList) (s : StubSet) : Bool := p.stubs.any s.contains

/-- The posted stubs as a set. -/
def toSet (p : PostingList) : StubSet := .ofList p.stubs

/-- The stored form of a list; only ascending lists have one. -/
def encode (p : PostingList) : Outcome Bytes := Gaps.encode p.stubs

/-- The list that a stored form stands for. -/
def decode (bytes : Bytes) : Outcome PostingList := (Gaps.decode bytes).map (⟨·⟩)

end PostingList

end SiteIndex.Posting
