/-!
# Sets of stub indices

Pages are numbered by 32-bit stub indices. A set of them is a strictly ascending list, so
that equal sets are equal lists.
-/

namespace SiteIndex.Posting

/-- A set of stub indices in ascending order. -/
structure StubSet where
  toList : List UInt32
  ascending : toList.Pairwise (· < ·)
  deriving DecidableEq

namespace StubSet

/-- Puts a number into its place in an ascending list that does not hold it yet. -/
def insertInto (n : UInt32) : List UInt32 → List UInt32
  | [] => [n]
  | m :: rest =>
    if n < m then n :: m :: rest else if n = m then m :: rest else m :: insertInto n rest

/-- An insertion adds the number and nothing else. -/
theorem mem_insertInto {n k : UInt32} {numbers : List UInt32} :
    k ∈ insertInto n numbers ↔ k = n ∨ k ∈ numbers := by
  induction numbers with
  | nil => simp [insertInto]
  | cons m rest ih =>
    unfold insertInto
    split
    · simp
    · split
      · subst_vars; simp
      · simp [ih]; grind

/-- An insertion keeps the order. -/
theorem pairwise_insertInto {n : UInt32} {numbers : List UInt32}
    (h : numbers.Pairwise (· < ·)) : (insertInto n numbers).Pairwise (· < ·) := by
  induction numbers with
  | nil => simp [insertInto]
  | cons m rest ih =>
    rw [List.pairwise_cons] at h
    unfold insertInto
    split
    case isTrue hn =>
      refine List.pairwise_cons.2 ⟨fun k hk => ?_, List.pairwise_cons.2 h⟩
      rcases List.mem_cons.1 hk with rfl | hk
      · exact hn
      · exact UInt32.lt_trans hn (h.1 k hk)
    case isFalse hn =>
      split
      case isTrue => exact List.pairwise_cons.2 h
      case isFalse hne =>
        refine List.pairwise_cons.2 ⟨fun k hk => ?_, ih h.2⟩
        rcases mem_insertInto.1 hk with rfl | hk
        · exact UInt32.lt_of_le_of_ne (UInt32.not_lt.1 hn) (Ne.symm hne)
        · exact h.1 k hk

/-- The set without members. -/
def empty : StubSet := ⟨[], .nil⟩

/-- The set with one more member. -/
def insert (n : UInt32) (s : StubSet) : StubSet :=
  ⟨insertInto n s.toList, pairwise_insertInto s.ascending⟩

/-- The members of a list. -/
def ofList (numbers : List UInt32) : StubSet := numbers.foldl (fun s n => s.insert n) empty

/-- The number belongs to the set. -/
def contains (s : StubSet) (n : UInt32) : Bool := s.toList.contains n

/-- The members of a set that satisfy a test. -/
def filter (keep : UInt32 → Bool) (s : StubSet) : StubSet :=
  ⟨s.toList.filter keep, s.ascending.filter _⟩

/-- The members of either set. -/
def union (s t : StubSet) : StubSet := t.toList.foldl (fun u n => u.insert n) s

/-- The members of both sets. -/
def inter (s t : StubSet) : StubSet := s.filter t.contains

/-- The members of the first set that are not in the second. -/
def diff (s t : StubSet) : StubSet := s.filter (!t.contains ·)

/-- The number of members. -/
def size (s : StubSet) : Nat := s.toList.length

instance : EmptyCollection StubSet := ⟨empty⟩
instance : Membership UInt32 StubSet := ⟨fun s n => n ∈ s.toList⟩

end StubSet

end SiteIndex.Posting
