import SiteIndex.Store.Key

/-!
# Ordered maps of byte strings

A map from keys to values whose entries are kept in ascending order of the keys, so that two
maps with the same entries are the same map. Entries below a prefix are found in two ways:
`scanRange` takes the keys from the prefix up to the least key above all that start with it,
and `scanWhile` starts at the prefix and goes on as long as the keys start with it.
-/

namespace SiteIndex.Store

/-- A map whose keys ascend. -/
structure OrderedMap (β : Type) where
  entries : List (Bytes × β) := []
  sorted : entries.Pairwise (fun a b => Bytes.Before a.1 b.1) := by exact .nil

namespace OrderedMap

variable {β : Type}

/-- The map without entries. -/
def empty : OrderedMap β := {}

instance : EmptyCollection (OrderedMap β) := ⟨empty⟩

/-- Puts an entry into its place, over one with the same key. -/
def insertInto (key : Bytes) (value : β) : List (Bytes × β) → List (Bytes × β)
  | [] => [(key, value)]
  | (k, v) :: rest =>
    match Bytes.compareTo key k with
    | .lt => (key, value) :: (k, v) :: rest
    | .eq => (key, value) :: rest
    | .gt => (k, v) :: insertInto key value rest

/-- An insertion brings in no other key. -/
theorem key_of_mem_insertInto {key : Bytes} {value : β} {entries : List (Bytes × β)}
    {e : Bytes × β} (h : e ∈ insertInto key value entries) : e.1 = key ∨ e ∈ entries := by
  induction entries with
  | nil => simp_all [insertInto]
  | cons entry rest ih =>
    obtain ⟨k, v⟩ := entry
    unfold insertInto at h
    split at h <;> simp only [List.mem_cons] at h ⊢ <;> grind

/-- An insertion keeps the order. -/
theorem sorted_insertInto {key : Bytes} {value : β} {entries : List (Bytes × β)}
    (h : entries.Pairwise (fun a b => Bytes.Before a.1 b.1)) :
    (insertInto key value entries).Pairwise (fun a b => Bytes.Before a.1 b.1) := by
  induction entries with
  | nil => simp [insertInto]
  | cons entry rest ih =>
    obtain ⟨k, v⟩ := entry
    have hr := List.pairwise_cons.1 h
    unfold insertInto
    split
    case h_1 hlt =>
      refine List.pairwise_cons.2 ⟨fun e he => ?_, h⟩
      rcases List.mem_cons.1 he with rfl | he
      · exact hlt
      · exact Bytes.Before.trans hlt (hr.1 e he)
    case h_2 heq =>
      have := Bytes.compareTo_eq_iff.1 heq
      subst this
      exact List.pairwise_cons.2 hr
    case h_3 hgt =>
      refine List.pairwise_cons.2 ⟨fun e he => ?_, ih hr.2⟩
      rcases key_of_mem_insertInto he with he | he
      · simpa [he] using Bytes.compareTo_eq_gt_iff.1 hgt
      · exact hr.1 e he

/-- The map with an entry put under a key. -/
def insert (key : Bytes) (value : β) (m : OrderedMap β) : OrderedMap β :=
  ⟨insertInto key value m.entries, sorted_insertInto m.sorted⟩

/-- The map restricted to the keys that pass a test. -/
def filterKeys (keep : Bytes → Bool) (m : OrderedMap β) : OrderedMap β :=
  ⟨m.entries.filter fun e => keep e.1, m.sorted.filter _⟩

/-- The map without a key. -/
def erase (key : Bytes) (m : OrderedMap β) : OrderedMap β := m.filterKeys (· ≠ key)

/-- The value under a key. -/
def get? (m : OrderedMap β) (key : Bytes) : Option β :=
  (m.entries.find? fun e => e.1 = key).map (·.2)

/-- The number of entries. -/
def size (m : OrderedMap β) : Nat := m.entries.length

/-- There is no entry. -/
def isEmpty (m : OrderedMap β) : Bool := m.entries.isEmpty

/-- The entries whose key starts with a prefix, found by bounds. -/
def scanRange (m : OrderedMap β) (front : Bytes) : OrderedMap β :=
  m.filterKeys fun key =>
    decide (¬ Bytes.Before key front) &&
      match Key.upperBound front with
      | some upper => decide (Bytes.Before key upper)
      | none => true

/-- The entries whose key starts with a prefix, found by walking on from it. -/
def scanWhile (m : OrderedMap β) (front : Bytes) : OrderedMap β :=
  ⟨(m.entries.dropWhile fun e => decide (Bytes.Before e.1 front)).takeWhile
      fun e => front.isPrefixOf e.1,
    (m.sorted.sublist (List.dropWhile_sublist _)).sublist (List.takeWhile_sublist _)⟩

end OrderedMap

end SiteIndex.Store
