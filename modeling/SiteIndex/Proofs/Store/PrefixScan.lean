import SiteIndex.Proofs.Store.Content

/-!
# Scans of a prefix

Bytes are ordered as lists are, and the keys that start with a prefix are an interval of that order:
they begin with the prefix itself and end before its upper bound, which is the least byte string
above all of them (`upperBound_least`). It is missing only for prefixes of highest bytes, such as
the empty one, above which nothing else can stand (`upperBound_eq_none_iff`). So scanning by bounds
and walking on while the keys match come to the same (`scan_exact`).
-/

namespace SiteIndex.Store

/-- Keys stand in the order of lists of bytes. -/
theorem before_iff_lt {a b : Bytes} : Bytes.Before a b ↔ a < b := by
  induction a generalizing b with
  | nil =>
      cases b with
      | nil => simp
      | cons y bs => simp
  | cons x as ih =>
      cases b with
      | nil => simp
      | cons y bs => rw [Bytes.before_cons_iff, List.cons_lt_cons_iff, ih]

/-- The keys that start with a prefix are those from the prefix up to its upper bound, if it has
one. -/
theorem isPrefix_iff_le_lt (front key : Bytes) :
    front <+: key ↔ front ≤ key ∧
      (Key.upperBound front = none ∨ ∃ upper, Key.upperBound front = some upper ∧ key < upper) := by
  rw [← List.isPrefixOf_iff_prefix, Bytes.isPrefixOf_iff_between, before_iff_lt, List.not_lt]
  cases Key.upperBound front with
  | none => simp
  | some upper => simp [before_iff_lt]

namespace Key

variable {front upper : Bytes}

/-- There is nothing above the byte strings with a prefix exactly if all its bytes are the
highest. -/
theorem upperBound_eq_none_iff (front : Bytes) :
    upperBound front = none ↔ ∀ b ∈ front, b = 0xFF := by
  induction front with
  | nil => simp [upperBound, raise]
  | cons b rest ih =>
      have htop : ¬ b < 0xFF ↔ b = 0xFF := by
        rw [UInt8.not_lt, UInt8.le_iff_toNat_le, ← UInt8.toNat_inj]
        exact ⟨fun h => Nat.le_antisymm (Nat.le_of_lt_succ b.toNat_lt) h,
          fun h => h ▸ Nat.le_refl _⟩
      rw [Bytes.upperBound_cons, List.forall_mem_cons, ← ih]
      cases upperBound rest with
      | some upper => simp
      | none => simp [htop]

/-- The upper bound is the least byte string above all that start with the prefix. -/
theorem upperBound_least (h : upperBound front = some upper) :
    (∀ key, front <+: key → key < upper) ∧
      ∀ other, (∀ key, front <+: key → key < other) → upper ≤ other := by
  constructor
  · intro key hkey
    obtain ⟨-, hnone | ⟨upper', hupper, hlt⟩⟩ := (isPrefix_iff_le_lt front key).1 hkey
    · rw [hnone] at h
      cases h
    · rw [hupper] at h
      cases h
      exact hlt
  · intro other hother
    by_contra hlow
    -- A bound below the upper bound would start with the prefix and stand above itself.
    have hfront : front ≤ other := List.le_of_lt (hother front (List.prefix_refl front))
    have hprefix : front <+: other :=
      (isPrefix_iff_le_lt front other).2 ⟨hfront, .inr ⟨upper, h, List.not_le.1 hlow⟩⟩
    exact List.lt_irrefl other (hother other hprefix)

end Key

/-- The keys with a prefix are the interval that scans by bounds take. Whatever a driver holds, on
each backend its scan of any prefix gives just the entries whose key starts with the prefix, in the
order of the keys. -/
theorem scan_exact (front : Bytes) :
    (∀ key, front <+: key ↔ front ≤ key ∧
      (Key.upperBound front = none ∨
        ∃ upper, Key.upperBound front = some upper ∧ key < upper)) ∧
    ∀ (d : Driver) (backend : BackendKind),
      (({ d with backend } : Driver).scan front).entries
          = d.entries.entries.filter (fun e => front <+: e.1) ∧
        (({ d with backend } : Driver).scan front).entries.Pairwise (·.1 < ·.1) := by
  refine ⟨isPrefix_iff_le_lt front, fun d backend => ⟨?_, ?_⟩⟩
  · rw [Driver.scan_eq]
    show d.entries.entries.filter (fun e => front.isPrefixOf e.1) = _
    refine List.filter_congr fun e _ => ?_
    rw [Bool.eq_iff_iff, List.isPrefixOf_iff_prefix, decide_eq_true_eq]
  · exact (({ d with backend } : Driver).scan front).sorted.imp before_iff_lt.1

/-- Behind a highest byte the bound drops it and raises the byte before; a walk stops at the first
key behind. -/
example :
    let m : OrderedMap Bytes :=
      (OrderedMap.insert [0x63, 0xFF] [1] ∅).insert [0x63, 0xFF, 0] [2] |>.insert [0x64] [3]
    Key.upperBound [0x63, 0xFF] = some [0x64] ∧
      (m.scanWhile [0x63, 0xFF]).entries = [([0x63, 0xFF], [1]), ([0x63, 0xFF, 0], [2])] ∧
      (m.scanRange [0x63, 0xFF]).entries = [([0x63, 0xFF], [1]), ([0x63, 0xFF, 0], [2])] := by
  decide

end SiteIndex.Store
