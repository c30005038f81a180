import Mathlib.Data.List.Nodup
import Mathlib.Data.List.Perm.Subperm
import SiteIndex.Proofs.Text.Natural
import SiteIndex.Query.Matching

/-!
# Sorted lists and their windows

A list that is sorted in two passes, the second of which keeps the order of what it does not tell
apart, is in the lexicographic order of both (`pairwise_mergeSort_stable`). Windows of one size that
lie side by side make up the list that they are cut from (`flatMap_window`).
-/

namespace SiteIndex

open Std
open Text.Natural (isLE_or_isLE)

variable {α : Type}

/-! ## Sorting -/

/-- Sorting only asks for the order of the items of the list. -/
theorem mergeSort_congr {le le' : α → α → Bool} {items : List α}
    (h : ∀ a ∈ items, ∀ b ∈ items, le a b = le' a b) :
    items.mergeSort le = items.mergeSort le' := by
  have hmap := List.map_mergeSort (f := id) h
  rwa [List.map_id, List.map_id] at hmap

/-- Two items of a list stand in it one way or the other. -/
theorem pair_sublist {items : List α} {a b : α} (ha : a ∈ items) (hb : b ∈ items) (hne : a ≠ b) :
    [a, b].Sublist items ∨ [b, a].Sublist items := by
  induction items with
  | nil => cases ha
  | cons c rest ih =>
      simp only [List.cons_sublist_cons', List.singleton_sublist]
      rcases List.mem_cons.1 ha with rfl | harest
      · exact .inl (.inr ⟨rfl, (List.mem_cons.1 hb).resolve_left hne.symm⟩)
      · rcases List.mem_cons.1 hb with rfl | hbrest
        · exact .inr (.inr ⟨rfl, harest⟩)
        · exact (ih harest hbrest).imp .inl .inl

/-- Two items of a list in which nothing stands twice do not stand in it both ways. -/
theorem not_pair_sublist {items : List α} {a b : α} (hnodup : items.Nodup)
    (h : [a, b].Sublist items) : ¬ [b, a].Sublist items := by
  induction items with
  | nil => cases h
  | cons c rest ih =>
      obtain ⟨hc, hrest⟩ := List.nodup_cons.1 hnodup
      simp only [List.cons_sublist_cons', List.singleton_sublist] at h ⊢
      rcases h with h | ⟨rfl, hb⟩
      · rintro (hback | ⟨rfl, ha⟩)
        · exact ih hrest h hback
        · exact hc (h.subset (by simp))
      · rintro (hback | ⟨rfl, _⟩)
        · exact hc (hback.subset (by simp))
        · exact hc hb

/-- Sorting puts items in order and leaves those that it does not tell apart in the order in which
they were. -/
theorem pairwise_mergeSort_stable (cmp : α → α → Ordering) [TransCmp cmp] {before : α → α → Prop}
    {items : List α} (hnodup : items.Nodup) (hbefore : items.Pairwise before) :
    (items.mergeSort fun a b => (cmp a b).isLE).Pairwise fun a b =>
      cmp a b = .lt ∨ (cmp a b = .eq ∧ before a b) := by
  have htrans : ∀ a b c : α, (cmp a b).isLE = true → (cmp b c).isLE = true →
      (cmp a c).isLE = true := fun _ _ _ => TransCmp.isLE_trans
  have hperm := List.mergeSort_perm items fun a b => (cmp a b).isLE
  have hordered := List.pairwise_mergeSort htrans (isLE_or_isLE cmp) items
  refine List.pairwise_iff_forall_sublist.2 fun {a b} hsublist => ?_
  have hle : (cmp a b).isLE = true := List.pairwise_iff_forall_sublist.1 hordered hsublist
  cases hcompare : cmp a b with
  | lt => exact .inl rfl
  | gt =>
      rw [hcompare] at hle
      cases hle
  | eq =>
      refine .inr ⟨rfl, ?_⟩
      have hnodup' := hperm.nodup_iff.2 hnodup
      have hne : a ≠ b := by simpa using hnodup'.sublist hsublist
      have ha : a ∈ items := hperm.mem_iff.1 (hsublist.subset (by simp))
      have hb : b ∈ items := hperm.mem_iff.1 (hsublist.subset (by simp))
      rcases pair_sublist ha hb hne with hbehind | hahead
      · exact List.pairwise_iff_forall_sublist.1 hbefore hbehind
      · -- Had they stood the other way round, they would still do so.
        have hback : (cmp b a).isLE = true := by
          rw [@OrientedCmp.eq_swap _ cmp, hcompare]
          rfl
        have hkept := List.pair_sublist_mergeSort htrans (isLE_or_isLE cmp) hback hahead
        exact absurd hkept (not_pair_sublist hnodup' hsublist)

/-! ## Windows -/

/-- There are no more different numbers than fit their width. -/
theorem length_le_size {numbers : List UInt32} (h : numbers.Nodup) :
    numbers.length ≤ UInt32.size := by
  have hnodup : (numbers.map UInt32.toNat).Nodup := h.map fun _ _ => UInt32.toNat_inj.1
  have hsubset : numbers.map UInt32.toNat ⊆ List.range UInt32.size := by
    intro n hn
    obtain ⟨number, _, rfl⟩ := List.mem_map.1 hn
    exact List.mem_range.2 number.toNat_lt
  have hle := (List.subperm_of_subset hnodup hsubset).length_le
  rwa [List.length_map, List.length_range] at hle

/-- A window is what is left behind its offset, up to its limit. -/
theorem window_eq (items : List α) (offset : Nat) (limit : Option Nat) :
    window items offset limit = (items.drop offset).take (limit.getD items.length) := by
  cases limit with
  | some limit => rfl
  | none =>
      show items.drop offset = _
      rw [Option.getD_none, List.take_of_length_le (by rw [List.length_drop]; omega)]

/-- A window has some of the items, in their order. -/
theorem window_sublist (items : List α) (offset : Nat) (limit : Option Nat) :
    (window items offset limit).Sublist items := by
  rw [window_eq]
  exact (List.take_sublist _ _).trans (List.drop_sublist _ _)

/-- A window of what is made of the items is made of a window of them. -/
theorem map_window {β : Type} (f : α → β) (items : List α) (offset : Nat) (limit : Option Nat) :
    (window items offset limit).map f = window (items.map f) offset limit := by
  rw [window_eq, window_eq, List.map_take, List.map_drop, List.length_map]

/-- Windows of one size side by side make up the list, if there are enough of them. -/
theorem flatMap_window {size : Nat} (count : Nat) (items : List α)
    (h : items.length ≤ count * size) :
    ((List.range count).flatMap fun k => window items (k * size) (some size)) = items := by
  induction count generalizing items with
  | zero =>
      rw [Nat.zero_mul, Nat.le_zero, List.length_eq_zero_iff] at h
      rw [h]
      rfl
  | succ count ih =>
      have hrest : (items.drop size).length ≤ count * size := by
        rw [List.length_drop]
        rw [Nat.succ_mul] at h
        omega
      have hstep : ∀ k, window items ((k + 1) * size) (some size)
          = window (items.drop size) (k * size) (some size) := by
        intro k
        rw [window, window, List.drop_drop, Nat.succ_mul, Nat.add_comm]
      rw [List.range_succ_eq_map, List.flatMap_cons, List.flatMap_map]
      simp only [hstep]
      rw [ih _ hrest, Nat.zero_mul]
      exact List.take_append_drop size items

end SiteIndex
