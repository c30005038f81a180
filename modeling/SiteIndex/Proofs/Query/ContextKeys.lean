import Mathlib.Data.String.Basic
import SiteIndex.Proofs.Text.Natural
import SiteIndex.Query.Syntax

/-!
# The attributes that a statement reads

A statement needs the values of every attribute that its expression mentions and of its order
key. Their names are kept in ascending order, each once (`Statement.contextKeys_spec`): putting
a name into an ascending list keeps it ascending and adds nothing else.
-/

namespace SiteIndex.Query

/-! ## The order of names -/

section Order

open Text.Natural

/-- One character compares as less if it stands before the other. -/
theorem compareChar_eq_lt {a b : Char} : compareChar a b = .lt ↔ a < b := Nat.compare_eq_lt

/-- A text compares as less if it stands before the other in the order of texts. -/
theorem compareChars_eq_lt {as bs : List Char} : compareChars as bs = .lt ↔ as < bs := by
  induction as generalizing bs with
  | nil => cases bs <;> simp [compareChars]
  | cons a as ih =>
      cases bs with
      | nil => simp [compareChars]
      | cons b bs =>
          rw [compareChars, Ordering.then_eq_lt, compareChar_eq_lt,
            Std.LawfulEqCmp.compare_eq_iff_eq, ih, List.cons_lt_cons_iff]

end Order

/-! ## Ascending lists of names -/

/-- A name that is put into a list is in it, and no other one comes with it. -/
theorem mem_insertName {name key : String} {names : List String} :
    key ∈ insertName name names ↔ key = name ∨ key ∈ names := by
  induction names with
  | nil => simp [insertName]
  | cons other rest ih =>
      rw [insertName]
      cases hcompare : Text.Natural.compareChars name.toList other.toList with
      | lt => simp
      | eq =>
          have hsame : name = other := String.toList_inj.1 (Std.LawfulEqCmp.eq_of_compare hcompare)
          simp [hsame]
      | gt =>
          show key ∈ other :: insertName name rest ↔ _
          rw [List.mem_cons, ih, List.mem_cons]
          exact or_left_comm

/-- An ascending list stays one when a name is put into it. -/
theorem pairwise_insertName {name : String} {names : List String}
    (h : names.Pairwise (· < ·)) : (insertName name names).Pairwise (· < ·) := by
  induction names with
  | nil => simp [insertName]
  | cons other rest ih =>
      obtain ⟨hfirst, hrest⟩ := List.pairwise_cons.1 h
      rw [insertName]
      cases hcompare : Text.Natural.compareChars name.toList other.toList with
      | lt =>
          have hlt : name < other := compareChars_eq_lt.1 hcompare
          refine List.pairwise_cons.2 ⟨fun key hkey => ?_, h⟩
          rcases List.mem_cons.1 hkey with rfl | hkey
          · exact hlt
          · exact hlt.trans (hfirst key hkey)
      | eq => exact h
      | gt =>
          have hne : name ≠ other := by
            rintro rfl
            cases hcompare.symm.trans (@Std.ReflCmp.compare_self _ Text.Natural.compareChars _ _)
          have hnlt : ¬ name < other := by
            intro hlt
            rw [compareChars_eq_lt.2 hlt] at hcompare
            cases hcompare
          refine List.pairwise_cons.2 ⟨fun key hkey => ?_, ih hrest⟩
          rcases mem_insertName.1 hkey with rfl | hkey
          · exact lt_of_le_of_ne (not_lt.1 hnlt) hne.symm
          · exact hfirst key hkey

/-- Sorted names are ascending. -/
theorem pairwise_sortNames (names : List String) : (sortNames names).Pairwise (· < ·) := by
  -- The names are put into the list one after the other, so that the list so far is ascending.
  have hfold : ∀ acc : List String, acc.Pairwise (· < ·) →
      (names.foldl (fun s n => insertName n s) acc).Pairwise (· < ·) := by
    induction names with
    | nil => exact fun _ hacc => hacc
    | cons name names ih => exact fun _ hacc => ih _ (pairwise_insertName hacc)
  exact hfold [] List.Pairwise.nil

/-- Sorted names are the names. -/
theorem mem_sortNames {key : String} {names : List String} :
    key ∈ sortNames names ↔ key ∈ names := by
  have hfold : ∀ acc : List String,
      key ∈ names.foldl (fun s n => insertName n s) acc ↔ key ∈ names ∨ key ∈ acc := by
    induction names with
    | nil => simp
    | cons name names ih =>
        intro acc
        rw [List.foldl_cons, ih, mem_insertName, List.mem_cons]
        tauto
  rw [sortNames, hfold]
  simp

/-! ## Mentioned attributes -/

/-- An expression mentions an attribute on the left of an operator or as an operand. -/
inductive Mentions : Expression → String → Prop where
  | key {key op operand} : Mentions (.operation key op operand) key
  | operand {key op other} : Mentions (.operation key op (.reference other)) other
  | left {kind left right key} : Mentions left key → Mentions (.condition kind left right) key
  | right {kind left right key} : Mentions right key → Mentions (.condition kind left right) key

/-- The keys of an expression are the attributes that it mentions. -/
theorem Expression.mem_keys {e : Expression} {key : String} : key ∈ e.keys ↔ Mentions e key := by
  constructor
  · intro h
    induction e with
    | operation own op operand =>
        cases operand with
        | reference other =>
            rcases List.mem_cons.1 h with rfl | h
            · exact .key
            · rw [List.mem_singleton.1 h]
              exact .operand
        | pattern p =>
            rw [List.mem_singleton.1 h]
            exact .key
        | literal text =>
            rw [List.mem_singleton.1 h]
            exact .key
    | condition kind left right ihleft ihright =>
        rcases List.mem_append.1 h with h | h
        · exact .left (ihleft h)
        · exact .right (ihright h)
  · intro h
    induction h with
    | @key key op operand => cases operand <;> simp [Expression.keys]
    | operand => simp [Expression.keys]
    | left _ ih => exact List.mem_append_left _ ih
    | right _ ih => exact List.mem_append_right _ ih

/-- The context keys of a statement are the attributes that its expression mentions and its order
key, in ascending order and each once. -/
theorem Statement.contextKeys_spec (s : Statement) :
    s.contextKeys.Pairwise (· < ·) ∧
      ∀ key, key ∈ s.contextKeys ↔ Mentions s.expression key ∨ key = s.orderKey := by
  refine ⟨pairwise_sortNames _, fun key => ?_⟩
  rw [contextKeys, mem_sortNames, List.mem_append, Expression.mem_keys, List.mem_singleton]

end SiteIndex.Query
