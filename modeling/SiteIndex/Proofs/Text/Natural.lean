import Mathlib.Data.String.Basic
import SiteIndex.Text.Natural

/-!
# The natural order of texts

The natural order is a total order that tells any two texts apart. A piece of a text is ranked by
the code point of its first character, digits all counting as zero, and then by its run of digits
(`Piece.rank`). Where the pieces are those of a text, the order of two pieces is the one of their
ranks, so that the order of texts is the lexicographic one of their ranks (`compareText_eq_ranks`)
and inherits its laws. Two texts with the same ranks are the same, since a rank can be spelled out
(`spell`).
-/

namespace SiteIndex.Text.Natural

open Std

/-! ## Comparisons -/

/-- Comparing what a function reads off things obeys the laws of the comparison. -/
theorem transCmp_on {α β : Type} (cmp : β → β → Ordering) [TransCmp cmp] (f : α → β) :
    TransCmp (fun a b => cmp (f a) (f b)) where
  eq_swap {_ _} := @OrientedCmp.eq_swap _ cmp _ _ _
  isLE_trans {_ _ _} := @TransCmp.isLE_trans _ cmp _ _ _ _

/-- Of two things one comes before the other, or they are level. -/
theorem isLE_or_isLE {α : Type} (cmp : α → α → Ordering) [OrientedCmp cmp] (a b : α) :
    ((cmp a b).isLE || (cmp b a).isLE) = true := by
  rw [@OrientedCmp.eq_swap _ cmp _ b]
  cases cmp a b <;> rfl

/-! ## Characters and runs -/

instance : TransCmp compareChar := transCmp_on compare Char.toNat

instance : LawfulEqCmp compareChar where
  eq_of_compare h := Char.toNat_inj.1 (Nat.compare_eq_eq.1 h)

/-- The order of lists of characters is the lexicographic one. -/
theorem compareChars_eq_compareLex : compareChars = List.compareLex compareChar := by
  funext as bs
  induction as generalizing bs with
  | nil => cases bs <;> rfl
  | cons a as ih =>
      cases bs with
      | nil => rfl
      | cons b bs =>
          rw [compareChars, ih, List.compareLex_cons_cons]

instance : TransCmp compareChars := compareChars_eq_compareLex ▸ inferInstance

instance : LawfulEqCmp compareChars := compareChars_eq_compareLex ▸ inferInstance

instance : TransCmp compareRuns :=
  haveI := transCmp_on compareChars significant
  haveI := transCmp_on compare fun run => (significant run).length
  haveI := transCmp_on compare fun run : List Char => run.length
  inferInstanceAs (TransCmp (compareLex (compareLex
    (fun a b => compare (significant a).length (significant b).length)
    (fun a b => compareChars (significant a) (significant b)))
    (fun a b => compare a.length b.length)))

/-- A run is its leading zeros and its significant digits. -/
theorem replicate_append_significant (run : List Char) :
    List.replicate (run.length - (significant run).length) '0' ++ significant run = run := by
  induction run with
  | nil => rfl
  | cons c run ih =>
      by_cases hzero : c = '0'
      · have hle : (significant run).length ≤ run.length := (List.dropWhile_sublist _).length_le
        have hsignificant : significant (c :: run) = significant run := by
          simp [significant, hzero]
        rw [hsignificant, List.length_cons, Nat.succ_sub hle, List.replicate_succ,
          List.cons_append, ih, hzero]
      · have hsignificant : significant (c :: run) = c :: run := by simp [significant, hzero]
        rw [hsignificant, Nat.sub_self, List.replicate_zero, List.nil_append]

instance : LawfulEqCmp compareRuns where
  eq_of_compare {a b} h := by
    rw [compareRuns, Ordering.then_eq_eq, Ordering.then_eq_eq] at h
    obtain ⟨⟨-, hdigits⟩, hlength⟩ := h
    have hsame : significant a = significant b := LawfulEqCmp.eq_of_compare hdigits
    rw [← replicate_append_significant a, ← replicate_append_significant b, hsame,
      Nat.compare_eq_eq.1 hlength]

/-! ## Pieces -/

/-- The characters of a piece. -/
def Piece.chars : Piece → List Char
  | .digits run => run
  | .other c => [c]

/-- A run is not empty and holds digits only; any other piece is no digit. -/
def Piece.Formed : Piece → Prop
  | .digits run => run ≠ [] ∧ ∀ c ∈ run, c.isDigit = true
  | .other c => c.isDigit = false

/-- Where a piece stands: the code point of its first character, digits counting as zero, and its
run of digits. -/
def Piece.rank : Piece → Nat × List Char
  | .digits run => ('0'.toNat, run)
  | .other c => (c.toNat, [])

/-- Ranks compare by the code point and then by the run. -/
def compareRank (a b : Nat × List Char) : Ordering :=
  (compare a.1 b.1).then (compareRuns a.2 b.2)

instance : TransCmp compareRank :=
  haveI := transCmp_on compare fun rank : Nat × List Char => rank.1
  haveI := transCmp_on compareRuns fun rank : Nat × List Char => rank.2
  inferInstanceAs (TransCmp (compareLex
    (fun a b : Nat × List Char => compare a.1 b.1) (fun a b => compareRuns a.2 b.2)))

instance : LawfulEqCmp compareRank where
  eq_of_compare h := by
    rw [compareRank, Ordering.then_eq_eq] at h
    exact Prod.ext (Nat.compare_eq_eq.1 h.1) (LawfulEqCmp.eq_of_compare h.2)

/-- A digit stands on the same side of a character that is no digit as zero does. -/
theorem compareChar_digit {d c : Char} (hd : d.isDigit = true) (hc : c.isDigit = false) :
    compareChar d c = compare '0'.toNat c.toNat ∧ compare '0'.toNat c.toNat ≠ .eq := by
  have hdigit : 48 ≤ d.toNat ∧ d.toNat ≤ 57 := by
    simpa [Char.isDigit, UInt32.le_iff_toNat_le] using hd
  have hother : ¬ (48 ≤ c.toNat ∧ c.toNat ≤ 57) := by
    intro h
    simp [Char.isDigit, UInt32.le_iff_toNat_le] at hc
    omega
  show compare d.toNat c.toNat = compare 48 c.toNat ∧ compare 48 c.toNat ≠ .eq
  rcases Nat.lt_or_ge c.toNat 48 with hless | hmore
  · rw [Nat.compare_eq_gt.2 (by omega), Nat.compare_eq_gt.2 hless]
    exact ⟨rfl, nofun⟩
  · rw [Nat.compare_eq_lt.2 (by omega), Nat.compare_eq_lt.2 (by omega)]
    exact ⟨rfl, nofun⟩

/-- A run compares with a character that is no digit as their ranks do. -/
theorem compareRank_digits {run : List Char} {c : Char} (hrun : (Piece.digits run).Formed)
    (hc : c.isDigit = false) :
    compareChar (Piece.digits run).head c =
      compareRank (Piece.digits run).rank (Piece.other c).rank := by
  obtain ⟨d, run, rfl⟩ := List.exists_cons_of_ne_nil hrun.1
  obtain ⟨hcompare, hne⟩ := compareChar_digit (hrun.2 d List.mem_cons_self) hc
  show compareChar d c = (compare '0'.toNat c.toNat).then (compareRuns (d :: run) [])
  rw [hcompare]
  cases h : compare '0'.toNat c.toNat with
  | lt => rfl
  | eq => exact absurd h hne
  | gt => rfl

/-- Pieces of texts compare as their ranks do. -/
theorem Piece.compare_eq_rank {p q : Piece} (hp : p.Formed) (hq : q.Formed) :
    p.compare q = compareRank p.rank q.rank := by
  cases p with
  | digits a =>
      cases q with
      | digits b => rfl
      | other c => exact compareRank_digits hp hq
  | other c =>
      cases q with
      | digits b =>
          show compareChar c (Piece.digits b).head = _
          rw [@OrientedCmp.eq_swap _ compareChar, compareRank_digits hq hp,
            ← @OrientedCmp.eq_swap _ compareRank]
      | other d =>
          show compareChar c d = (Ord.compare c.toNat d.toNat).then .eq
          rw [Ordering.then_eq]
          rfl

/-! ## The pieces of a text -/

/-- A digit in front of pieces that are formed leaves them formed. -/
theorem formed_pushDigit {c : Char} {ps : List Piece} (hc : c.isDigit = true)
    (h : ∀ p ∈ ps, p.Formed) : ∀ p ∈ pushDigit c ps, p.Formed := by
  have hsingle : (Piece.digits [c]).Formed := by simpa [Piece.Formed] using hc
  cases ps with
  | nil => simpa [pushDigit] using hsingle
  | cons p ps =>
      cases p with
      | other d => simpa [pushDigit] using ⟨hsingle, by simpa using h⟩
      | digits run =>
          obtain ⟨⟨-, hrun⟩, hrest⟩ := List.forall_mem_cons.1 h
          refine List.forall_mem_cons.2 ⟨⟨List.cons_ne_nil _ _, ?_⟩, hrest⟩
          exact List.forall_mem_cons.2 ⟨hc, hrun⟩

/-- The pieces of a text are formed. -/
theorem formed_pieces (cs : List Char) : ∀ p ∈ pieces cs, p.Formed := by
  induction cs with
  | nil => simp [pieces]
  | cons c cs ih =>
      rw [pieces]
      split
      next hc => exact formed_pushDigit hc ih
      next hc => exact List.forall_mem_cons.2 ⟨by simpa [Piece.Formed] using hc, ih⟩

/-- A digit in front of pieces is a digit in front of their characters. -/
theorem chars_pushDigit (c : Char) (ps : List Piece) :
    (pushDigit c ps).flatMap Piece.chars = c :: ps.flatMap Piece.chars := by
  cases ps with
  | nil => rfl
  | cons p ps => cases p <;> rfl

/-- The pieces of a text are the text. -/
theorem chars_pieces (cs : List Char) : (pieces cs).flatMap Piece.chars = cs := by
  induction cs with
  | nil => rfl
  | cons c cs ih =>
      rw [pieces]
      split
      next => rw [chars_pushDigit, ih]
      next => rw [List.flatMap_cons, ih]; rfl

/-- The characters of the piece with a rank. -/
def spell (rank : Nat × List Char) : List Char :=
  if rank.2.isEmpty then [Char.ofNat rank.1] else rank.2

/-- A piece of a text is spelled by its rank. -/
theorem spell_rank {p : Piece} (hp : p.Formed) : spell p.rank = p.chars := by
  cases p with
  | digits run => simp [spell, Piece.rank, Piece.chars, hp.1]
  | other c => simp [spell, Piece.rank, Piece.chars]

/-- The ranks of the pieces of a text. -/
def ranks (text : String) : List (Nat × List Char) := (pieces text.toList).map Piece.rank

/-- Texts with the same ranks are the same. -/
theorem ranks_injective : Function.Injective ranks := by
  intro a b h
  have hspell : ∀ text, (ranks text).flatMap spell = text.toList := by
    intro text
    conv_rhs => rw [← chars_pieces text.toList]
    rw [ranks, List.flatMap_map]
    exact List.flatMap_congr fun p hp => spell_rank (formed_pieces _ p hp)
  rw [← String.toList_inj, ← hspell a, ← hspell b, h]

/-- The order of the pieces of two texts is the lexicographic one of their ranks. -/
theorem comparePieces_eq_ranks {ps qs : List Piece} (hp : ∀ p ∈ ps, p.Formed)
    (hq : ∀ q ∈ qs, q.Formed) :
    comparePieces ps qs = List.compareLex compareRank (ps.map Piece.rank) (qs.map Piece.rank) := by
  induction ps generalizing qs with
  | nil => cases qs <;> rfl
  | cons p ps ih =>
      cases qs with
      | nil => rfl
      | cons q qs =>
          obtain ⟨hfirst, hrest⟩ := List.forall_mem_cons.1 hp
          obtain ⟨hfirst', hrest'⟩ := List.forall_mem_cons.1 hq
          rw [comparePieces, Piece.compare_eq_rank hfirst hfirst', ih hrest hrest', List.map_cons,
            List.map_cons, List.compareLex_cons_cons]

/-! ## The laws of the natural order -/

/-- Texts compare as their ranks do, lexicographically. -/
theorem compareText_eq_ranks :
    compareText = fun a b => List.compareLex compareRank (ranks a) (ranks b) := by
  funext a b
  exact comparePieces_eq_ranks (formed_pieces _) (formed_pieces _)

instance : TransCmp compareText :=
  compareText_eq_ranks ▸ transCmp_on (List.compareLex compareRank) ranks

instance : LawfulEqCmp compareText where
  eq_of_compare {a b} h := by
    rw [compareText_eq_ranks] at h
    exact ranks_injective (LawfulEqCmp.eq_of_compare h)

/-- Sorting by a key leaves the items as they are and puts their keys into natural order. -/
theorem sortBy_spec {α : Type} (key : α → String) (items : List α) :
    (sortBy key items).Perm items ∧
      (sortBy key items).Pairwise fun a b => (compareText (key a) (key b)).isLE := by
  refine ⟨List.mergeSort_perm _ _, List.pairwise_mergeSort ?_ ?_ _⟩
  · exact fun a b c => TransCmp.isLE_trans
  · exact fun a b => isLE_or_isLE compareText (key a) (key b)

/-- Sorting by keys that differ puts them into strict order. -/
theorem pairwise_sortBy {α : Type} {key : α → String} {items : List α}
    (hnodup : (items.map key).Nodup) :
    (sortBy key items).Pairwise fun a b => compareText (key a) (key b) = .lt := by
  obtain ⟨hperm, hnatural⟩ := sortBy_spec key items
  have hdiffer := List.pairwise_map.1 ((hperm.map key).nodup_iff.2 hnodup)
  refine (hnatural.and hdiffer).imp fun {a b} h => ?_
  cases hcompare : compareText (key a) (key b) with
  | lt => rfl
  | eq => exact absurd (LawfulEqCmp.eq_of_compare hcompare) h.2
  | gt =>
      rw [hcompare] at h
      cases h.1

end SiteIndex.Text.Natural
