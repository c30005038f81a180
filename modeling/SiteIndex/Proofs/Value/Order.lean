import SiteIndex.Proofs.Text.Natural
import SiteIndex.Value.Basic

/-!
# The order of values

Each type has its place in the order, and within a type a value stands where its numbers stand
lexicographically (`place`). Two values that are not an integer and a float compare as their places
do (`compareTo_eq_place`), so that the order is a total preorder on any values among which integers
and floats are not mixed. An integer beside a float counts as the nearest double, which breaks
transitivity: two integers may be nearest to the same double.
-/

namespace SiteIndex.Value

open Std Text.Natural

/-- Neither of the two values is an integer where the other is a float. -/
def Unmixed : Value → Value → Prop
  | .int _, .float _ => False
  | .float _, .int _ => False
  | _, _ => True

/-- It does not matter which value comes first. -/
theorem Unmixed.symm {a b : Value} (h : Unmixed a b) : Unmixed b a := by
  cases a <;> cases b <;> trivial

/-- Where a value stands: the place of its type, and numbers that place it within the type. -/
def place : Value → Nat × List Int
  | .bool b => (0, [b.toNat])
  | .int i => (1, [i.toInt])
  | .float x => (2, [x.totalKey])
  | .duration d => (3, [d.seconds.toNat, d.nanos.val])
  | .time t => (4, [t.day, t.second.val, t.nanos.val])
  | .text s => (5, s.toList.map fun c => c.toNat)
  | .list items => (6, [items.length])

/-- Places compare by the type and then number by number. -/
def comparePlace (a b : Nat × List Int) : Ordering :=
  (compare a.1 b.1).then (List.compareLex compare a.2 b.2)

instance : TransCmp comparePlace :=
  haveI := transCmp_on compare fun place : Nat × List Int => place.1
  haveI := transCmp_on (List.compareLex compare) fun place : Nat × List Int => place.2
  inferInstanceAs (TransCmp (compareLex
    (fun a b : Nat × List Int => compare a.1 b.1) (fun a b => List.compareLex compare a.2 b.2)))

/-- Natural numbers compare as integers do. -/
theorem compare_natCast (a b : Nat) : compare (a : Int) (b : Int) = compare a b := by
  rcases Nat.lt_trichotomy a b with h | rfl | h
  · rw [Nat.compare_eq_lt.2 h, Int.compare_eq_lt.2 (by omega)]
  · rw [Nat.compare_eq_eq.2 rfl, Int.compare_eq_eq.2 rfl]
  · rw [Nat.compare_eq_gt.2 h, Int.compare_eq_gt.2 (by omega)]

/-- Texts compare as the lists of their code points do. -/
theorem compareChars_eq_codes (as bs : List Char) :
    compareChars as bs = List.compareLex compare (as.map fun c => (c.toNat : Int))
      (bs.map fun c => (c.toNat : Int)) := by
  induction as generalizing bs with
  | nil => cases bs <;> rfl
  | cons a as ih =>
      cases bs with
      | nil => rfl
      | cons b bs =>
          rw [compareChars, ih, List.map_cons, List.map_cons, List.compareLex_cons_cons,
            compare_natCast]
          rfl

/-- Lists that start with numbers compare by these and then by their rests. -/
theorem compareLex_natCast (a b : Nat) (as bs : List Int) :
    List.compareLex compare ((a : Int) :: as) ((b : Int) :: bs) =
      (compare a b).then (List.compareLex compare as bs) := by
  rw [List.compareLex_cons_cons, compare_natCast]

/-- Values compare as their places do, unless one is an integer and the other a float. -/
theorem compareTo_eq_place {a b : Value} (h : Unmixed a b) :
    a.compareTo b = comparePlace a.place b.place := by
  cases a with
  | bool a =>
      cases b with
      | bool b => exact ((compareLex_natCast _ _ [] []).trans Ordering.then_eq).symm
      | _ => rfl
  | int a =>
      cases b with
      | int b => exact ((List.compareLex_cons_cons).trans Ordering.then_eq).symm
      | float b => exact absurd h id
      | _ => rfl
  | float a =>
      cases b with
      | float b => exact ((List.compareLex_cons_cons).trans Ordering.then_eq).symm
      | int b => exact absurd h id
      | _ => rfl
  | duration a =>
      cases b with
      | duration b =>
          rw [compareTo, Time.Span.compareTo, comparePlace, place, place, compareLex_natCast,
            compareLex_natCast, List.compareLex_nil_nil, Ordering.then_eq]
          rfl
      | _ => rfl
  | time a =>
      cases b with
      | time b =>
          rw [compareTo, Time.Instant.compareTo, comparePlace, place, place,
            List.compareLex_cons_cons, compareLex_natCast, compareLex_natCast,
            List.compareLex_nil_nil, Ordering.then_eq, Ordering.then_assoc]
          rfl
      | _ => rfl
  | text a =>
      cases b with
      | text b => exact compareChars_eq_codes _ _
      | _ => rfl
  | list as =>
      cases b with
      | list bs => exact ((compareLex_natCast _ _ [] []).trans Ordering.then_eq).symm
      | _ => rfl

/-- Values that change sides compare the other way round. -/
theorem compareTo_swap {a b : Value} (h : Unmixed a b) :
    b.compareTo a = (a.compareTo b).swap := by
  rw [compareTo_eq_place h, compareTo_eq_place h.symm, @OrientedCmp.eq_swap _ comparePlace]

end SiteIndex.Value
