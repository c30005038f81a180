import SiteIndex.Proofs.Binary64.Integers
import SiteIndex.Proofs.Value.Order

/-!
# Integers among floats

Beside a float an integer counts as the nearest double. If every integer is rounded in this way
(`rounded`), any two values compare as their places do, so that the rounded order is transitive.
Two integers compare by themselves, though, and so more finely than their doubles. The order of
values is therefore transitive but for one kind of triple (`Collision`): an integer, its double,
and a smaller integer that has the same double. There is none among the integers up to the
fifty-third power of two (`Exact`).
-/

namespace SiteIndex.Value

open Std

/-- The value, with an integer rounded to the nearest double. -/
def rounded : Value → Value
  | .int i => .float (.ofInt i.toInt)
  | v => v

/-- Rounded values are no integers. -/
theorem unmixed_rounded (a b : Value) : Unmixed a.rounded b.rounded := by
  cases a <;> cases b <;> trivial

/-- Both values are integers. -/
def BothInt (a b : Value) : Prop := ∃ i k, a = .int i ∧ b = .int k

/-- Values that are not both integers compare as they do rounded. -/
theorem compareTo_rounded {a b : Value} (h : ¬ BothInt a b) :
    a.rounded.compareTo b.rounded = a.compareTo b := by
  cases a with
  | int i =>
      cases b with
      | int k => exact absurd ⟨i, k, rfl, rfl⟩ h
      | _ => rfl
  | _ => cases b <;> rfl

/-- Values that change sides compare the other way round, also an integer and a float. -/
theorem compareTo_swap_mixed (a b : Value) : b.compareTo a = (a.compareTo b).swap := by
  by_cases h : BothInt a b
  · obtain ⟨i, k, rfl, rfl⟩ := h
    exact compareTo_swap trivial
  · have hback : ¬ BothInt b a := fun ⟨k, i, hb, ha⟩ => h ⟨i, k, ha, hb⟩
    rw [← compareTo_rounded h, ← compareTo_rounded hback, compareTo_swap (unmixed_rounded a b)]

/-- A value is level with itself. -/
theorem compareTo_self (a : Value) : a.compareTo a = .eq := by
  have hunmixed : Unmixed a a := by cases a <;> trivial
  rw [compareTo_eq_place hunmixed]
  exact ReflCmp.compare_self

/-- An integer of sixty-four bits as a natural number without its sign. -/
theorem natAbs_toInt_lt (i : Int64) : i.toInt.natAbs < 2 ^ 64 := by
  have hlow := i.le_toInt
  have hhigh := i.toInt_lt
  omega

/-- Rounding keeps the order. -/
theorem isLE_rounded {a b : Value} (h : (a.compareTo b).isLE) :
    (a.rounded.compareTo b.rounded).isLE := by
  by_cases hboth : BothInt a b
  · obtain ⟨i, k, rfl, rfl⟩ := hboth
    have hle : i.toInt ≤ k.toInt := Int.isLE_compare.1 h
    exact Int.isLE_compare.2
      (Binary64.totalKey_ofInt_mono (natAbs_toInt_lt i) (natAbs_toInt_lt k) hle)
  · rwa [compareTo_rounded hboth]

/-- Rounded values stand in a transitive order. -/
theorem isLE_trans_rounded {a b c : Value} (hab : (a.compareTo b).isLE)
    (hbc : (b.compareTo c).isLE) : (a.rounded.compareTo c.rounded).isLE := by
  have hab := isLE_rounded hab
  have hbc := isLE_rounded hbc
  rw [compareTo_eq_place (unmixed_rounded _ _)] at *
  exact TransCmp.isLE_trans hab hbc

/-- An integer, its double, and a smaller integer with the same double. -/
inductive Collision : Value → Value → Value → Prop where
  | intro {i k : Int64} (hlt : k < i)
      (hsame : Binary64.ofInt k.toInt = Binary64.ofInt i.toInt) :
      Collision (.int i) (.float (.ofInt i.toInt)) (.int k)

/-- What stands between an integer and an integer that is not greater. -/
theorem collision_of_between {i k : Int64} {b : Value} (hlt : k < i)
    (hib : ((Value.int i).compareTo b).isLE) (hbk : (b.compareTo (.int k)).isLE) :
    Collision (.int i) b (.int k) := by
  have hlt' : k.toInt < i.toInt := Int64.lt_iff_toInt_lt.1 hlt
  cases b with
  | int j =>
      have hij : i.toInt ≤ j.toInt := Int.isLE_compare.1 hib
      have hjk : j.toInt ≤ k.toInt := Int.isLE_compare.1 hbk
      omega
  | float x =>
      have hix : (Binary64.ofInt i.toInt).totalKey ≤ x.totalKey := Int.isLE_compare.1 hib
      have hxk : x.totalKey ≤ (Binary64.ofInt k.toInt).totalKey := Int.isLE_compare.1 hbk
      have hki := Binary64.totalKey_ofInt_mono (natAbs_toInt_lt k) (natAbs_toInt_lt i)
        (Int.le_of_lt hlt')
      obtain rfl : x = .ofInt i.toInt := Binary64.totalKey_injective (by omega)
      exact .intro hlt (Binary64.totalKey_injective (by omega))
  -- The other types stand on one side of all integers.
  | bool => cases hib
  | time | duration | text | list => cases hbk

/-- The order of values is transitive, unless the values collide. -/
theorem isLE_trans_or_collision {a b c : Value} (hab : (a.compareTo b).isLE)
    (hbc : (b.compareTo c).isLE) : (a.compareTo c).isLE ∨ Collision a b c := by
  by_cases hboth : BothInt a c
  · obtain ⟨i, k, rfl, rfl⟩ := hboth
    by_cases hle : i.toInt ≤ k.toInt
    · exact .inl (Int.isLE_compare.2 hle)
    · exact .inr (collision_of_between (Int64.lt_iff_toInt_lt.2 (by omega)) hab hbc)
  · rw [← compareTo_rounded hboth]
    exact .inl (isLE_trans_rounded hab hbc)

/-- Values that collide stand in a circle. -/
theorem Collision.circle {a b c : Value} (h : Collision a b c) :
    a.compareTo b = .eq ∧ b.compareTo c = .eq ∧ a.compareTo c = .gt := by
  obtain ⟨hlt, hsame⟩ := h
  refine ⟨Int.compare_eq_eq.2 rfl, ?_, Int.compare_eq_gt.2 (Int64.lt_iff_toInt_lt.1 hlt)⟩
  exact Int.compare_eq_eq.2 (congrArg Binary64.totalKey hsame.symm)

/-! ## Values without collisions -/

/-- An integer is at most the fifty-third power of two in size; other values are as they may. -/
def Exact : Value → Prop
  | .int i => i.toInt.natAbs ≤ 2 ^ 53
  | _ => True

/-- Of two integers that collide one is beyond the fifty-third power of two. -/
theorem Collision.not_exact {a b c : Value} (h : Collision a b c) : ¬ (a.Exact ∧ c.Exact) := by
  obtain ⟨hlt, hsame⟩ := h
  rintro ⟨ha, hc⟩
  have heq := Binary64.ofInt_injective hc ha hsame
  have hlt' := Int64.lt_iff_toInt_lt.1 hlt
  omega

/-- Values whose integers are exact as doubles are totally preordered, integers and floats
mixed. -/
instance : TransCmp fun a b : { v : Value // v.Exact } => a.1.compareTo b.1 where
  eq_swap := compareTo_swap_mixed _ _
  isLE_trans {a _ c} hab hbc :=
    (isLE_trans_or_collision hab hbc).resolve_right fun h => h.not_exact ⟨a.2, c.2⟩

/-- How far the order of values is a total preorder. Every value is level with itself, and values
that change sides compare the other way round. The order is transitive on three values exactly if
they are not an integer, its double and a smaller integer with the same double; then one of the
integers is beyond the fifty-third power of two in size. -/
theorem compareTo_preorder_iff (a b c : Value) :
    a.compareTo a = .eq ∧
    b.compareTo a = (a.compareTo b).swap ∧
    ((a.compareTo b ≠ .gt → b.compareTo c ≠ .gt → a.compareTo c ≠ .gt) ↔
      ¬ ∃ i k : Int64, k < i ∧ Binary64.ofInt k.toInt = Binary64.ofInt i.toInt ∧
        a = .int i ∧ b = .float (.ofInt i.toInt) ∧ c = .int k) ∧
    ∀ i k : Int64, k < i → Binary64.ofInt k.toInt = Binary64.ofInt i.toInt →
      2 ^ 53 < i.toInt.natAbs ∨ 2 ^ 53 < k.toInt.natAbs := by
  refine ⟨compareTo_self a, compareTo_swap_mixed a b, ⟨?_, ?_⟩, fun i k hlt hsame => ?_⟩
  · rintro htrans ⟨i, k, hlt, hsame, rfl, rfl, rfl⟩
    obtain ⟨hab, hbc, hac⟩ := (Collision.intro hlt hsame).circle
    exact htrans (by rw [hab]; decide) (by rw [hbc]; decide) hac
  · intro hnone hab hbc
    refine Ordering.isLE_iff_ne_gt.1 ((isLE_trans_or_collision (Ordering.isLE_iff_ne_gt.2 hab)
      (Ordering.isLE_iff_ne_gt.2 hbc)).resolve_right ?_)
    rintro ⟨hlt, hsame⟩
    exact hnone ⟨_, _, hlt, hsame, rfl, rfl, rfl⟩
  · by_contra hsmall
    exact (Collision.intro hlt hsame).not_exact ⟨by change _ ≤ _; omega, by change _ ≤ _; omega⟩

/-- The fifty-third power of two and the next integer have one double, so that they and the double
stand in a circle. -/
theorem compareTo_preorder_iff_next :
    ¬ ((Value.int 9007199254740993).compareTo (.float (.ofInt 9007199254740993)) ≠ .gt →
      (Value.float (.ofInt 9007199254740993)).compareTo (.int 9007199254740992) ≠ .gt →
      (Value.int 9007199254740993).compareTo (.int 9007199254740992) ≠ .gt) := by
  have hlt : (9007199254740992 : Int64) < 9007199254740993 := by decide
  have hsame : Binary64.ofInt (9007199254740992 : Int64).toInt =
      .ofInt (9007199254740993 : Int64).toInt := by
    decide +kernel
  exact fun htrans => (compareTo_preorder_iff _ _ _).2.2.1.1 htrans
    ⟨_, _, hlt, hsame, rfl, rfl, rfl⟩

end SiteIndex.Value
