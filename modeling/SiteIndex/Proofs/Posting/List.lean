import Mathlib.Data.List.Nodup
import Mathlib.Tactic.Ring
import SiteIndex.Proofs.Posting.Codec

/-!
# Posting lists are sets

A posting list in ascending order is a set of stubs. Bisection finds the place of a stub in it
(`bisect_spec`), so that `insert`, `remove` and `contains` are the operations of sets
(`insert_toList`, `remove_toList`, `contains_toList`), and the stored form of a set is read as
that set (`decode_blob`).
-/

namespace SiteIndex.Posting

namespace StubSet

variable {s t : StubSet} {n k : UInt32}

/-- A set holds no number twice. -/
theorem nodup (s : StubSet) : s.toList.Nodup := by
  refine s.ascending.imp ?_
  intro a b hab heq
  exact UInt32.lt_irrefl b (heq ▸ hab)

/-- Sets with the same members are equal. -/
theorem ext_mem (h : ∀ n, n ∈ s.toList ↔ n ∈ t.toList) : s = t := by
  have hperm := (List.perm_ext_iff_of_nodup s.nodup t.nodup).2 h
  have hlist : s.toList = t.toList :=
    hperm.eq_of_pairwise (fun a b _ _ hab hba => absurd hba (UInt32.lt_asymm hab))
      s.ascending t.ascending
  cases s
  cases t
  cases hlist
  rfl

/-- Membership is membership in the list. -/
@[simp] theorem mem_toList : n ∈ s.toList ↔ n ∈ s := Iff.rfl

/-- The empty set has no members. -/
@[simp] theorem not_mem_empty : ¬ n ∈ (∅ : StubSet) := List.not_mem_nil

/-- An insertion adds one member. -/
@[simp] theorem mem_insert : k ∈ s.insert n ↔ k = n ∨ k ∈ s := mem_insertInto

/-- A set with a member added is not empty. -/
theorem insert_ne_empty (s : StubSet) (n : UInt32) : s.insert n ≠ ∅ := by
  intro h
  exact not_mem_empty (h ▸ mem_insert.2 (.inl rfl))

/-- A restriction keeps the members that satisfy the test. -/
@[simp] theorem mem_filter {keep : UInt32 → Bool} : k ∈ s.filter keep ↔ k ∈ s ∧ keep k = true :=
  List.mem_filter

/-- The test of membership. -/
@[simp] theorem contains_iff : s.contains n = true ↔ n ∈ s := List.contains_iff_mem

instance (n : UInt32) (s : StubSet) : Decidable (n ∈ s) := decidable_of_iff _ contains_iff

/-- Inserting one number after the other adds all of them. -/
theorem mem_foldl_insert {numbers : List UInt32} :
    k ∈ numbers.foldl (fun u n => u.insert n) s ↔ k ∈ s ∨ k ∈ numbers := by
  induction numbers generalizing s with
  | nil => simp
  | cons m rest ih =>
      rw [List.foldl_cons, ih, mem_insert, List.mem_cons]
      grind

/-- The set of a list has the members of the list. -/
@[simp] theorem mem_ofList {numbers : List UInt32} : k ∈ ofList numbers ↔ k ∈ numbers := by
  refine mem_foldl_insert.trans ?_
  exact or_iff_right not_mem_empty

/-- A union has the members of either set. -/
@[simp] theorem mem_union : k ∈ s.union t ↔ k ∈ s ∨ k ∈ t := mem_foldl_insert

/-- A number is in the union of sets if it is in one of them. -/
theorem mem_foldl_union {sets : List StubSet} :
    k ∈ sets.foldl union s ↔ k ∈ s ∨ ∃ u ∈ sets, k ∈ u := by
  induction sets generalizing s with
  | nil => simp
  | cons u rest ih =>
      rw [List.foldl_cons, ih, mem_union]
      simp [or_assoc]

/-- An intersection has the members of both sets. -/
@[simp] theorem mem_inter : k ∈ s.inter t ↔ k ∈ s ∧ k ∈ t := by
  rw [inter, mem_filter, contains_iff]

/-- A difference has the members of the first set that are not in the second. -/
@[simp] theorem mem_diff : k ∈ s.diff t ↔ k ∈ s ∧ ¬ k ∈ t := by
  rw [diff, mem_filter, Bool.not_eq_true', ← contains_iff (s := t), Bool.not_eq_true]

/-- The set without a member. -/
def erase (n : UInt32) (s : StubSet) : StubSet := s.filter (· ≠ n)

/-- Taking a member away leaves the others. -/
@[simp] theorem mem_erase : k ∈ s.erase n ↔ k ∈ s ∧ k ≠ n := by
  rw [erase, mem_filter, decide_eq_true_eq]

/-- Only the empty set has no numbers. -/
theorem toList_eq_nil_iff : s.toList = [] ↔ s = ∅ := by
  constructor
  · exact fun hnil => ext_mem fun n => by rw [hnil, show (∅ : StubSet).toList = [] from rfl]
  · rintro rfl
    rfl

/-- A set with a member stays as it is when the member is put in again. -/
theorem insert_of_mem {n : UInt32} (h : n ∈ s) : s.insert n = s :=
  ext_mem fun k => by
    simp only [mem_toList, mem_insert]
    exact or_iff_right_of_imp fun heq => heq ▸ h

/-- A set stays as it is when a number that is no member is taken away. -/
theorem erase_of_not_mem {n : UInt32} (h : n ∉ s) : s.erase n = s :=
  ext_mem fun k => by
    simp only [mem_toList, mem_erase]
    exact and_iff_left_of_imp fun hk heq => h (heq ▸ hk)

/-- The stored form of a set. -/
def blob (s : StubSet) : Bytes := (PostingList.encode ⟨s.toList⟩).toOption.getD []

end StubSet

namespace PostingList

/-! ## Bisection -/

/-- Bisection ends within the section it was given, at the last number of the list that is not
greater than the stub, if there is one. -/
theorem bisect_spec {stubs : List UInt32} (h : stubs.Pairwise (· < ·)) {stub : UInt32}
    {base size : Nat} (hsize : 0 < size) (hend : base + size ≤ stubs.length)
    (hbase : base = 0 ∨ ∀ x, stubs[base]? = some x → x ≤ stub)
    (habove : ∀ i x, base + size ≤ i → stubs[i]? = some x → stub < x) :
    bisect stubs stub base size < stubs.length ∧
      (bisect stubs stub base size = 0 ∨
        ∀ x, stubs[bisect stubs stub base size]? = some x → x ≤ stub) ∧
      ∀ i x, bisect stubs stub base size < i → stubs[i]? = some x → stub < x := by
  -- The section that is left has its first number not above the stub and all behind it above.
  induction size using Nat.strongRecOn generalizing base with
  | ind size ih =>
      rw [bisect]
      by_cases hone : size ≤ 1
      · rw [if_pos hone]
        exact ⟨by omega, hbase, fun i x hi => habove i x (by omega)⟩
      · rw [if_neg hone]
        dsimp only
        have hmiddle : base + size / 2 < stubs.length := by omega
        have hget : stubs[base + size / 2]? = some (stubs.getD (base + size / 2) 0) := by
          rw [List.getD_eq_getElem?_getD, List.getElem?_eq_getElem hmiddle]
          rfl
        by_cases hlt : stub < stubs.getD (base + size / 2) 0
        · rw [if_pos hlt]
          refine ih _ (by omega) (by omega) (by omega) hbase fun i x hi hx => ?_
          rcases Nat.lt_or_ge (base + size / 2) i with hi' | hi'
          · refine UInt32.lt_trans hlt ?_
            obtain ⟨hi, rfl⟩ := List.getElem?_eq_some_iff.1 hx
            obtain ⟨hm, hgetm⟩ := List.getElem?_eq_some_iff.1 hget
            rw [← hgetm]
            exact List.pairwise_iff_getElem.1 h _ _ hm hi hi'
          · obtain rfl : i = base + size / 2 := by omega
            rw [hget] at hx
            exact Option.some.inj hx ▸ hlt
        · rw [if_neg hlt]
          refine ih _ (by omega) (by omega) (by omega) (.inr fun x hx => ?_) fun i x hi =>
            habove i x (by omega)
          rw [hget] at hx
          exact Option.some.inj hx ▸ UInt32.not_lt.1 hlt

/-- A place in an ascending list that is right for a stub. -/
def Fits (stubs : List UInt32) (stub : UInt32) : Place → Prop
  | .found i => stubs[i]? = some stub
  | .absent i => (∀ x ∈ stubs.take i, x < stub) ∧ ∀ x ∈ stubs.drop i, stub < x

/-- A stub fits behind a smaller number if all that come later are greater. -/
theorem fits_behind {stubs : List UInt32} (h : stubs.Pairwise (· < ·)) {stub : UInt32}
    {position : Nat} (hlt : position < stubs.length) (hbelow : stubs[position] < stub)
    (habove : ∀ i x, position < i → stubs[i]? = some x → stub < x) :
    Fits stubs stub (.absent (position + 1)) := by
  constructor
  · intro x hx
    rw [List.take_succ_eq_append_getElem hlt, List.mem_append, List.mem_singleton] at hx
    rcases hx with hx | rfl
    · obtain ⟨j, hj, rfl⟩ := List.mem_take_iff_getElem.1 hx
      exact UInt32.lt_trans (List.pairwise_iff_getElem.1 h _ _ _ hlt (by omega)) hbelow
    · exact hbelow
  · intro x hx
    obtain ⟨j, hj⟩ := List.mem_iff_getElem?.1 hx
    rw [List.getElem?_drop] at hj
    exact habove _ _ (by omega) hj

/-- A stub fits in front if all numbers are greater. -/
theorem fits_front {stubs : List UInt32} {stub : UInt32}
    (habove : ∀ (i : Nat) x, stubs[i]? = some x → stub < x) : Fits stubs stub (.absent 0) := by
  constructor
  · simp
  · intro x hx
    obtain ⟨i, hi⟩ := List.mem_iff_getElem?.1 hx
    exact habove i x hi

/-- In an ascending list a stub is found where it stands, or else where it has to be put. -/
theorem fits_locate {stubs : List UInt32} (h : stubs.Pairwise (· < ·)) (stub : UInt32) :
    Fits stubs stub (locate ⟨stubs⟩ stub) := by
  cases hstubs : stubs with
  | nil => simp [locate, Fits]
  | cons first rest =>
      rw [← hstubs]
      have hlen : 0 < stubs.length := by simp [hstubs]
      have hend : ∀ i x, 0 + stubs.length ≤ i → stubs[i]? = some x → stub < x := by
        intro i x hi hx
        rw [List.getElem?_eq_none (by omega)] at hx
        cases hx
      obtain ⟨hlt, hbelow, habove⟩ := bisect_spec h hlen (by omega) (.inl rfl) hend
      unfold locate
      dsimp only
      generalize bisect stubs stub 0 stubs.length = position at hlt hbelow habove ⊢
      have hget := List.getElem?_eq_getElem hlt
      simp only [hget]
      split
      case isTrue heq => exact hget.trans (congrArg some heq)
      case isFalse hne =>
        by_cases hother : stubs[position] < stub
        · rw [if_pos hother]
          exact fits_behind h hlt hother habove
        · rw [if_neg hother]
          have hstub : stub < stubs[position] :=
            UInt32.lt_of_le_of_ne (UInt32.not_lt.1 hother) (Ne.symm hne)
          -- Bisection ends at a greater number only if all numbers are greater.
          have hzero : position = 0 := by
            rcases hbelow with hzero | hle
            · exact hzero
            · exact absurd (hle _ hget) (UInt32.not_le.2 hstub)
          subst hzero
          refine fits_front fun i x hx => ?_
          rcases Nat.eq_zero_or_pos i with rfl | hi
          · exact Option.some.inj (hget.symm.trans hx) ▸ hstub
          · exact habove i x hi hx

/-! ## Operations -/

/-- A stub that stands between two parts of a list is put there. -/
theorem insertInto_append {stub : UInt32} {front back : List UInt32}
    (hfront : ∀ x ∈ front, x < stub) (hback : ∀ x ∈ back, stub < x) :
    StubSet.insertInto stub (front ++ back) = front ++ stub :: back := by
  induction front with
  | nil =>
      cases back with
      | nil => rfl
      | cons x back => simp [StubSet.insertInto, hback x (List.mem_cons_self ..)]
  | cons x front ih =>
      have hx : x < stub := hfront x (List.mem_cons_self ..)
      rw [List.cons_append, StubSet.insertInto, if_neg (UInt32.lt_asymm hx),
        if_neg (UInt32.ne_of_lt hx).symm, ih fun y hy => hfront y (List.mem_cons_of_mem _ hy)]
      rfl

variable {s : StubSet} {stub : UInt32}

/-- A stub that is not at a place where it has to be put is no member. -/
theorem not_mem_of_fits_absent {i : Nat} (h : Fits s.toList stub (.absent i)) : ¬ stub ∈ s := by
  intro hmem
  rw [← StubSet.mem_toList, ← List.take_append_drop i s.toList, List.mem_append] at hmem
  rcases hmem with hmem | hmem
  · exact UInt32.lt_irrefl stub (h.1 stub hmem)
  · exact UInt32.lt_irrefl stub (h.2 stub hmem)

/-- Posting a stub inserts it into the set and says whether it is new. -/
theorem insert_toList (s : StubSet) (stub : UInt32) :
    insert ⟨s.toList⟩ stub = (!s.contains stub, ⟨(s.insert stub).toList⟩) := by
  have hfits := fits_locate s.ascending stub
  unfold insert
  cases hplace : locate ⟨s.toList⟩ stub with
  | found i =>
      rw [hplace] at hfits
      have hmem : stub ∈ s := List.mem_of_getElem? hfits
      rw [StubSet.insert_of_mem hmem, StubSet.contains_iff.2 hmem]
      rfl
  | absent i =>
      rw [hplace] at hfits
      have hcontains : s.contains stub = false := by
        rw [← Bool.not_eq_true, StubSet.contains_iff]
        exact not_mem_of_fits_absent hfits
      have hlist : (s.insert stub).toList = s.toList.take i ++ stub :: s.toList.drop i := by
        rw [← insertInto_append hfits.1 hfits.2, List.take_append_drop]
        rfl
      rw [hlist, hcontains]
      rfl

/-- Taking a stub away erases it from the set and says whether it was there. -/
theorem remove_toList (s : StubSet) (stub : UInt32) :
    remove ⟨s.toList⟩ stub = (s.contains stub, ⟨(s.erase stub).toList⟩) := by
  have hfits := fits_locate s.ascending stub
  unfold remove
  cases hplace : locate ⟨s.toList⟩ stub with
  | found i =>
      rw [hplace] at hfits
      obtain ⟨hi, hget⟩ := List.getElem?_eq_some_iff.1 hfits
      have hmem : stub ∈ s := List.mem_of_getElem? hfits
      have hlist : s.toList.eraseIdx i = (s.erase stub).toList := by
        rw [← List.Nodup.erase_getElem s.nodup i hi, hget, List.Nodup.erase_eq_filter s.nodup]
        refine List.filter_congr fun x _ => ?_
        rw [bne, beq_eq_decide, decide_not]
      rw [StubSet.contains_iff.2 hmem, ← hlist]
  | absent i =>
      rw [hplace] at hfits
      have hmem := not_mem_of_fits_absent hfits
      have hcontains : s.contains stub = false := by
        rw [← Bool.not_eq_true, StubSet.contains_iff]
        exact hmem
      rw [hcontains, StubSet.erase_of_not_mem hmem]

/-- A stub is posted exactly when it is a member of the set. -/
theorem contains_toList (s : StubSet) (stub : UInt32) :
    contains ⟨s.toList⟩ stub = s.contains stub := by
  have hremove := congrArg Prod.fst (remove_toList s stub)
  unfold remove at hremove
  unfold contains
  cases hplace : locate ⟨s.toList⟩ stub <;> simpa [hplace] using hremove

/-! ## Stored forms -/

/-- A set has a stored form. -/
theorem encode_toList (s : StubSet) : encode ⟨s.toList⟩ = .ok s.blob := by
  obtain ⟨bytes, hencode, _⟩ := Gaps.exists_encode_decode s.ascending
  have hencode : encode ⟨s.toList⟩ = .ok bytes := hencode
  rw [StubSet.blob, hencode]
  rfl

/-- The stored form of a set is read as that set. -/
theorem decode_blob (s : StubSet) : decode s.blob = .ok ⟨s.toList⟩ := by
  obtain ⟨bytes, hencode, hdecode⟩ := Gaps.exists_encode_decode s.ascending
  have hbytes : s.blob = bytes := by
    have hencode : encode ⟨s.toList⟩ = .ok bytes := hencode
    exact Except.ok.inj ((encode_toList s).symm.trans hencode)
  rw [decode, hbytes, hdecode]
  rfl

end PostingList

end SiteIndex.Posting
