import Mathlib.Algebra.Ring.Nat
import Mathlib.Data.List.Chain
import SiteIndex.Proofs.Posting.List
import SiteIndex.Proofs.Posting.Spelling

/-!
# The stored form of posting lists

The strictly ascending lists are the ones that have a stored form, and a stored form is read as
its list: on the level of numbers and on the level of bytes the writers and the readers are inverse
(`codec_inverse`). The readers take more than the writers make. What is read never falls, but it
may hold a number twice, and it may have been spelled in more bytes than it takes: a byte string
that is read is the stored form of a list if and only if no byte but its first is zero
(`decode_stored_iff`).
-/

namespace SiteIndex.Posting

namespace Gaps

variable {previous : UInt32} {numbers gs : List UInt32}

/-- The first number after `previous` is their sum as natural numbers, and the others follow. -/
theorem exists_of_sumsAfter_cons {gap : UInt32}
    (h : sumsAfter previous (gap :: gs) = .ok numbers) :
    ∃ n rest, numbers = n :: rest ∧ n.toNat = previous.toNat + gap.toNat ∧
      sumsAfter n gs = .ok rest := by
  rw [sumsAfter] at h
  split at h
  case isTrue hfits =>
    obtain ⟨rest, hrest, rfl⟩ := map_eq_ok_iff.1 h
    refine ⟨_, rest, rfl, ?_, hrest⟩
    rw [UInt32.toNat_add, Nat.mod_eq_of_lt hfits]
  case isFalse => cases h

/-- Numbers at given gaps never fall. -/
theorem isChain_le_of_sumsAfter (h : sumsAfter previous gs = .ok numbers) :
    (previous :: numbers).IsChain (· ≤ ·) := by
  induction gs generalizing previous numbers with
  | nil =>
      cases h
      exact .singleton _
  | cons gap gs ih =>
      obtain ⟨n, rest, rfl, hn, hrest⟩ := exists_of_sumsAfter_cons h
      refine List.isChain_cons_cons.2 ⟨?_, ih hrest⟩
      rw [UInt32.le_iff_toNat_le]
      omega

/-- Numbers rise where their gaps are not zero, and only there. -/
theorem isChain_lt_iff_of_sumsAfter (h : sumsAfter previous gs = .ok numbers) :
    (previous :: numbers).IsChain (· < ·) ↔ 0 ∉ gs := by
  induction gs generalizing previous numbers with
  | nil =>
      cases h
      exact iff_of_true (.singleton _) List.not_mem_nil
  | cons gap gs ih =>
      obtain ⟨n, rest, rfl, hn, hrest⟩ := exists_of_sumsAfter_cons h
      rw [List.isChain_cons_cons, ih hrest, List.mem_cons, not_or, UInt32.lt_iff_toNat_lt,
        ← UInt32.toNat_inj, UInt32.toNat_zero]
      exact and_congr_left fun _ => by omega

/-- Numbers that rise have the gaps at which they were put. -/
theorem gapsAfter_of_sumsAfter (h : sumsAfter previous gs = .ok numbers)
    (hchain : (previous :: numbers).IsChain (· < ·)) : gapsAfter previous numbers = .ok gs := by
  induction gs generalizing previous numbers with
  | nil =>
      cases h
      rfl
  | cons gap gs ih =>
      obtain ⟨n, rest, rfl, hn, hrest⟩ := exists_of_sumsAfter_cons h
      obtain ⟨hlt, hchain⟩ := List.isChain_cons_cons.1 hchain
      have hgap : n - previous = gap := by
        rw [← UInt32.toNat_inj, UInt32.toNat_sub_of_le _ _ (UInt32.le_of_lt hlt)]
        omega
      rw [gapsAfter, if_pos hlt, ih hrest hchain, hgap]
      rfl

/-- Each number is the sum of what came before it and of the gaps up to it, as natural numbers:
no addition runs over. -/
theorem toNat_getElem_of_sumsAfter (h : sumsAfter previous gs = .ok numbers) {i : Nat}
    (hi : i < numbers.length) :
    numbers[i].toNat = previous.toNat + ((gs.take (i + 1)).map UInt32.toNat).sum := by
  induction gs generalizing previous numbers i with
  | nil =>
      cases h
      cases hi
  | cons gap gs ih =>
      obtain ⟨n, rest, rfl, hn, hrest⟩ := exists_of_sumsAfter_cons h
      cases i with
      | zero => simp [hn]
      | succ i =>
          have hnext := ih hrest (Nat.lt_of_succ_lt_succ hi)
          rw [List.getElem_cons_succ, hnext, hn, List.take_succ_cons, List.map_cons, List.sum_cons,
            Nat.add_assoc]

/-- Gaps whose sum runs over are malformed. -/
theorem kind_of_sumsAfter {failure : Failure} (h : sumsAfter previous gs = .error failure) :
    failure.kind = .parse := by
  induction gs generalizing previous with
  | nil => cases h
  | cons gap gs ih =>
      rw [sumsAfter] at h
      split at h
      case isTrue => exact ih (map_eq_error_iff.1 h)
      case isFalse =>
        cases h
        rfl

/-- A list that does not ascend is refused at the first number that does not. -/
theorem exists_gapsAfter_error (h : ¬ (previous :: numbers).IsChain (· < ·)) :
    ∃ front last n back, previous :: numbers = front ++ last :: n :: back ∧
      (front ++ [last]).IsChain (· < ·) ∧ n ≤ last ∧
      gapsAfter previous numbers = .error (.notAscending n last) := by
  induction numbers generalizing previous with
  | nil => exact absurd (.singleton _) h
  | cons n rest ih =>
      by_cases hlt : previous < n
      · have hrest : ¬ (n :: rest).IsChain (· < ·) :=
          fun hchain => h (List.isChain_cons_cons.2 ⟨hlt, hchain⟩)
        obtain ⟨front, last, m, back, heq, hchain, hle, herror⟩ := ih hrest
        refine ⟨previous :: front, last, m, back, by rw [heq, List.cons_append], ?_, hle, ?_⟩
        · cases front with
          | nil =>
              obtain ⟨rfl, -⟩ := List.cons.inj heq
              exact List.isChain_cons_cons.2 ⟨hlt, .singleton _⟩
          | cons first front =>
              obtain ⟨rfl, -⟩ := List.cons.inj heq
              exact List.isChain_cons_cons.2 ⟨hlt, hchain⟩
        · rw [gapsAfter, if_pos hlt, herror]
          rfl
      · refine ⟨[], previous, n, rest, rfl, .singleton _, UInt32.not_lt.1 hlt, ?_⟩
        rw [gapsAfter, if_neg hlt]

/-! ## Lists with their first number -/

/-- The first number is given as it is, and the others follow it. -/
theorem exists_of_sums (h : sums gs = .ok numbers) :
    gs = [] ∧ numbers = [] ∨
      ∃ n gaps rest, gs = n :: gaps ∧ numbers = n :: rest ∧ sumsAfter n gaps = .ok rest := by
  cases gs with
  | nil =>
      cases h
      exact .inl ⟨rfl, rfl⟩
  | cons n gaps =>
      obtain ⟨rest, hrest, rfl⟩ := map_eq_ok_iff.1 h
      exact .inr ⟨n, gaps, rest, rfl, rfl, hrest⟩

/-- What is read never falls. -/
theorem pairwise_le_of_sums (h : sums gs = .ok numbers) : numbers.Pairwise (· ≤ ·) := by
  obtain ⟨rfl, rfl⟩ | ⟨n, gaps, rest, rfl, rfl, hrest⟩ := exists_of_sums h
  · exact .nil
  · exact List.isChain_iff_pairwise.1 (isChain_le_of_sumsAfter hrest)

/-- What is read ascends unless a gap is zero. -/
theorem pairwise_lt_iff_of_sums (h : sums gs = .ok numbers) :
    numbers.Pairwise (· < ·) ↔ 0 ∉ gs.tail := by
  obtain ⟨rfl, rfl⟩ | ⟨n, gaps, rest, rfl, rfl, hrest⟩ := exists_of_sums h
  · exact iff_of_true .nil List.not_mem_nil
  · rw [← List.isChain_iff_pairwise]
    exact isChain_lt_iff_of_sumsAfter hrest

/-- A list that ascends has the gaps it was read from. -/
theorem gaps_of_sums (h : sums gs = .ok numbers) (hascending : numbers.Pairwise (· < ·)) :
    gaps numbers = .ok gs := by
  obtain ⟨rfl, rfl⟩ | ⟨n, gaps, rest, rfl, rfl, hrest⟩ := exists_of_sums h
  · rfl
  · rw [Gaps.gaps, gapsAfter_of_sumsAfter hrest (List.isChain_iff_pairwise.2 hascending)]
    rfl

/-- Each number is the sum of the gaps up to it as natural numbers: no addition runs over. -/
theorem toNat_getElem_of_sums (h : sums gs = .ok numbers) {i : Nat} (hi : i < numbers.length) :
    numbers[i].toNat = ((gs.take (i + 1)).map UInt32.toNat).sum := by
  obtain ⟨rfl, rfl⟩ | ⟨n, gaps, rest, rfl, rfl, hrest⟩ := exists_of_sums h
  · cases hi
  · cases i with
    | zero => simp
    | succ i =>
        rw [List.getElem_cons_succ, toNat_getElem_of_sumsAfter hrest, List.take_succ_cons,
          List.map_cons, List.sum_cons]

/-- Gaps whose sum runs over are malformed. -/
theorem kind_of_sums {failure : Failure} (h : sums gs = .error failure) :
    failure.kind = .parse := by
  cases gs with
  | nil => cases h
  | cons n gaps => exact kind_of_sumsAfter (map_eq_error_iff.1 h)

/-- A list that does not ascend has no stored form: its first number that does not stand above
the one before it is named. -/
theorem exists_encode_error (h : ¬ numbers.Pairwise (· < ·)) :
    ∃ front last n back, numbers = front ++ last :: n :: back ∧
      (front ++ [last]).Pairwise (· < ·) ∧ n ≤ last ∧
      encode numbers = .error (.notAscending n last) := by
  cases numbers with
  | nil => exact absurd .nil h
  | cons first rest =>
      rw [← List.isChain_iff_pairwise] at h
      obtain ⟨front, last, n, back, heq, hchain, hle, herror⟩ := exists_gapsAfter_error h
      refine ⟨front, last, n, back, heq, List.isChain_iff_pairwise.1 hchain, hle, ?_⟩
      rw [encode, gaps, herror]
      rfl

end Gaps

/-- Writers and readers are inverse. An ascending list has a stored form, the bytes of its gaps,
which is read as the list, and its numbers are the sums of the gaps as natural numbers, so that
nothing runs over; any other list is refused at the first number that does not ascend. The bytes
of a number, at most five, are read as that number in front of any others, without a bit lost, and
those of several numbers as these numbers. -/
theorem codec_inverse :
    (∀ numbers : List UInt32, numbers.Pairwise (· < ·) →
      ∃ gs, Gaps.encode numbers = .ok (Varint.encodeAll gs) ∧
        Gaps.decode (Varint.encodeAll gs) = .ok numbers ∧
        ∀ (i : Nat) (hi : i < numbers.length),
          numbers[i].toNat = ((gs.take (i + 1)).map UInt32.toNat).sum) ∧
    (∀ numbers : List UInt32, ¬ numbers.Pairwise (· < ·) →
      ∃ front last n back, numbers = front ++ last :: n :: back ∧
        (front ++ [last]).Pairwise (· < ·) ∧ n ≤ last ∧
        Gaps.encode numbers = .error (.notAscending n last) ∧
        (Failure.notAscending n last).kind = .invalidInput) ∧
    (∀ (n : UInt32) (rest : Bytes),
      Varint.decodeFrom 0 0 (Varint.encode n ++ rest) = .ok (n.toNat, rest) ∧
        Varint.decode (Varint.encode n ++ rest) = .ok (n, rest) ∧
        (Varint.encode n).length ≤ 5) ∧
    (∀ numbers : List UInt32, Varint.decodeAll (Varint.encodeAll numbers) = .ok numbers) ∧
    Function.Injective Varint.encodeAll := by
  refine ⟨fun numbers h => ?_, fun numbers h => ?_, fun n rest => ?_,
    Varint.decodeAll_encodeAll, fun as bs h => ?_⟩
  · obtain ⟨gs, hgaps, hsums⟩ := Gaps.exists_gaps h
    refine ⟨gs, ?_, ?_, fun i hi => Gaps.toNat_getElem_of_sums hsums hi⟩
    · rw [Gaps.encode, hgaps]
      rfl
    · rw [Gaps.decode, Varint.decodeAll_encodeAll]
      exact hsums
  · obtain ⟨front, last, n, back, heq, hascending, hle, herror⟩ := Gaps.exists_encode_error h
    exact ⟨front, last, n, back, heq, hascending, hle, herror, rfl⟩
  · refine ⟨?_, Varint.decode_encode_append n rest, Varint.length_encodeNat_le 4 n.toNat⟩
    have hroom : n.toNat < 16 * Nat.pow 128 4 := n.toNat_lt
    have hread := Varint.decodeFrom_encodeNat rfl hroom 0 rest
    rw [Varint.encode, hread]
    simp
  · have hread : Except.ok as = (Except.ok bs : Outcome (List UInt32)) := by
      rw [← Varint.decodeAll_encodeAll as, h, Varint.decodeAll_encodeAll]
    exact Except.ok.inj hread

/-- The highest number is reached by a gap of five bytes, and a repeated number is refused. -/
theorem codec_inverse_highest :
    [5, 4294967295].Pairwise (· < · : UInt32 → UInt32 → Prop) ∧
    ¬ [1, 3, 3].Pairwise (· < · : UInt32 → UInt32 → Prop) ∧
    (∃ gs, Gaps.encode [5, 4294967295] = .ok (Varint.encodeAll gs) ∧
      Gaps.decode (Varint.encodeAll gs) = .ok [5, 4294967295]) ∧
    ∃ n last, n ≤ last ∧ Gaps.encode [1, 3, 3] = .error (.notAscending n last) := by
  have hascending : [5, 4294967295].Pairwise (· < · : UInt32 → UInt32 → Prop) := by decide
  have hrepeated : ¬ [1, 3, 3].Pairwise (· < · : UInt32 → UInt32 → Prop) := by decide
  refine ⟨hascending, hrepeated, ?_, ?_⟩
  · obtain ⟨gs, hencode, hdecode, -⟩ := codec_inverse.1 _ hascending
    exact ⟨gs, hencode, hdecode⟩
  · obtain ⟨_, last, n, _, -, -, hle, herror, -⟩ := codec_inverse.2.1 _ hrepeated
    exact ⟨n, last, hle, herror⟩

namespace PostingList

variable {p q : PostingList} {bytes : Bytes}

/-- A list is read from spellings of its first number and its gaps. -/
theorem exists_of_decode (h : decode bytes = .ok p) :
    ∃ gs, Varint.decodeAll bytes = .ok gs ∧ Gaps.sums gs = .ok p.stubs := by
  obtain ⟨numbers, hdecode, rfl⟩ := map_eq_ok_iff.1 h
  exact bind_eq_ok_iff.1 hdecode

/-- Bytes that are read as no list are malformed. -/
theorem kind_of_decode {failure : Failure} (h : decode bytes = .error failure) :
    failure.kind = .parse := by
  rcases bind_eq_error_iff.1 (map_eq_error_iff.1 h) with hread | ⟨gs, -, hsums⟩
  · exact Varint.kind_of_decodeAll hread
  · exact Gaps.kind_of_sums hsums

/-- A list that ascends is stored as the bytes of the gaps it was read from. -/
theorem encode_of_sums {gs : List UInt32} (h : Gaps.sums gs = .ok p.stubs) (hp : p.Ascending) :
    p.encode = .ok (Varint.encodeAll gs) := by
  rw [encode, Gaps.encode, Gaps.gaps_of_sums h hp]
  rfl

/-- Only ascending lists have a stored form, and it is read as the list. -/
theorem decode_of_encode (h : q.encode = .ok bytes) : q.Ascending ∧ decode bytes = .ok q := by
  have hascending : q.Ascending := by
    by_contra hnot
    obtain ⟨front, last, n, back, -, -, -, herror⟩ := Gaps.exists_encode_error hnot
    rw [encode, herror] at h
    cases h
  obtain ⟨stored, hencode, hdecode⟩ := Gaps.exists_encode_decode hascending
  obtain rfl : bytes = stored := Except.ok.inj (h.symm.trans hencode)
  refine ⟨hascending, ?_⟩
  rw [decode, hdecode]
  rfl

/-- What byte strings are read as. A byte string either is malformed, or it is read as a list that
never falls; that list ascends unless one of the gaps read is zero. The byte string is the stored
form of the list, and of no other, if no byte but its first is zero, and otherwise it is the stored
form of no list. An ascending list that was read is stored in no more bytes, and a list that does
not ascend is refused. -/
theorem decode_stored_iff (bytes : Bytes) :
    (∃ failure, decode bytes = .error failure ∧ failure.kind = .parse) ∨
    ∃ p gs, decode bytes = .ok p ∧ Varint.decodeAll bytes = .ok gs ∧
      p.stubs.Pairwise (· ≤ ·) ∧ (p.Ascending ↔ 0 ∉ gs.tail) ∧
      (∀ q : PostingList, q.encode = .ok bytes ↔ q = p ∧ 0 ∉ bytes.tail) ∧
      (p.Ascending → ∃ stored, p.encode = .ok stored ∧ stored.length ≤ bytes.length) ∧
      (¬ p.Ascending → ∃ failure, p.encode = .error failure ∧ failure.kind = .invalidInput) := by
  cases hdecode : decode bytes with
  | error failure => exact .inl ⟨failure, rfl, kind_of_decode hdecode⟩
  | ok p =>
      right
      obtain ⟨gs, hread, hsums⟩ := exists_of_decode hdecode
      have hspells := Varint.spellsAll_of_decodeAll hread
      have hascending : p.Ascending ↔ 0 ∉ gs.tail := Gaps.pairwise_lt_iff_of_sums hsums
      refine ⟨p, gs, rfl, hread, Gaps.pairwise_le_of_sums hsums, hascending, fun q => ⟨?_, ?_⟩,
        fun hp => ⟨_, encode_of_sums hsums hp, ?_⟩, fun hp => ?_⟩
      · intro hencode
        obtain ⟨hq, hagain⟩ := decode_of_encode hencode
        obtain rfl : q = p := Except.ok.inj (hagain.symm.trans hdecode)
        have hbytes : bytes = Varint.encodeAll gs :=
          Except.ok.inj (hencode.symm.trans (encode_of_sums hsums hq))
        exact ⟨rfl, hbytes ▸ Varint.zero_not_mem_tail_encodeAll (hascending.1 hq)⟩
      · rintro ⟨rfl, hzero⟩
        have hq : q.Ascending := hascending.2 fun hgap => hzero (hspells.zero_mem_tail hgap)
        rcases hspells.eq_encodeAll_or with hwritten | ⟨hmem, -⟩
        · rw [hwritten]
          exact encode_of_sums hsums hq
        · exact absurd hmem hzero
      · rcases hspells.eq_encodeAll_or with hwritten | ⟨-, hless⟩
        · exact Nat.le_of_eq (congrArg List.length hwritten).symm
        · exact Nat.le_of_lt hless
      · obtain ⟨front, last, n, back, -, -, -, herror⟩ := Gaps.exists_encode_error hp
        exact ⟨_, herror, rfl⟩

/-- A gap of zero is read as a number that stands twice. -/
example : decode [5, 0] = .ok ⟨[5, 5]⟩ := by cbv

/-- A number may be spelled in more bytes than it takes. -/
example : decode [0x85, 0] = .ok ⟨[5]⟩ := by cbv

end PostingList

end SiteIndex.Posting
