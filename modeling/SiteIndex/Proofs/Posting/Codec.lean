import Mathlib.Tactic.Ring
import SiteIndex.Posting.List

/-!
# Stored postings read back

A strictly ascending list of numbers has a stored form, and reading that form gives the list
again: first for one number of variable length (`decode_encode_append`), then for several
(`decodeAll_encodeAll`), and with the gaps between neighbours for postings
(`exists_encode_decode`).
-/

namespace SiteIndex.Posting

namespace Varint

/-- The two parts of a number that is cut after seven bits. -/
theorem low_add_high (value n shift : Nat) :
    value + n % 128 * Nat.pow 2 shift + n / 128 * Nat.pow 2 (shift + 7)
      = value + n * Nat.pow 2 shift := by
  have hpow : Nat.pow 2 (shift + 7) = 128 * Nat.pow 2 shift := by
    change 2 ^ (shift + 7) = 128 * 2 ^ shift
    ring
  rw [hpow, ← Nat.mul_assoc, Nat.add_assoc, ← Nat.add_mul]
  congr 2
  omega

/-- A number of seven bits is a byte of its own. -/
theorem toNat_ofNat_of_lt {n : Nat} (h : n < 128) :
    (UInt8.ofNat n).toNat = n ∧ UInt8.ofNat n < 128 := by
  have hbyte : (UInt8.ofNat n).toNat = n := by
    rw [UInt8.toNat_ofNat']
    omega
  refine ⟨hbyte, ?_⟩
  rw [UInt8.lt_iff_toNat_lt, hbyte]
  exact h

/-- Reading on in a number gives the bits that are left of it, as long as they fit. -/
theorem decodeFrom_encodeNat {more n shift : Nat} (hshift : shift + 7 * more = 28)
    (hn : n < 16 * Nat.pow 128 more) (value : Nat) (rest : Bytes) :
    decodeFrom shift value (encodeNat more n ++ rest)
      = .ok (value + n * Nat.pow 2 shift, rest) := by
  -- With `more` bytes to come the shift is `28 - 7 * more`; only the last of five bytes can hold
  -- too much, and the bound on the number rules that out.
  induction more generalizing n shift value with
  | zero =>
      have hn : n < 16 := by simpa using hn
      obtain ⟨hbyte, hlast⟩ := toNat_ofNat_of_lt (show n < 128 by omega)
      have hfits : ¬ (shift = 28 ∧ 0x0F < UInt8.ofNat n) := by
        rw [UInt8.lt_iff_toNat_lt, hbyte]
        change ¬ (_ ∧ 15 < n)
        omega
      rw [encodeNat, List.singleton_append, decodeFrom, if_neg hfits]
      simp only [hlast, if_true, hbyte]
      rw [Nat.mod_eq_of_lt (by omega)]
  | succ more ih =>
      have hshift28 : ∀ p : Prop, ¬ (shift = 28 ∧ p) := by
        intro p
        omega
      by_cases h : 128 ≤ n
      · have hbyte : (UInt8.ofNat (128 + n % 128)).toNat = 128 + n % 128 := by
          rw [UInt8.toNat_ofNat']
          omega
        have hmore : ¬ UInt8.ofNat (128 + n % 128) < 128 := by
          rw [UInt8.lt_iff_toNat_lt, hbyte]
          change ¬ 128 + n % 128 < 128
          omega
        have hrest : n / 128 < 16 * Nat.pow 128 more := by
          have hpow : Nat.pow 128 (more + 1) = Nat.pow 128 more * 128 := rfl
          rw [hpow] at hn
          omega
        rw [encodeNat, if_pos h, List.cons_append, decodeFrom, if_neg (hshift28 _)]
        simp only [hmore, if_false, hbyte]
        rw [ih (by omega) hrest, show (128 + n % 128) % 128 = n % 128 by omega, low_add_high]
      · obtain ⟨hbyte, hlast⟩ := toNat_ofNat_of_lt (Nat.not_le.1 h)
        rw [encodeNat, if_neg h, List.singleton_append, decodeFrom, if_neg (hshift28 _)]
        simp only [hlast, if_true, hbyte]
        rw [Nat.mod_eq_of_lt (by omega)]

/-- Reading the bytes of a number gives the number and what comes after it. -/
theorem decode_encode_append (n : UInt32) (rest : Bytes) :
    decode (encode n ++ rest) = .ok (n, rest) := by
  have hn : n.toNat < 16 * Nat.pow 128 4 := n.toNat_lt
  rw [decode, encode, decodeFrom_encodeNat rfl hn]
  simp [Except.map]

/-- A number takes at least one byte. -/
theorem encode_ne_nil (n : UInt32) : encode n ≠ [] := by
  rw [encode, encodeNat]
  split <;> simp

/-- Reading several numbers reads the first and then the others. -/
theorem decodeAll_of_ok {n : UInt32} {bytes rest : Bytes} (h : decode bytes = .ok (n, rest)) :
    decodeAll bytes = (decodeAll rest).map (n :: ·) := by
  have hne : bytes.isEmpty = false := by
    cases bytes with
    | nil => cases h
    | cons => rfl
  rw [decodeAll, hne, if_neg Bool.false_ne_true]
  split
  case h_1 hread =>
    rw [h] at hread
    cases hread
  case h_2 hread =>
    rw [h] at hread
    cases hread
    rfl

/-- Reading the bytes of several numbers gives the numbers. -/
theorem decodeAll_encodeAll (numbers : List UInt32) :
    decodeAll (encodeAll numbers) = .ok numbers := by
  induction numbers with
  | nil => simp [encodeAll, decodeAll]
  | cons n rest ih =>
      change decodeAll (encode n ++ encodeAll rest) = _
      rw [decodeAll_of_ok (decode_encode_append n (encodeAll rest)), ih]
      rfl

end Varint

namespace Gaps

/-- The gaps of an ascending list lead back to it. -/
theorem exists_gapsAfter {previous : UInt32} {numbers : List UInt32}
    (h : (previous :: numbers).Pairwise (· < ·)) :
    ∃ gaps, gapsAfter previous numbers = .ok gaps ∧ sumsAfter previous gaps = .ok numbers := by
  induction numbers generalizing previous with
  | nil => exact ⟨[], rfl, rfl⟩
  | cons n rest ih =>
      obtain ⟨hprevious, hrest⟩ := List.pairwise_cons.1 h
      have hlt : previous < n := hprevious n (List.mem_cons_self ..)
      obtain ⟨gaps, hgaps, hsums⟩ := ih hrest
      have hle : previous ≤ n := UInt32.le_of_lt hlt
      have hadd : previous + (n - previous) = n := by
        rw [UInt32.add_comm, UInt32.sub_add_cancel]
      have hfits : previous.toNat + (n - previous).toNat < 0x100000000 := by
        have := n.toNat_lt
        rw [UInt32.toNat_sub_of_le _ _ hle]
        have := UInt32.le_iff_toNat_le.1 hle
        omega
      refine ⟨(n - previous) :: gaps, ?_, ?_⟩
      · rw [gapsAfter, if_pos hlt, hgaps]
        rfl
      · rw [sumsAfter, if_pos hfits, hadd, hsums]
        rfl

/-- The first number and the gaps of an ascending list lead back to it. -/
theorem exists_gaps {numbers : List UInt32} (h : numbers.Pairwise (· < ·)) :
    ∃ gs, gaps numbers = .ok gs ∧ sums gs = .ok numbers := by
  cases numbers with
  | nil => exact ⟨[], rfl, rfl⟩
  | cons n rest =>
      obtain ⟨gs, hgaps, hsums⟩ := exists_gapsAfter h
      refine ⟨n :: gs, ?_, ?_⟩
      · rw [gaps, hgaps]
        rfl
      · rw [sums, hsums]
        rfl

/-- An ascending list has a stored form, which is read as that list. -/
theorem exists_encode_decode {numbers : List UInt32} (h : numbers.Pairwise (· < ·)) :
    ∃ bytes, encode numbers = .ok bytes ∧ decode bytes = .ok numbers := by
  obtain ⟨gs, hgaps, hsums⟩ := exists_gaps h
  refine ⟨Varint.encodeAll gs, ?_, ?_⟩
  · rw [encode, hgaps]
    rfl
  · rw [decode, Varint.decodeAll_encodeAll]
    exact hsums

end Gaps

end SiteIndex.Posting
