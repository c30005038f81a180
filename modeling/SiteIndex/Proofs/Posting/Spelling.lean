import SiteIndex.Proofs.Outcome
import SiteIndex.Proofs.Posting.Codec

/-!
# How numbers may be spelled

The reader of numbers takes more byte strings than the writer makes: a number may be followed by
seven-bit groups that are zero. `Spells` says which byte strings are read as a number. Each of
them is the written one, or it is longer and has a byte zero after its first
(`Spells.eq_encodeNat_or`), and the same holds of the spellings of several numbers
(`SpellsAll.eq_encodeAll_or`).
-/

namespace SiteIndex.Posting.Varint

/-- The bytes stand for the number, with at most `more` bytes after the first: all but the last
have their high bit set, and a fifth byte holds four bits. -/
inductive Spells : Nat → Nat → Bytes → Prop where
  | last {more : Nat} {b : UInt8} (hlow : b < 128) (hroom : more = 0 → b.toNat < 16) :
      Spells more b.toNat [b]
  | more {more n : Nat} {b : UInt8} {bytes : Bytes} (hhigh : ¬ b < 128)
      (hrest : Spells more n bytes) : Spells (more + 1) (b.toNat % 128 + 128 * n) (b :: bytes)

variable {more n : Nat} {spelled : Bytes}

/-- A spelling has a byte. -/
theorem Spells.ne_nil (h : Spells more n spelled) : spelled ≠ [] := by
  cases h <;> exact List.cons_ne_nil _ _

/-- A number that is spelled has no more bits than the bytes hold. -/
theorem Spells.lt (h : Spells more n spelled) : n < 16 * Nat.pow 128 more := by
  induction h with
  | @last more b hlow hroom =>
      cases more with
      | zero => simpa using hroom rfl
      | succ more =>
          have hpos : 0 < Nat.pow 128 more := Nat.pow_pos (by decide)
          have hb : b.toNat < 128 := UInt8.lt_iff_toNat_lt.1 hlow
          change b.toNat < 16 * (Nat.pow 128 more * 128)
          omega
  | @more more n b bytes _ _ ih =>
      change _ < 16 * (Nat.pow 128 more * 128)
      omega

/-- What is read as a number is a spelling of it. -/
theorem exists_spells_of_decodeFrom {more shift value n : Nat} {bytes rest : Bytes}
    (hshift : shift + 7 * more = 28) (h : decodeFrom shift value bytes = .ok (n, rest)) :
    ∃ m spelled, Spells more m spelled ∧ bytes = spelled ++ rest ∧
      n = value + m * Nat.pow 2 shift := by
  induction bytes generalizing more shift value with
  | nil => simp [decodeFrom] at h
  | cons b tail ih =>
      rw [decodeFrom] at h
      split at h
      case isTrue => cases h
      case isFalse hfits =>
        have hfifth : shift = 28 → b.toNat < 16 := by
          intro h28
          have hle : ¬ 0x0F < b := fun hlt => hfits ⟨h28, hlt⟩
          rw [UInt8.lt_iff_toNat_lt] at hle
          exact Nat.lt_succ_of_le (Nat.not_lt.1 hle)
        dsimp only at h
        split at h
        case isTrue hlow =>
          cases h
          have hb : b.toNat < 128 := UInt8.lt_iff_toNat_lt.1 hlow
          refine ⟨b.toNat, [b], .last hlow fun hmore => hfifth (by omega), rfl, ?_⟩
          rw [Nat.mod_eq_of_lt hb]
        case isFalse hhigh =>
          -- A byte with its high bit set is no fifth byte, so that there is room for another.
          have hb : ¬ b.toNat < 128 := fun hlt => hhigh (UInt8.lt_iff_toNat_lt.2 hlt)
          obtain ⟨more, rfl⟩ : ∃ k, more = k + 1 := ⟨more - 1, by omega⟩
          have hrest : shift + 7 + 7 * more = 28 := by omega
          obtain ⟨m, spelled, hspells, rfl, hn⟩ := ih hrest h
          refine ⟨_, b :: spelled, .more hhigh hspells, rfl, ?_⟩
          have hpow : Nat.pow 2 (shift + 7) = 128 * Nat.pow 2 shift := by
            change 2 ^ (shift + 7) = 128 * 2 ^ shift
            ring
          rw [hn, hpow]
          ring

/-- A spelling is the written one, or it is longer and a byte after its first is zero. -/
theorem Spells.eq_encodeNat_or (h : Spells more n spelled) :
    spelled = encodeNat more n ∨
      0 ∈ spelled.tail ∧ (encodeNat more n).length < spelled.length := by
  induction h with
  | @last more b hlow =>
      left
      have hb : b.toNat < 128 := UInt8.lt_iff_toNat_lt.1 hlow
      cases more with
      | zero => rw [encodeNat, UInt8.ofNat_toNat]
      | succ more => rw [encodeNat, if_neg (by omega), UInt8.ofNat_toNat]
  | @more more n b bytes hhigh hrest ih =>
      have hb : 128 ≤ b.toNat := Nat.not_lt.1 fun hlt => hhigh (UInt8.lt_iff_toNat_lt.2 hlt)
      have hb256 : b.toNat < 256 := b.toNat_lt
      rcases Nat.eq_zero_or_pos n with rfl | hpos
      · -- The bytes that follow spell zero, and one of them is zero.
        right
        have hzero : encodeNat more 0 = [0] := by cases more <;> rfl
        have hmem : 0 ∈ bytes := by
          rcases ih with rfl | ⟨hmem, -⟩
          · simp [hzero]
          · exact List.mem_of_mem_tail hmem
        refine ⟨hmem, ?_⟩
        rw [encodeNat, if_neg (by omega)]
        simpa using List.length_pos_of_mem hmem
      · have hwritten : encodeNat (more + 1) (b.toNat % 128 + 128 * n) = b :: encodeNat more n := by
          rw [encodeNat, if_pos (by omega),
            show (b.toNat % 128 + 128 * n) / 128 = n by omega,
            show 128 + (b.toNat % 128 + 128 * n) % 128 = b.toNat by omega, UInt8.ofNat_toNat]
        rw [hwritten]
        rcases ih with rfl | ⟨hmem, hlength⟩
        · exact .inl rfl
        · refine .inr ⟨List.mem_of_mem_tail hmem, ?_⟩
          simpa using hlength

/-- A spelling of zero has a byte zero. -/
theorem Spells.zero_mem (h : Spells more 0 spelled) : 0 ∈ spelled := by
  have hzero : encodeNat more 0 = [0] := by cases more <;> rfl
  rcases h.eq_encodeNat_or with rfl | ⟨hmem, -⟩
  · simp [hzero]
  · exact List.mem_of_mem_tail hmem

/-- The bytes stand for the numbers, one after the other. -/
inductive SpellsAll : List UInt32 → Bytes → Prop where
  | nil : SpellsAll [] []
  | cons {n : UInt32} {numbers : List UInt32} {spelled rest : Bytes}
      (hspells : Spells 4 n.toNat spelled) (hrest : SpellsAll numbers rest) :
      SpellsAll (n :: numbers) (spelled ++ rest)

/-- A number that is read is spelled in front, and the bits read are the number. -/
theorem exists_spells_of_decode {n : UInt32} {bytes rest : Bytes}
    (h : decode bytes = .ok (n, rest)) :
    ∃ spelled, Spells 4 n.toNat spelled ∧ bytes = spelled ++ rest := by
  obtain ⟨⟨m, left⟩, hread, heq⟩ := map_eq_ok_iff.1 h
  cases heq
  have hshift : 0 + 7 * 4 = 28 := rfl
  obtain ⟨k, spelled, hspells, rfl, hm⟩ := exists_spells_of_decodeFrom hshift hread
  obtain rfl : m = k := by simpa using hm
  have hlt : m < 2 ^ 32 := hspells.lt
  exact ⟨spelled, by rwa [UInt32.toNat_ofNat_of_lt' hlt], rfl⟩

/-- Reading several numbers fails where the first cannot be read. -/
theorem decodeAll_of_error {bytes : Bytes} {failure : Failure} (hne : ¬ bytes.isEmpty = true)
    (h : decode bytes = .error failure) : decodeAll bytes = .error failure := by
  rw [decodeAll, if_neg hne]
  split
  case h_1 hread =>
    rw [h] at hread
    cases hread
    rfl
  case h_2 hread =>
    rw [h] at hread
    cases hread

/-- What is read as several numbers is a spelling of each after the other. -/
theorem spellsAll_of_decodeAll {numbers : List UInt32} {bytes : Bytes}
    (h : decodeAll bytes = .ok numbers) : SpellsAll numbers bytes := by
  induction bytes using decodeAll.induct generalizing numbers with
  | case1 bytes hnil =>
      obtain rfl := List.isEmpty_iff.1 hnil
      rw [decodeAll, if_pos hnil] at h
      cases h
      exact .nil
  | case2 bytes hne failure hread =>
      rw [decodeAll_of_error hne hread] at h
      cases h
  | case3 bytes hne n rest hread ih =>
      rw [decodeAll_of_ok hread] at h
      obtain ⟨others, hrest, rfl⟩ := map_eq_ok_iff.1 h
      obtain ⟨spelled, hspells, rfl⟩ := exists_spells_of_decode hread
      exact .cons hspells (ih hrest)

section SeveralNumbers

variable {numbers : List UInt32} {bytes : Bytes}

/-- A spelling of several numbers is the written one, or it is longer and a byte after its first
is zero. -/
theorem SpellsAll.eq_encodeAll_or (h : SpellsAll numbers bytes) :
    bytes = encodeAll numbers ∨
      0 ∈ bytes.tail ∧ (encodeAll numbers).length < bytes.length := by
  induction h with
  | nil => exact .inl rfl
  | @cons n numbers spelled rest hspells _ ih =>
      have hlength : (encodeAll (n :: numbers)).length =
          (encode n).length + (encodeAll numbers).length := List.length_append
      rw [hlength, List.length_append, List.tail_append_of_ne_nil hspells.ne_nil]
      rcases hspells.eq_encodeNat_or with rfl | ⟨hmem, hless⟩
      · rcases ih with rfl | ⟨hmem, hless⟩
        · exact .inl rfl
        · exact .inr ⟨List.mem_append_right _ (List.mem_of_mem_tail hmem),
            Nat.add_lt_add_left hless _⟩
      · have hless : (encode n).length < spelled.length := hless
        have hle : (encodeAll numbers).length ≤ rest.length := by
          rcases ih with rfl | ⟨-, hless⟩
          · exact Nat.le_refl _
          · exact Nat.le_of_lt hless
        exact .inr ⟨List.mem_append_left _ hmem, by omega⟩

/-- A zero among the numbers is spelled with a byte zero. -/
theorem SpellsAll.zero_mem (h : SpellsAll numbers bytes) (hzero : 0 ∈ numbers) : 0 ∈ bytes := by
  induction h with
  | nil => cases hzero
  | @cons n numbers spelled rest hspells _ ih =>
      rcases List.mem_cons.1 hzero with rfl | hzero
      · exact List.mem_append_left _ hspells.zero_mem
      · exact List.mem_append_right _ (ih hzero)

/-- A zero among the numbers after the first is spelled with a byte zero after the first. -/
theorem SpellsAll.zero_mem_tail (h : SpellsAll numbers bytes) (hzero : 0 ∈ numbers.tail) :
    0 ∈ bytes.tail := by
  cases h with
  | nil => cases hzero
  | cons hspells hrest =>
      rw [List.tail_append_of_ne_nil hspells.ne_nil]
      exact List.mem_append_right _ (hrest.zero_mem hzero)

end SeveralNumbers

/-! ## The written form -/

/-- Only zero is written with a byte zero, and that byte is the first. -/
theorem zero_mem_encodeNat {more n : Nat} (hn : n < 16 * Nat.pow 128 more) :
    0 ∉ (encodeNat more n).tail ∧ (0 ∈ encodeNat more n → n = 0) := by
  have hbyte : ∀ k : Nat, k < 256 → 0 = UInt8.ofNat k → k = 0 := by
    intro k hk h
    have hk' : (UInt8.ofNat k).toNat = k := UInt8.toNat_ofNat_of_lt' hk
    rw [← hk', ← h]
    rfl
  induction more generalizing n with
  | zero =>
      have hn : n < 16 := by simpa using hn
      exact ⟨List.not_mem_nil, fun h => hbyte n (by omega) (List.mem_singleton.1 h)⟩
  | succ more ih =>
      rw [encodeNat]
      split
      case isTrue hlarge =>
        have hrest : n / 128 < 16 * Nat.pow 128 more := by
          have hpow : Nat.pow 128 (more + 1) = Nat.pow 128 more * 128 := rfl
          rw [hpow] at hn
          omega
        -- What is left of the number is not zero, since the number has more than seven bits.
        have hnone : 0 ∉ encodeNat more (n / 128) := by
          intro hmem
          have := (ih hrest).2 hmem
          omega
        refine ⟨hnone, fun hmem => ?_⟩
        rcases List.mem_cons.1 hmem with hfirst | hmem
        · have := hbyte _ (by omega) hfirst
          omega
        · exact absurd hmem hnone
      case isFalse hsmall =>
        exact ⟨List.not_mem_nil, fun h => hbyte n (by omega) (List.mem_singleton.1 h)⟩

/-- The written form of numbers of which none but the first is zero has no byte zero but the
first. -/
theorem zero_not_mem_tail_encodeAll {numbers : List UInt32} (h : 0 ∉ numbers.tail) :
    0 ∉ (encodeAll numbers).tail := by
  have hone : ∀ n : UInt32, 0 ∉ (encode n).tail ∧ (0 ∈ encode n → n = 0) := by
    intro n
    have hroom : n.toNat < 16 * Nat.pow 128 4 := n.toNat_lt
    have hwritten := zero_mem_encodeNat hroom
    exact ⟨hwritten.1, fun hmem => UInt32.toNat_inj.1 (hwritten.2 hmem)⟩
  cases numbers with
  | nil => exact List.not_mem_nil
  | cons n rest =>
      change 0 ∉ (encode n ++ encodeAll rest).tail
      rw [List.tail_append_of_ne_nil (encode_ne_nil n), List.mem_append, not_or]
      refine ⟨(hone n).1, fun hmem => ?_⟩
      obtain ⟨m, hm, hmem⟩ := List.mem_flatMap.1 hmem
      exact h ((hone m).2 hmem ▸ hm)

/-- A number takes at most one byte more than there may be after the first. -/
theorem length_encodeNat_le (more n : Nat) : (encodeNat more n).length ≤ more + 1 := by
  induction more generalizing n with
  | zero => exact Nat.le_refl 1
  | succ more ih =>
      rw [encodeNat]
      split
      case isTrue => exact Nat.succ_le_succ (ih _)
      case isFalse => exact Nat.succ_le_succ (Nat.zero_le _)

/-! ## What cannot be read -/

/-- Bytes that are not read as a number are malformed. -/
theorem kind_of_decodeFrom {shift value : Nat} {bytes : Bytes} {failure : Failure}
    (h : decodeFrom shift value bytes = .error failure) : failure.kind = .parse := by
  induction bytes generalizing shift value with
  | nil =>
      cases h
      rfl
  | cons b rest ih =>
      rw [decodeFrom] at h
      split at h
      case isTrue =>
        cases h
        rfl
      case isFalse =>
        dsimp only at h
        split at h
        case isTrue => cases h
        case isFalse => exact ih h

/-- Bytes that are not read as several numbers are malformed. -/
theorem kind_of_decodeAll {bytes : Bytes} {failure : Failure}
    (h : decodeAll bytes = .error failure) : failure.kind = .parse := by
  induction bytes using decodeAll.induct generalizing failure with
  | case1 bytes hnil =>
      rw [decodeAll, if_pos hnil] at h
      cases h
  | case2 bytes hne cause hread =>
      rw [decodeAll_of_error hne hread] at h
      cases h
      exact kind_of_decodeFrom (map_eq_error_iff.1 hread)
  | case3 bytes hne n rest hread ih =>
      rw [decodeAll_of_ok hread] at h
      exact ih (map_eq_error_iff.1 h)

end SiteIndex.Posting.Varint
