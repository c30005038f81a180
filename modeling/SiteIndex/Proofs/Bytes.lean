import Mathlib.Tactic.Ring
import SiteIndex.Store.Key

/-!
# Order, prefixes and fixed-width numbers

What the order of byte strings says about prefixes and about numbers that are written most
significant byte first. The main statements are `isPrefixOf_iff_between`, by which the keys
that start with a prefix are those from the prefix up to its upper bound, and
`before_bigEndian_iff`, by which numbers of one width stand in the order of their values.
-/

namespace SiteIndex.Bytes

open Store (Key.upperBound Key.raise)

/-- Of two byte strings at most one stands before the other. -/
theorem Before.asymm {a b : Bytes} (h : Before a b) : ¬ Before b a := fun h' =>
  Before.irrefl a (h.trans h')

/-- Nothing stands before the empty byte string. -/
@[simp] theorem not_before_nil (a : Bytes) : ¬ Before a [] := by
  cases a <;> simp [Before, compareTo]

/-- The empty byte string stands before every other. -/
@[simp] theorem nil_before_cons (b : UInt8) (bs : Bytes) : Before [] (b :: bs) := rfl

/-- A common front does not count. -/
@[simp] theorem before_append_iff (front a b : Bytes) :
    Before (front ++ a) (front ++ b) ↔ Before a b := by
  induction front with
  | nil => rfl
  | cons x front ih => simp [before_cons_iff, ih]

/-- Byte strings of one length are decided by their fronts or else by their last bytes. -/
theorem before_concat_iff {a b : Bytes} (hlen : a.length = b.length) (x y : UInt8) :
    Before (a ++ [x]) (b ++ [y]) ↔ Before a b ∨ a = b ∧ x < y := by
  induction a generalizing b with
  | nil =>
      obtain rfl := List.eq_nil_of_length_eq_zero hlen.symm
      simp [before_cons_iff]
  | cons c a ih =>
      cases b with
      | nil => simp at hlen
      | cons d b =>
          have hrest : a.length = b.length := by simpa using hlen
          simp only [List.cons_append, before_cons_iff, ih hrest, List.cons.injEq]
          grind

/-! ## Numbers of fixed width -/

/-- A number takes as many bytes as it is given. -/
@[simp] theorem length_littleEndian (count n : Nat) : (littleEndian count n).length = count := by
  induction count generalizing n with
  | zero => rfl
  | succ count ih => simp [littleEndian, ih]

/-- A number takes as many bytes as it is given. -/
@[simp] theorem length_bigEndian (count n : Nat) : (bigEndian count n).length = count := by
  simp [bigEndian]

/-- The bytes of a number give it back up to their width. -/
theorem littleEndianValue_littleEndian (count n : Nat) :
    littleEndianValue (littleEndian count n) = n % 256 ^ count := by
  induction count generalizing n with
  | zero => simp [littleEndian, littleEndianValue, Nat.mod_one]
  | succ count ih =>
      have hbyte : (UInt8.ofNat n).toNat = n % 256 := rfl
      rw [littleEndian, littleEndianValue, ih, hbyte, Nat.pow_succ,
        Nat.mul_comm (256 ^ count) 256, Nat.mod_mul]

/-- A number that fits its width is given back by its bytes. -/
theorem littleEndianValue_of_lt {count n : Nat} (h : n < 256 ^ count) :
    littleEndianValue (littleEndian count n) = n := by
  rw [littleEndianValue_littleEndian, Nat.mod_eq_of_lt h]

/-- A number that fits its width is given back by its bytes. -/
theorem bigEndianValue_of_lt {count n : Nat} (h : n < 256 ^ count) :
    bigEndianValue (bigEndian count n) = n := by
  rw [bigEndianValue, bigEndian, List.reverse_reverse, littleEndianValue_of_lt h]

/-- The last byte is the least significant one. -/
theorem bigEndian_succ (count n : Nat) :
    bigEndian (count + 1) n = bigEndian count (n / 256) ++ [.ofNat n] := by
  simp [bigEndian, littleEndian]

/-- Numbers of one width stand in the order of their values. -/
theorem before_bigEndian_iff {count a b : Nat} (ha : a < 256 ^ count) (hb : b < 256 ^ count) :
    Before (bigEndian count a) (bigEndian count b) ↔ a < b := by
  induction count generalizing a b with
  | zero => simp [bigEndian, littleEndian]; omega
  | succ count ih =>
      rw [Nat.pow_succ] at ha hb
      have ha' : a / 256 < 256 ^ count := by omega
      have hb' : b / 256 < 256 ^ count := by omega
      have hinj : bigEndian count (a / 256) = bigEndian count (b / 256) ↔ a / 256 = b / 256 := by
        refine ⟨fun h => ?_, fun h => by rw [h]⟩
        rw [← bigEndianValue_of_lt ha', ← bigEndianValue_of_lt hb', h]
      rw [bigEndian_succ, bigEndian_succ, before_concat_iff (by simp), ih ha' hb', hinj,
        UInt8.lt_iff_toNat_lt, UInt8.toNat_ofNat', UInt8.toNat_ofNat']
      omega

/-- A number of four bytes is given back by its bytes. -/
theorem bigEndian_four_injective {n k : UInt32}
    (h : bigEndian 4 n.toNat = bigEndian 4 k.toNat) : n = k := by
  rw [← UInt32.toNat_inj, ← @bigEndianValue_of_lt 4 _ n.toNat_lt,
    ← @bigEndianValue_of_lt 4 _ k.toNat_lt, h]

/-- Bytes are those of the number that they make up. -/
theorem littleEndian_littleEndianValue (bytes : Bytes) :
    littleEndian bytes.length (littleEndianValue bytes) = bytes := by
  induction bytes with
  | nil => rfl
  | cons b bs ih =>
      have hb := b.toNat_lt
      have hrest : (b.toNat + 256 * littleEndianValue bs) / 256 = littleEndianValue bs := by omega
      have hbyte : UInt8.ofNat (b.toNat + 256 * littleEndianValue bs) = b := by
        rw [← UInt8.toNat_inj, UInt8.toNat_ofNat']
        omega
      rw [littleEndianValue, List.length_cons, littleEndian, hbyte, hrest, ih]

/-- Bytes make up a number of their width. -/
theorem littleEndianValue_lt (bytes : Bytes) : littleEndianValue bytes < 256 ^ bytes.length := by
  have h := littleEndianValue_littleEndian bytes.length (littleEndianValue bytes)
  rw [littleEndian_littleEndianValue] at h
  rw [h]
  exact Nat.mod_lt _ (Nat.pow_pos (by decide))

/-- Four bytes are those of a number. -/
theorem bigEndian_bigEndianValue {bytes : Bytes} (h : bytes.length = 4) :
    bigEndian 4 (UInt32.ofNat (bigEndianValue bytes)).toNat = bytes := by
  have hlength : bytes.reverse.length = 4 := by rw [List.length_reverse, h]
  have hlt := littleEndianValue_lt bytes.reverse
  rw [hlength] at hlt
  have hvalue : (UInt32.ofNat (bigEndianValue bytes)).toNat = littleEndianValue bytes.reverse :=
    UInt32.toNat_ofNat_of_lt' hlt
  rw [hvalue, bigEndian, ← hlength, littleEndian_littleEndianValue, List.reverse_reverse]

/-! ## Prefixes -/

/-- What stands before the first zero byte and what comes after it. -/
theorem append_zero_inj {a b r s : Bytes} (ha : 0 ∉ a) (hb : 0 ∉ b)
    (h : a ++ 0 :: r = b ++ 0 :: s) : a = b ∧ r = s := by
  induction a generalizing b with
  | nil =>
      cases b with
      | nil => exact ⟨rfl, (List.cons.inj h).2⟩
      | cons y b =>
          have hy : (0 : UInt8) = y := (List.cons.inj h).1
          exact absurd (hy ▸ List.mem_cons_self ..) hb
  | cons x a ih =>
      cases b with
      | nil =>
          have hx : x = 0 := (List.cons.inj h).1
          exact absurd (hx ▸ List.mem_cons_self ..) ha
      | cons y b =>
          obtain ⟨rfl, hrest⟩ := List.cons.inj h
          obtain ⟨rfl, hrs⟩ := ih (fun hmem => ha (List.mem_cons_of_mem _ hmem))
            (fun hmem => hb (List.mem_cons_of_mem _ hmem)) hrest
          exact ⟨rfl, hrs⟩

/-- Of the bytes in front of the one that is raised only the value of the first counts. -/
theorem raise_concat (bytes : Bytes) (b : UInt8) :
    Key.raise (bytes ++ [b]) =
      match Key.raise bytes with
      | some raised => some (raised ++ [b])
      | none => if b < 0xFF then some [b + 1] else none := by
  induction bytes with
  | nil => by_cases h : b < 0xFF <;> simp [Key.raise, h]
  | cons c bytes ih =>
      by_cases h : c < 0xFF
      · simp [Key.raise, h]
      · simp [Key.raise, h, ih]

/-- The upper bound keeps a first byte as long as a later one can be raised. -/
theorem upperBound_cons (b : UInt8) (rest : Bytes) :
    Key.upperBound (b :: rest) =
      match Key.upperBound rest with
      | some upper => some (b :: upper)
      | none => if b < 0xFF then some [b + 1] else none := by
  rw [Key.upperBound, List.reverse_cons, raise_concat, Key.upperBound]
  cases Key.raise rest.reverse with
  | some raised => simp
  | none => by_cases h : b < 0xFF <;> simp [h]

/-- Below the byte after another one stand that one and those below it. -/
theorem lt_add_one_iff {b c : UInt8} (h : b < 0xFF) : c < b + 1 ↔ c ≤ b := by
  rw [UInt8.lt_iff_toNat_lt] at h
  have hb : b.toNat < 255 := h
  have hone : (1 : UInt8).toNat = 1 := rfl
  rw [UInt8.lt_iff_toNat_lt, UInt8.le_iff_toNat_le, UInt8.toNat_add, hone]
  omega

/-- No byte stands above the last one. -/
theorem not_lt_of_not_lt_top {b : UInt8} (h : ¬ b < 0xFF) (c : UInt8) : ¬ b < c := by
  rw [UInt8.lt_iff_toNat_lt] at h ⊢
  have hb : ¬ b.toNat < 255 := h
  have := c.toNat_lt
  omega

/-- The byte strings that start with a prefix are those from the prefix up to its upper
bound; without an upper bound they are all from the prefix on. -/
theorem isPrefixOf_iff_between (front key : Bytes) :
    front.isPrefixOf key = true ↔
      ¬ Before key front ∧ ∀ upper, Key.upperBound front = some upper → Before key upper := by
  induction front generalizing key with
  | nil => simp [Key.upperBound, Key.raise]
  | cons b front ih =>
      cases key with
      | nil => simp
      | cons c key =>
          have ih := ih key
          have hbound : c < b + 1 ∧ b < 0xFF → c ≤ b := fun h => (lt_add_one_iff h.2).1 h.1
          have hstep : b < 0xFF → b < b + 1 := fun h => (lt_add_one_iff h).2 (UInt8.le_refl b)
          have htop : ¬ b < 0xFF → ¬ b < c := fun h => not_lt_of_not_lt_top h c
          -- The bound raises a later byte if one can be raised, and else this one if it can be.
          rw [List.isPrefixOf_cons_cons, Bool.and_eq_true, beq_iff_eq, ih, before_cons_iff,
            upperBound_cons]
          cases hu : Key.upperBound front with
          | some upper =>
              simp only [Option.some.injEq, forall_eq', before_cons_iff]
              grind
          | none =>
              by_cases hb : b < 0xFF
              · simp only [hb, if_true, Option.some.injEq, forall_eq', before_cons_iff,
                  not_before_nil, and_false, or_false, reduceCtorEq, false_imp_iff, implies_true]
                grind
              · simp only [hb, if_false, reduceCtorEq, false_imp_iff, implies_true, and_true]
                grind

/-- Whatever stands between a prefix and a byte string that starts with it starts with it. -/
theorem isPrefixOf_of_between {front key other : Bytes} (hfront : ¬ Before key front)
    (hother : front.isPrefixOf other = true) (h : Before key other) :
    front.isPrefixOf key = true := by
  rw [isPrefixOf_iff_between] at hother ⊢
  exact ⟨hfront, fun upper hu => h.trans (hother.2 upper hu)⟩

end SiteIndex.Bytes
