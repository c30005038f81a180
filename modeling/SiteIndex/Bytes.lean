/-!
# Byte strings

Keys, stored values and file contents are lists of bytes. The module gives their order,
their hexadecimal text, the fixed-width numbers of the storage formats, and prefixes.
-/

namespace SiteIndex

/-- A string of bytes. -/
abbrev Bytes := List UInt8

namespace Bytes

/-- Lexicographic order. -/
def compareTo : Bytes → Bytes → Ordering
  | [], [] => .eq
  | [], _ :: _ => .lt
  | _ :: _, [] => .gt
  | a :: as, b :: bs => (compare a.toNat b.toNat).then (compareTo as bs)

/-- `a` stands before `b`. -/
def Before (a b : Bytes) : Prop := compareTo a b = .lt

instance (a b : Bytes) : Decidable (Before a b) := inferInstanceAs (Decidable (_ = _))

/-- Only equal byte strings compare as equal. -/
theorem compareTo_eq_iff {a b : Bytes} : compareTo a b = .eq ↔ a = b := by
  induction a generalizing b with
  | nil => cases b <;> simp [compareTo]
  | cons x as ih =>
    cases b with
    | nil => simp [compareTo]
    | cons y bs =>
      simp only [compareTo, Ordering.then_eq_eq, Nat.compare_eq_eq, ih, List.cons.injEq,
        UInt8.toNat_inj]

/-- The first byte decides the order, and then the rest. -/
theorem before_cons_iff {x y : UInt8} {as bs : Bytes} :
    Before (x :: as) (y :: bs) ↔ x < y ∨ x = y ∧ Before as bs := by
  simp only [Before, compareTo, Ordering.then_eq_lt, Nat.compare_eq_lt, Nat.compare_eq_eq,
    UInt8.toNat_inj, UInt8.lt_iff_toNat_lt]

/-- Exchanging the sides exchanges the answers. -/
theorem compareTo_eq_gt_iff {a b : Bytes} : compareTo a b = .gt ↔ Before b a := by
  induction a generalizing b with
  | nil => cases b <;> simp [compareTo, Before]
  | cons x as ih =>
    cases b with
    | nil => simp [compareTo, Before]
    | cons y bs =>
      rw [before_cons_iff]
      simp only [compareTo, Ordering.then_eq_gt, Nat.compare_eq_gt, Nat.compare_eq_eq, ih,
        UInt8.toNat_inj, UInt8.lt_iff_toNat_lt]
      exact or_congr Iff.rfl (and_congr eq_comm Iff.rfl)

/-- The order is transitive. -/
theorem Before.trans {a b c : Bytes} (hab : Before a b) (hbc : Before b c) : Before a c := by
  induction a generalizing b c with
  | nil =>
    cases c with
    | nil => cases b <;> simp [Before, compareTo] at *
    | cons => rfl
  | cons x as ih =>
    cases b with
    | nil => simp [Before, compareTo] at hab
    | cons y bs =>
      cases c with
      | nil => simp [Before, compareTo] at hbc
      | cons z cs =>
        rw [before_cons_iff] at *
        rcases hab with h | ⟨rfl, h⟩ <;> rcases hbc with h' | ⟨rfl, h'⟩
        · exact .inl (UInt8.lt_trans h h')
        · exact .inl h
        · exact .inl h'
        · exact .inr ⟨rfl, ih h h'⟩

/-- No byte string stands before itself. -/
theorem Before.irrefl (a : Bytes) : ¬ Before a a := by
  have : compareTo a a = .eq := compareTo_eq_iff.2 rfl
  simp [Before, this]

/-- `front` starts `bytes`. -/
def startsWith (front bytes : Bytes) : Bool := front.isPrefixOf bytes

/-- The two lower case hexadecimal digits of a byte. -/
def hexByte (b : UInt8) : List Char :=
  [Nat.digitChar (b.toNat / 16), Nat.digitChar (b.toNat % 16)]

/-- Lower case hexadecimal text. -/
def hex (bytes : Bytes) : String := .ofList (bytes.flatMap hexByte)

/-- The value of a hexadecimal digit. -/
def hexDigit? (c : Char) : Option Nat :=
  if '0' ≤ c ∧ c ≤ '9' then some (c.toNat - '0'.toNat)
  else if 'a' ≤ c ∧ c ≤ 'f' then some (c.toNat - 'a'.toNat + 10)
  else if 'A' ≤ c ∧ c ≤ 'F' then some (c.toNat - 'A'.toNat + 10)
  else none

/-- The bytes that pairs of hexadecimal digits denote. -/
def ofHexChars? : List Char → Option Bytes
  | [] => some []
  | [_] => none
  | a :: b :: rest => do
    let high ← hexDigit? a
    let low ← hexDigit? b
    return .ofNat (16 * high + low) :: (← ofHexChars? rest)

/-- The bytes that a hexadecimal text denotes. -/
def ofHex? (text : String) : Option Bytes := ofHexChars? text.toList

/-- The lowest `count` bytes of a number, least significant first. -/
def littleEndian : Nat → Nat → Bytes
  | 0, _ => []
  | count + 1, n => .ofNat n :: littleEndian count (n / 256)

/-- The lowest `count` bytes of a number, most significant first. -/
def bigEndian (count n : Nat) : Bytes := (littleEndian count n).reverse

/-- The number whose bytes are given, least significant first. -/
def littleEndianValue : Bytes → Nat
  | [] => 0
  | b :: bs => b.toNat + 256 * littleEndianValue bs

/-- The number whose bytes are given, most significant first. -/
def bigEndianValue (bytes : Bytes) : Nat := littleEndianValue bytes.reverse

end Bytes

end SiteIndex
