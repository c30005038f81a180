import Mathlib.Tactic.Ring
import SiteIndex.Text.Utf8

/-!
# UTF-8 reads back

Writing a text as bytes loses nothing: `decode?_encode` and `decodeLossy_encode` read the text
back, so that different texts have different bytes (`encode_injective`). A text without NUL has
no zero byte (`zero_mem_encode_iff`).
-/

namespace SiteIndex.Text.Utf8

/-- The number of a byte that is made of a small number. -/
theorem toNat_ofNat_of_lt {n : Nat} (h : n < 256) : (UInt8.ofNat n).toNat = n := by
  rw [UInt8.toNat_ofNat', Nat.mod_eq_of_lt h]

/-- A character below 128 is one byte. -/
theorem decodeChar_one {n : Nat} (h : n < 0x80) (rest : Bytes) :
    decodeChar (.ofNat n) rest = (some (.ofNat n), rest) := by
  have hb : (UInt8.ofNat n).toNat = n := toNat_ofNat_of_lt (by omega)
  have hlt : UInt8.ofNat n < 0x80 := by
    rw [UInt8.lt_iff_toNat_lt, hb]
    exact h
  rw [decodeChar.eq_def, if_pos hlt, hb]

/-- A character below 2^11 is two bytes. -/
theorem decodeChar_two {n : Nat} (h : 0x80 ≤ n) (h' : n < 0x800)
    (rest : Bytes) :
    decodeChar (.ofNat (n / 64 % 0x20 + 0xc0))
      (.ofNat (n % 0x40 + 0x80) :: rest) = (some (.ofNat n), rest) := by
  have h1 := toNat_ofNat_of_lt (n := n / 64 % 0x20 + 0xc0) (by omega)
  have h2 := toNat_ofNat_of_lt (n := n % 0x40 + 0x80) (by omega)
  generalize UInt8.ofNat (n / 64 % 0x20 + 0xc0) = first at h1 ⊢
  generalize UInt8.ofNat (n % 0x40 + 0x80) = second at h2 ⊢
  have hlow : ¬ first < 0x80 := by simp [UInt8.lt_iff_toNat_lt, h1]
  have htwo : (0xC2 ≤ first && first ≤ 0xDF) = true := by
    simp [UInt8.le_iff_toNat_le, h1]
    omega
  have htail : isTail second = true := by
    simp [isTail, UInt8.le_iff_toNat_le, h2]
    omega
  have hcode : extend (first.toNat % 32) second = n := by
    rw [extend, h1, h2]
    omega
  rw [decodeChar, if_neg hlow, if_pos htwo]
  simp only [htail, if_true]
  rw [hcode]

/-- A character below 2^16 is three bytes. -/
theorem decodeChar_three {n : Nat} (h : 0x800 ≤ n) (h' : n < 0x10000)
    (hvalid : n < 0xD800 ∨ 0xDFFF < n) (rest : Bytes) :
    decodeChar (.ofNat (n / 4096 % 0x10 + 0xe0))
      (.ofNat (n / 64 % 0x40 + 0x80) :: .ofNat (n % 0x40 + 0x80) :: rest)
      = (some (.ofNat n), rest) := by
  have h1 := toNat_ofNat_of_lt (n := n / 4096 % 0x10 + 0xe0) (by omega)
  have h2 := toNat_ofNat_of_lt (n := n / 64 % 0x40 + 0x80) (by omega)
  have h3 := toNat_ofNat_of_lt (n := n % 0x40 + 0x80) (by omega)
  generalize UInt8.ofNat (n / 4096 % 0x10 + 0xe0) = first at h1 ⊢
  generalize UInt8.ofNat (n / 64 % 0x40 + 0x80) = second at h2 ⊢
  generalize UInt8.ofNat (n % 0x40 + 0x80) = third at h3 ⊢
  have hlow : ¬ first < 0x80 := by simp [UInt8.lt_iff_toNat_lt, h1]
  have htwo : ¬ (0xC2 ≤ first && first ≤ 0xDF) = true := by
    simp [UInt8.le_iff_toNat_le, h1]
  have hthree : (0xE0 ≤ first && first ≤ 0xEF) = true := by
    simp [UInt8.le_iff_toNat_le, h1]
    omega
  have hsecond : secondOfThree first second = true := by
    unfold secondOfThree isTail
    simp only [← UInt8.toNat_inj, UInt8.le_iff_toNat_le, h1, h2, UInt8.reduceToNat]
    split
    · simp
      omega
    · split <;> simp <;> omega
  have htail : isTail third = true := by
    simp [isTail, UInt8.le_iff_toNat_le, h3]
    omega
  have hcode : extend (extend (first.toNat % 16) second) third = n := by
    rw [extend, extend, h1, h2, h3]
    omega
  rw [decodeChar, if_neg hlow, if_neg htwo, if_pos hthree]
  simp only [hsecond, htail, Bool.not_true, Bool.false_eq_true, if_false, if_true]
  rw [hcode]

/-- A character from 2^16 on is four bytes. -/
theorem decodeChar_four {n : Nat} (h : 0x10000 ≤ n) (h' : n < 0x110000) (rest : Bytes) :
    decodeChar (.ofNat (n / 262144 % 0x08 + 0xf0))
      (.ofNat (n / 4096 % 0x40 + 0x80) :: .ofNat (n / 64 % 0x40 + 0x80)
        :: .ofNat (n % 0x40 + 0x80) :: rest) = (some (.ofNat n), rest) := by
  have h1 := toNat_ofNat_of_lt (n := n / 262144 % 0x08 + 0xf0) (by omega)
  have h2 := toNat_ofNat_of_lt (n := n / 4096 % 0x40 + 0x80) (by omega)
  have h3 := toNat_ofNat_of_lt (n := n / 64 % 0x40 + 0x80) (by omega)
  have h4 := toNat_ofNat_of_lt (n := n % 0x40 + 0x80) (by omega)
  generalize UInt8.ofNat (n / 262144 % 0x08 + 0xf0) = first at h1 ⊢
  generalize UInt8.ofNat (n / 4096 % 0x40 + 0x80) = second at h2 ⊢
  generalize UInt8.ofNat (n / 64 % 0x40 + 0x80) = third at h3 ⊢
  generalize UInt8.ofNat (n % 0x40 + 0x80) = fourth at h4 ⊢
  have hlow : ¬ first < 0x80 := by simp [UInt8.lt_iff_toNat_lt, h1]
  have htwo : ¬ (0xC2 ≤ first && first ≤ 0xDF) = true := by
    simp [UInt8.le_iff_toNat_le, h1]
  have hthree : ¬ (0xE0 ≤ first && first ≤ 0xEF) = true := by
    simp [UInt8.le_iff_toNat_le, h1]
  have hfour : (0xF0 ≤ first && first ≤ 0xF4) = true := by
    simp [UInt8.le_iff_toNat_le, h1]
    omega
  have hsecond : secondOfFour first second = true := by
    unfold secondOfFour isTail
    simp only [← UInt8.toNat_inj, UInt8.le_iff_toNat_le, h1, h2, UInt8.reduceToNat]
    split
    · simp
      omega
    · split <;> simp <;> omega
  have hthird : isTail third = true := by
    simp [isTail, UInt8.le_iff_toNat_le, h3]
    omega
  have hfourth : isTail fourth = true := by
    simp [isTail, UInt8.le_iff_toNat_le, h4]
    omega
  have hcode : extend (extend (extend (first.toNat % 8) second) third) fourth
      = n := by
    rw [extend, extend, extend, h1, h2, h3, h4]
    omega
  rw [decodeChar, if_neg hlow, if_neg htwo, if_neg hthree, if_pos hfour]
  simp only [hsecond, hthird, hfourth, Bool.not_true, Bool.false_eq_true, if_false, if_true]
  rw [hcode]

/-- The bytes of a character in front of others are read as that character. -/
theorem scan_encodeChar_append (c : Char) (rest : Bytes) :
    scan (String.utf8EncodeChar c ++ rest) = some c :: scan rest := by
  -- A surrogate has three bytes too, which no character is.
  have hlt : c.val.toNat < 0x110000 := c.valid.elim (fun h => by omega) And.right
  have hvalid : c.val.toNat < 0xD800 ∨ 0xDFFF < c.val.toNat := c.valid.imp id And.left
  have hself : Char.ofNat c.val.toNat = c := Char.ofNat_toNat c
  unfold String.utf8EncodeChar
  dsimp only
  split
  case isTrue h =>
    rw [List.singleton_append, scan, decodeChar_one (by omega), hself]
  case isFalse h =>
    split
    case isTrue h' =>
      rw [List.cons_append, List.singleton_append, scan, decodeChar_two (by omega) (by omega),
        hself]
    case isFalse h' =>
      split
      case isTrue h'' =>
        rw [List.cons_append, List.cons_append, List.singleton_append, scan,
          decodeChar_three (by omega) (by omega) hvalid, hself]
      case isFalse h'' =>
        rw [List.cons_append, List.cons_append, List.cons_append, List.singleton_append, scan,
          decodeChar_four (by omega) hlt, hself]

/-- The bytes of a text are read as its characters. -/
theorem scan_encodeChars (cs : List Char) : scan (encodeChars cs) = cs.map some := by
  induction cs with
  | nil => simp [encodeChars, scan]
  | cons c cs ih =>
      rw [encodeChars, List.flatMap_cons, scan_encodeChar_append, List.map_cons]
      exact congrArg _ ih

/-- Reading the bytes of a text gives the text. -/
theorem decode?_encode (text : String) : decode? (encode text) = some text := by
  have hall : (text.toList.map some).mapM id = some text.toList := by
    induction text.toList with
    | nil => rfl
    | cons c cs ih => simp [List.mapM_cons, ih]
  rw [decode?, encode, scan_encodeChars, hall, Option.map_some, String.ofList_toList]

/-- Reading the bytes of a text replaces nothing. -/
theorem decodeLossy_encode (text : String) : decodeLossy (encode text) = text := by
  rw [decodeLossy, encode, scan_encodeChars, List.map_map]
  have hid : ((fun o : Option Char => o.getD '\uFFFD') ∘ some) = id := rfl
  rw [hid, List.map_id, String.ofList_toList]

/-- Different texts have different bytes. -/
theorem encode_injective {a b : String} (h : encode a = encode b) : a = b := by
  have ha := decode?_encode a
  rw [h, decode?_encode] at ha
  exact (Option.some.inj ha).symm

/-- Only NUL has a zero byte. -/
theorem zero_mem_encodeChar_iff (c : Char) : 0 ∈ String.utf8EncodeChar c ↔ c = '\x00' := by
  have hnul : c = '\x00' ↔ c.val.toNat = 0 := by
    rw [← Char.toNat_inj]
    rfl
  have hzero : ∀ n, (0 : UInt8) = .ofNat n ↔ n % 256 = 0 := by
    intro n
    rw [← UInt8.toNat_inj, UInt8.toNat_ofNat']
    exact eq_comm
  rw [hnul]
  unfold String.utf8EncodeChar
  dsimp only
  split
  · simp only [List.mem_singleton, hzero]
    omega
  · split
    · simp only [List.mem_cons, hzero, List.not_mem_nil, or_false]
      omega
    · split
      · simp only [List.mem_cons, hzero, List.not_mem_nil, or_false]
        omega
      · simp only [List.mem_cons, hzero, List.not_mem_nil, or_false]
        omega

/-- A text has a zero byte exactly when it holds a NUL. -/
theorem zero_mem_encode_iff (text : String) : 0 ∈ encode text ↔ '\x00' ∈ text.toList := by
  simp only [encode, encodeChars, List.mem_flatMap, zero_mem_encodeChar_iff, exists_eq_right]

end SiteIndex.Text.Utf8
