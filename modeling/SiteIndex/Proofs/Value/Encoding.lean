import Mathlib.Tactic.Ring
import SiteIndex.Proofs.Bytes
import SiteIndex.Proofs.Text.Utf8
import SiteIndex.Proofs.Time.Stored
import SiteIndex.Value.Encoding

/-!
# Stored values read back

The stored form of a value is read as that value (`decode_encode`), whatever bytes come after it,
as long as its texts and lists have lengths of 64 bits and its instants exist. The depth of the
reading is bounded by the number of bytes, which is enough since every value takes some. Other
values may not be read, but never as values of another type (`typeName_of_decode`).
-/

namespace SiteIndex.Value

mutual

/-- The value has a stored form: its instants exist, and lengths have at most 64 bits. -/
def Storable : Value → Prop
  | .time t => t.Exists
  | .text s => (Text.Utf8.encode s).length < 2 ^ 64
  | .list items => items.length < 2 ^ 64 ∧ StorableAll items
  | _ => True

/-- All of the values have a stored form. -/
def StorableAll : List Value → Prop
  | [] => True
  | item :: rest => Storable item ∧ StorableAll rest

end

/-! ## Parts of stored forms -/

section Parts

variable {α β : Type} {bytes rest : Bytes}

/-- A reader that succeeds leaves the rest to the next one. -/
theorem bind_eq {x : Decoder α} {f : α → Decoder β} {a : α} (h : x bytes = .ok (a, rest)) :
    (x >>= f) bytes = f a rest := by
  show StateT.bind x f bytes = _
  rw [StateT.bind, h]
  rfl

/-- What is read part by part ends with the last part. -/
theorem of_bind_eq_ok {x : Decoder α} {f : α → Decoder β} {b : β}
    (h : (x >>= f) bytes = .ok (b, rest)) : ∃ a bytes', f a bytes' = .ok (b, rest) := by
  cases hx : x bytes with
  | error fault =>
      have hbind : (x >>= f) bytes = .error fault := by
        show StateT.bind x f bytes = _
        rw [StateT.bind, hx]
        rfl
      rw [hbind] at h
      cases h
  | ok result => exact ⟨result.1, result.2, (bind_eq hx).symm.trans h⟩

/-- A number that fits its width is read. -/
theorem decodeNumber_append {width n : Nat} (h : n < 256 ^ width) :
    decodeNumber width (Bytes.littleEndian width n ++ rest) = .ok (n, rest) := by
  have hlength := Bytes.length_littleEndian width n
  unfold decodeNumber
  rw [if_neg (by rw [List.length_append, hlength]; omega), List.take_left' hlength,
    List.drop_left' hlength, Bytes.littleEndianValue_of_lt h]

/-- A text is read after its length. -/
theorem decodeText_append {s : String} (h : (Text.Utf8.encode s).length < 2 ^ 64) :
    decodeText (encodeText s ++ rest) = .ok (s, rest) := by
  have hwidth : (256 : Nat) ^ 8 = 2 ^ 64 := by norm_num
  unfold decodeText encodeText encodeWord
  rw [List.append_assoc, bind_eq (decodeNumber_append (by rw [hwidth]; exact h))]
  unfold decodeChars
  rw [if_neg (by rw [List.length_append]; omega), List.take_left, List.drop_left,
    Text.Utf8.decode?_encode]

/-- An instant is read from its text. -/
theorem decodeTime_append {t : Time.Instant} (h : t.Exists)
    (hlength : (Text.Utf8.encode t.storedText).length < 2 ^ 64) :
    decodeTime (encodeText t.storedText ++ rest) = .ok (t, rest) := by
  unfold decodeTime
  rw [bind_eq (decodeText_append hlength), Time.Instant.ofStored?_storedText h]
  rfl

/-- A span is read. -/
theorem decodeSpan_append (d : Time.Span) :
    decodeSpan (encodeWord d.seconds.toNat ++ (Bytes.littleEndian 4 d.nanos.val ++ rest))
      = .ok (d, rest) := by
  have hseconds := d.seconds.toNat_lt
  have hnanos := d.nanos.isLt
  unfold decodeSpan encodeWord
  rw [bind_eq (decodeNumber_append (by omega)), bind_eq (decodeNumber_append (by omega))]
  have hwhole : d.nanos.val / 1000000000 = 0 := by omega
  have hfraction : d.nanos.val % 1000000000 = d.nanos.val := by omega
  simp only [hwhole, hfraction, Nat.add_zero, hseconds, if_true, UInt64.ofNat_toNat]
  rfl

/-- A character takes at most four bytes. -/
theorem length_encode_le (s : String) : (Text.Utf8.encode s).length ≤ 4 * s.toList.length := by
  unfold Text.Utf8.encode Text.Utf8.encodeChars
  induction s.toList with
  | nil => rfl
  | cons c cs ih =>
      have hc := Char.utf8Size_le_four c
      rw [List.flatMap_cons, List.length_append, String.length_utf8EncodeChar, List.length_cons]
      omega

/-- The text of an instant is short. -/
theorem length_encode_storedText {t : Time.Instant} (h : t.Exists) :
    (Text.Utf8.encode t.storedText).length < 2 ^ 64 := by
  have hbytes := length_encode_le t.storedText
  have hchars := Time.Instant.length_storedText_le h
  omega

/-- A truth value is read. -/
theorem decodeBool_append (b : Bool) :
    decodeBool ((if b then 1 else 0) :: rest) = .ok (b, rest) := by
  cases b <;> rfl

end Parts

/-- The bytes of a stored value begin with the number of its variant. -/
theorem length_encode_pos (value : Value) : 4 ≤ (encode value).length := by
  cases value <;> simp [encode, encodeTag]

/-! ## Values -/

/-- A reading begins with the number of the variant. -/
theorem decodeTag_append {tag : Nat} (h : tag < 7) (rest : Bytes) :
    decodeNumber 4 (encodeTag tag ++ rest) = .ok (tag, rest) :=
  decodeNumber_append (by omega)

mutual

-- The fuel is the number of bytes; a list takes more of them than its items, which is what the
-- recursion into the items needs.
/-- A value is read as it is written, whatever comes after it. -/
theorem decodeWith_append : ∀ (value : Value), Storable value → ∀ (fuel : Nat) (rest : Bytes),
    (encode value).length ≤ fuel → decodeWith fuel (encode value ++ rest) = .ok (value, rest)
  | value, _, 0, _, hfuel => by
      have := length_encode_pos value
      omega
  | .bool b, _, fuel + 1, rest, _ => by
      rw [encode, List.append_assoc, decodeWith, bind_eq (decodeTag_append (by decide) _)]
      show (decodeBool >>= _) _ = _
      rw [List.singleton_append, bind_eq (decodeBool_append b)]
      rfl
  | .int i, _, fuel + 1, rest, _ => by
      have hword := i.toUInt64.toNat_lt
      rw [encode, List.append_assoc, decodeWith, bind_eq (decodeTag_append (by decide) _)]
      show (decodeNumber 8 >>= _) _ = _
      rw [encodeWord, bind_eq (decodeNumber_append (by omega))]
      have hint : Int64.ofNat i.toUInt64.toNat = i := by
        rw [← UInt64.toInt64_ofNat', UInt64.ofNat_toNat, Int64.toInt64_toUInt64]
      rw [hint]
      rfl
  | .float x, _, fuel + 1, rest, _ => by
      have hword := x.bits.toNat_lt
      rw [encode, List.append_assoc, decodeWith, bind_eq (decodeTag_append (by decide) _)]
      show (decodeNumber 8 >>= _) _ = _
      rw [encodeWord, bind_eq (decodeNumber_append (by omega)), UInt64.ofNat_toNat]
      rfl
  | .time t, h, fuel + 1, rest, _ => by
      rw [encode, List.append_assoc, decodeWith, bind_eq (decodeTag_append (by decide) _)]
      show (decodeTime >>= _) _ = _
      rw [bind_eq (decodeTime_append h (length_encode_storedText h))]
      rfl
  | .duration d, _, fuel + 1, rest, _ => by
      rw [encode, List.append_assoc, List.append_assoc, decodeWith,
        bind_eq (decodeTag_append (by decide) _)]
      show (decodeSpan >>= _) _ = _
      rw [bind_eq (decodeSpan_append d)]
      rfl
  | .text s, h, fuel + 1, rest, _ => by
      rw [encode, List.append_assoc, decodeWith, bind_eq (decodeTag_append (by decide) _)]
      show (decodeText >>= _) _ = _
      rw [bind_eq (decodeText_append h)]
      rfl
  | .list items, h, fuel + 1, rest, hfuel => by
      rw [encode, List.length_append, List.length_append, encodeTag, encodeWord,
        Bytes.length_littleEndian, Bytes.length_littleEndian] at hfuel
      rw [encode, List.append_assoc, List.append_assoc, decodeWith,
        bind_eq (decodeTag_append (by decide) _)]
      show (decodeNumber 8 >>= _) _ = _
      rw [encodeWord, bind_eq (decodeNumber_append h.1)]
      show (decodeAllWith fuel items.length >>= _) _ = _
      rw [bind_eq (decodeAllWith_append items h.2 fuel rest (by omega))]
      rfl

/-- Values are read as they are written, whatever comes after them. -/
theorem decodeAllWith_append : ∀ (items : List Value), StorableAll items →
    ∀ (fuel : Nat) (rest : Bytes), (encodeAll items).length < fuel →
      decodeAllWith fuel items.length (encodeAll items ++ rest) = .ok (items, rest)
  | _, _, 0, _, hfuel => absurd hfuel (Nat.not_lt_zero _)
  | [], _, fuel + 1, rest, _ => rfl
  | item :: items, h, fuel + 1, rest, hfuel => by
      have hitem := length_encode_pos item
      rw [encodeAll, List.length_append] at hfuel
      rw [encodeAll, List.append_assoc, List.length_cons, decodeAllWith,
        bind_eq (decodeWith_append item h.1 fuel _ (by omega)),
        bind_eq (decodeAllWith_append items h.2 fuel rest (by omega))]
      rfl

end

/-- The stored form of a value is read as that value. -/
theorem decode_encode {value : Value} (h : Storable value) : decode value.encode = .ok value := by
  have hread := decodeWith_append value h _ [] (Nat.le_succ _)
  rw [List.append_nil] at hread
  rw [decode, decodeFront, hread]

/-! ## Types -/

/-- A value with the name of the type of texts is a text. -/
theorem exists_text_of_typeName {v : Value} (h : v.typeName = "string") : ∃ s, v = .text s := by
  cases v with
  | text s => exact ⟨s, rfl⟩
  | _ => simp [typeName] at h

/-- A stored value is read as a value of its type, if it is read at all. -/
theorem typeName_of_decode {v w : Value} (h : decode v.encode = .ok w) :
    w.typeName = v.typeName := by
  obtain ⟨rest, hread⟩ : ∃ rest, decodeWith (v.encode.length + 1) v.encode = .ok (w, rest) := by
    rw [decode, decodeFront] at h
    split at h
    case h_1 value rest hread => exact ⟨rest, Except.ok.inj h ▸ hread⟩
    case h_2 => cases h
  have hpure : ∀ {α : Type} {x : Decoder α} {g : α → Value} {bytes : Bytes},
      (x >>= fun a => pure (g a)) bytes = .ok (w, rest) → ∃ a, w = g a := by
    intro α x g bytes hbind
    obtain ⟨a, bytes', hend⟩ := of_bind_eq_ok hbind
    exact ⟨a, (Prod.mk.inj (Except.ok.inj hend)).1.symm⟩
  generalize v.encode.length = fuel at hread
  cases v with
  | list items =>
      simp only [encode, List.append_assoc, decodeWith] at hread
      rw [bind_eq (decodeTag_append (by decide) _)] at hread
      obtain ⟨_, _, hitems⟩ := of_bind_eq_ok hread
      obtain ⟨_, rfl⟩ := hpure hitems
      rfl
  | _ =>
      simp only [encode, List.append_assoc, decodeWith] at hread
      rw [bind_eq (decodeTag_append (by decide) _)] at hread
      obtain ⟨_, rfl⟩ := hpure hread
      rfl
end SiteIndex.Value
