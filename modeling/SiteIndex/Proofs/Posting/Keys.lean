import SiteIndex.Proofs.Posting.Types
import SiteIndex.Proofs.Posting.Values

/-!
# The keys of the cells

The builders of keys make the key of a cell, each of its kind (`Cell.build_eq`), and what the key
was made of is read from it again (`Cell.decodeName_key`, `Cell.decodeTrailing_key`). So whatever a
store holds, a scan of a table or of an attribute finds of the cells just those of the table or of
the attribute (`mem_scan_table`, `mem_scan_attribute`), in the order of their slots (`scan_slots`).
-/

namespace SiteIndex.Posting

open Store (Namespace Table)
open Store.Key (attributePrefix decodeName decodeTrailing encodeNumber tablePrefix)

variable {ns ns' : Namespace} {c : Cell} {name : Name} {s : Store}

namespace Cell

/-- The key that is built for a cell. -/
def build (ns : Namespace) : Cell → Outcome Bytes
  | stubIndex shasum => .ok (Store.Key.stubIndex ns shasum)
  | stubShasum index => .ok (Store.Key.stubShasum ns index)
  | nextStub => .ok (Store.Key.nextStub ns)
  | postings (.token text) => Store.Key.token ns text.1
  | postings (.slot name slot) => Store.Key.slotPostings ns name.1 slot
  | summary shasum => .ok (Store.Key.summary ns shasum)
  | valueSlot name hash => Store.Key.valueSlot ns name.1 hash
  | slotValue name slot => Store.Key.slotValue ns name.1 slot
  | nextSlot name => Store.Key.nextSlot ns name.1

/-- What is built for a cell is its key. -/
theorem build_eq (ns : Namespace) (c : Cell) : c.build ns = .ok (c.key ns) := by
  fun_cases table c with
  | case1 | case2 | case6 => rfl
  | case3 => exact congrArg Except.ok (List.append_nil _).symm
  | case4 text => exact token_eq ns text
  | case5 name slot => exact slotPostings_eq ns name slot
  | case7 name hash => exact valueSlot_eq ns name hash
  | case8 name slot => exact slotValue_eq ns name slot
  | case9 name => exact nextSlot_eq ns name

/-- The text that the key of a cell ends with, if it is all that comes after the table. -/
def text? : Cell → Option String
  | stubIndex shasum | summary shasum => some shasum
  | postings (.token text) | nextSlot text => some text.1
  | _ => none

/-- The attribute and the slot in the key of a cell, if it ends with a slot. -/
def slot? : Cell → Option (Name × UInt32)
  | postings (.slot name slot) | slotValue name slot => some (name, slot)
  | _ => none

/-- The text at the end of a key is read. -/
theorem decodeName_key {text : String} (h : c.text? = some text) :
    decodeName (c.key ns) (tablePrefix ns c.table) = .ok text := by
  have hpayload : c.payload = Text.Utf8.encode text := by
    fun_cases table c <;> cases h <;> rfl
  rw [key, hpayload, decodeName_append]

/-- A key that ends with a slot goes on behind the prefix of its attribute. -/
theorem key_of_slot? {slot : UInt32} (h : c.slot? = some (name, slot)) :
    c.key ns = tablePrefix ns c.table ++ (Text.Utf8.encode name.1 ++ [0]) ++ encodeNumber slot := by
  have hpayload : c.payload = Text.Utf8.encode name.1 ++ 0 :: encodeNumber slot := by
    fun_cases table c <;> cases h <;> rfl
  rw [key, hpayload]
  simp

/-- The slot at the end of a key is read. -/
theorem decodeTrailing_key {slot : UInt32} {front : Bytes} (h : c.slot? = some (name, slot))
    (hfront : attributePrefix ns c.table name.1 = .ok front) :
    decodeTrailing (c.key ns) front = .ok slot := by
  obtain rfl := Except.ok.inj ((attributePrefix_eq ns name c.table).symm.trans hfront)
  rw [key_of_slot? h, decodeTrailing_append]

end Cell

/-- The keys of the table go on behind the name of an attribute. -/
def perAttribute : Table → Bool
  | .valueSlot | .slotPostings | .slotValue => true
  | _ => false

/-- In a table with attributes the name before the zero is that of the attribute. -/
theorem attribute_iff_payload (htable : perAttribute c.table = true) :
    (∃ rest, c.payload = Text.Utf8.encode name.1 ++ 0 :: rest) ↔ c.attribute = some name := by
  have hother : ∀ {other : Name} {tail : Bytes},
      (∃ rest, Text.Utf8.encode other.1 ++ 0 :: tail = Text.Utf8.encode name.1 ++ 0 :: rest) ↔
        some other = some name := by
    intro other tail
    rw [Option.some.injEq]
    constructor
    · rintro ⟨rest, hrest⟩
      exact (Name.split hrest).1
    · rintro rfl
      exact ⟨tail, rfl⟩
  fun_cases Cell.table c with
  | case5 | case7 | case8 => exact hother
  | _ => cases htable

/-! ## Scans -/

/-- A scan finds what the content has below the prefix. -/
theorem mem_entriesFrom {front : Bytes} {e : Bytes × Bytes} :
    e ∈ s.entriesFrom front ↔ front.isPrefixOf e.1 = true ∧ s.content.get? e.1 = some e.2 := by
  rw [Store.entriesFrom_eq, Store.OrderedMap.get?_eq_some_iff]
  exact List.mem_filter.trans and_comm

/-- A scan of a table finds the cells of the table in its namespace. -/
theorem mem_scan_table {table : Table} {value : Bytes} :
    (c.key ns', value) ∈ s.entriesFrom (tablePrefix ns table) ↔
      ns = ns' ∧ c.table = table ∧ s.content.get? (c.key ns') = some value := by
  rw [mem_entriesFrom, Cell.tablePrefix_isPrefixOf, and_assoc]

/-- A scan of an attribute finds the cells of the attribute in its table and namespace. -/
theorem mem_scan_attribute {table : Table} {front value : Bytes}
    (htable : perAttribute table = true) (hfront : attributePrefix ns table name.1 = .ok front) :
    (c.key ns', value) ∈ s.entriesFrom front ↔
      ns = ns' ∧ c.table = table ∧ c.attribute = some name ∧
        s.content.get? (c.key ns') = some value := by
  obtain rfl := Except.ok.inj ((attributePrefix_eq ns name table).symm.trans hfront)
  rw [mem_entriesFrom, Cell.attributePrefix_isPrefixOf, and_assoc, and_assoc]
  refine and_congr_right fun _ => and_congr_right fun hc => ?_
  rw [attribute_iff_payload (hc ▸ htable)]

/-- A number is read from the keys that have it behind the front. -/
theorem decodeTrailing_eq_ok_iff {key front : Bytes} {n : UInt32} :
    decodeTrailing key front = .ok n ↔ key = front ++ encodeNumber n :=
  ⟨(meets_decodeTrailing key front).1 n, fun h => h ▸ decodeTrailing_append front n⟩

/-- Whatever the front, a scan gives entries in the ascending order of the numbers behind it. -/
theorem scan_slots (s : Store) (front : Bytes) :
    (s.entriesFrom front).Pairwise fun a b => ∀ i j, decodeTrailing a.1 front = .ok i →
      decodeTrailing b.1 front = .ok j → i < j := by
  rw [Store.entriesFrom_eq]
  refine (s.content.under front).sorted.imp fun {a b} hab i j hi hj => ?_
  rw [decodeTrailing_eq_ok_iff] at hi hj
  rwa [hi, hj, before_slot_iff] at hab

end SiteIndex.Posting
