import Mathlib.Logic.Function.Basic
import Mathlib.Tactic.Ring
import SiteIndex.Posting.Tables
import SiteIndex.Proofs.Posting.List
import SiteIndex.Proofs.Store.Content
import SiteIndex.Proofs.Text.Utf8

/-!
# The cells of the posting tables

Every key of the posting tables is the place of a `Cell`: a shasum, a number, a name, or a name
with a hash or a slot, in one of the tables. Different cells have different keys
(`Cell.key_injective`), so that a namespace is a function from cells to what they hold, its
`Fields`. `Stored` says that the entries of a store are those of given fields, and `Shows` that
a store stands for the fields of one namespace while those of the other stay as they are.
-/

namespace SiteIndex.Posting

open Store (Namespace Table OrderedMap)
open Store.Key (tablePrefix encodeNumber decodeNumber isName)

/-- A name that a key can hold. -/
abbrev Name := { name : String // isName name = true }

/-- What stubs are posted under. -/
inductive Heading where
  | token (text : Name)
  | slot (name : Name) (slot : UInt32)
  deriving DecidableEq

/-- A place of the tables. -/
inductive Cell where
  | stubIndex (shasum : String)
  | stubShasum (index : UInt32)
  | nextStub
  | postings (heading : Heading)
  | summary (shasum : String)
  | valueSlot (name : Name) (hash : Bytes)
  | slotValue (name : Name) (slot : UInt32)
  | nextSlot (name : Name)
  deriving DecidableEq

namespace Cell

/-- The table of a cell. -/
def table : Cell → Table
  | stubIndex _ => .stubIndex
  | stubShasum _ => .stubShasum
  | nextStub => .nextStub
  | postings (.token _) => .token
  | postings (.slot _ _) => .slotPostings
  | summary _ => .summary
  | valueSlot _ _ => .valueSlot
  | slotValue _ _ => .slotValue
  | nextSlot _ => .nextSlot

/-- The part of the key that comes after the table. -/
def payload : Cell → Bytes
  | stubIndex shasum => Text.Utf8.encode shasum
  | stubShasum index => encodeNumber index
  | nextStub => []
  | postings (.token text) => Text.Utf8.encode text.1
  | postings (.slot name slot) => Text.Utf8.encode name.1 ++ 0 :: encodeNumber slot
  | summary shasum => Text.Utf8.encode shasum
  | valueSlot name hash => Text.Utf8.encode name.1 ++ 0 :: hash
  | slotValue name slot => Text.Utf8.encode name.1 ++ 0 :: encodeNumber slot
  | nextSlot name => Text.Utf8.encode name.1

/-- The key under which a cell is stored. -/
def key (ns : Namespace) (c : Cell) : Bytes := tablePrefix ns c.table ++ c.payload

/-- What a cell holds. -/
abbrev Entry : Cell → Type
  | stubIndex _ => UInt32
  | stubShasum _ => String
  | nextStub => UInt32
  | postings _ => StubSet
  | summary _ => Bytes
  | valueSlot _ _ => UInt32
  | slotValue _ _ => Value
  | nextSlot _ => UInt32

/-- The stored form of what a cell holds. -/
def bytes : (c : Cell) → c.Entry → Bytes
  | stubIndex _, index => encodeNumber index
  | stubShasum _, shasum => Text.Utf8.encode shasum
  | nextStub, index => encodeNumber index
  | postings _, stubs => stubs.blob
  | summary _, entry => entry
  | valueSlot _ _, slot => encodeNumber slot
  | slotValue _ _, value => value.encode
  | nextSlot _, slot => encodeNumber slot

end Cell

/-! ## Keys -/

/-- A stored number is read as that number. -/
theorem decodeNumber_encodeNumber (n : UInt32) : decodeNumber (encodeNumber n) = .ok n := by
  rw [decodeNumber, encodeNumber, if_pos (Bytes.length_bigEndian 4 _),
    Bytes.bigEndianValue_of_lt n.toNat_lt, UInt32.ofNat_toNat]

/-- The bytes of a name hold no zero. -/
theorem Name.zero_not_mem (name : Name) : 0 ∉ Text.Utf8.encode name.1 := by
  have h := name.2
  rw [isName, Bool.and_eq_true, Bool.not_eq_true', ← Bool.not_eq_true,
    List.contains_iff_mem] at h
  rw [Text.Utf8.zero_mem_encode_iff]
  exact h.2

/-- Names with the same bytes are equal. -/
theorem Name.encode_injective {a b : Name} (h : Text.Utf8.encode a.1 = Text.Utf8.encode b.1) :
    a = b := Subtype.ext (Text.Utf8.encode_injective h)

/-- What stands before a zero and after it in a key. -/
theorem Name.split {a b : Name} {r s : Bytes}
    (h : Text.Utf8.encode a.1 ++ 0 :: r = Text.Utf8.encode b.1 ++ 0 :: s) : a = b ∧ r = s := by
  obtain ⟨hname, hrest⟩ := Bytes.append_zero_inj a.zero_not_mem b.zero_not_mem h
  exact ⟨encode_injective hname, hrest⟩

/-- Namespaces differ in their first byte. -/
theorem byte_injective {ns ns' : Namespace} (h : ns.byte = ns'.byte) : ns = ns' := by
  revert h
  cases ns <;> cases ns' <;> decide

/-- Tables differ in their second byte. -/
theorem tableByte_injective {a b : Table} (h : a.byte = b.byte) : a = b := by
  revert h
  cases a <;> cases b <;> decide

namespace Cell

/-- Cells of one table differ in the rest of their keys. -/
theorem payload_injective {c d : Cell} (htable : c.table = d.table)
    (hpayload : c.payload = d.payload) : c = d := by
  -- `fun_cases` splits by table, so that headings of both kinds are cases of their own.
  fun_cases table c <;> fun_cases table d <;> first | exact Table.noConfusion htable | skip
  case case1.case1 => rw [Text.Utf8.encode_injective hpayload]
  case case2.case2 => rw [Bytes.bigEndian_four_injective hpayload]
  case case3.case3 => rfl
  case case4.case4 => rw [Name.encode_injective hpayload]
  case case5.case5 =>
    obtain ⟨rfl, hslot⟩ := Name.split hpayload
    rw [Bytes.bigEndian_four_injective hslot]
  case case6.case6 => rw [Text.Utf8.encode_injective hpayload]
  case case7.case7 =>
    obtain ⟨rfl, rfl⟩ := Name.split hpayload
    rfl
  case case8.case8 =>
    obtain ⟨rfl, hslot⟩ := Name.split hpayload
    rw [Bytes.bigEndian_four_injective hslot]
  case case9.case9 => rw [Name.encode_injective hpayload]

/-- Different cells have different keys, in both namespaces. -/
theorem key_injective {ns ns' : Namespace} {c d : Cell} (h : c.key ns = d.key ns') :
    ns = ns' ∧ c = d := by
  obtain ⟨hns, h⟩ := List.cons.inj h
  obtain ⟨htable, hpayload⟩ := List.cons.inj h
  exact ⟨byte_injective hns, payload_injective (tableByte_injective htable) hpayload⟩

/-- The keys of a namespace are those that start with its byte. -/
theorem namespacePrefix_isPrefixOf {ns ns' : Namespace} {c : Cell} :
    (Store.Key.namespacePrefix ns).isPrefixOf (c.key ns') = true ↔ ns = ns' := by
  have hbyte : (Store.Key.namespacePrefix ns).isPrefixOf (c.key ns') = (ns.byte == ns'.byte) := by
    rw [key, tablePrefix, Store.Key.namespacePrefix, List.cons_append, List.isPrefixOf_cons_cons,
      List.isPrefixOf_nil_left, Bool.and_true]
  rw [hbyte, beq_iff_eq]
  exact ⟨byte_injective, fun h => h ▸ rfl⟩

/-- The keys of a table are those that start with its bytes. -/
theorem tablePrefix_isPrefixOf {ns ns' : Namespace} {table : Table} {c : Cell} :
    (tablePrefix ns table).isPrefixOf (c.key ns') = true ↔ ns = ns' ∧ c.table = table := by
  have hbytes : (tablePrefix ns table).isPrefixOf (c.key ns')
      = (ns.byte == ns'.byte && table.byte == c.table.byte) := by
    rw [key, tablePrefix, tablePrefix, List.cons_append, List.cons_append,
      List.isPrefixOf_cons_cons, List.isPrefixOf_cons_cons, List.isPrefixOf_nil_left,
      Bool.and_true]
  rw [hbytes, Bool.and_eq_true, beq_iff_eq, beq_iff_eq]
  constructor
  · rintro ⟨hns, htable⟩
    exact ⟨byte_injective hns, (tableByte_injective htable).symm⟩
  · rintro ⟨rfl, rfl⟩
    exact ⟨rfl, rfl⟩

/-- The keys of an attribute in a table are those that start with its bytes and a zero. -/
theorem attributePrefix_isPrefixOf {ns ns' : Namespace} {table : Table} {name : Name} {c : Cell} :
    (tablePrefix ns table ++ (Text.Utf8.encode name.1 ++ [0])).isPrefixOf (c.key ns') = true ↔
      ns = ns' ∧ c.table = table ∧ ∃ rest, c.payload = Text.Utf8.encode name.1 ++ 0 :: rest := by
  rw [List.isPrefixOf_iff_prefix]
  constructor
  · rintro ⟨rest, h⟩
    rw [List.append_assoc, List.append_assoc] at h
    obtain ⟨hns, h⟩ := List.cons.inj h
    obtain ⟨htable, hpayload⟩ := List.cons.inj h
    exact ⟨byte_injective hns, (tableByte_injective htable).symm, rest, hpayload.symm⟩
  · rintro ⟨rfl, rfl, rest, hpayload⟩
    refine ⟨rest, ?_⟩
    rw [key, hpayload, List.append_assoc, List.append_assoc]
    rfl

end Cell

/-! ## Keys of valid names -/

section Keys

variable (ns : Namespace) (name : Name)

/-- The key of a token. -/
theorem token_eq : Store.Key.token ns name.1 = .ok ((Cell.postings (.token name)).key ns) := by
  rw [Store.Key.token, Store.Key.checkName, if_pos name.2]
  rfl

/-- The front of an attribute's keys in a table. -/
theorem attributePrefix_eq (table : Table) :
    Store.Key.attributePrefix ns table name.1
      = .ok (tablePrefix ns table ++ (Text.Utf8.encode name.1 ++ [0])) := by
  rw [Store.Key.attributePrefix, Store.Key.checkName, if_pos name.2]
  exact congrArg Except.ok (List.append_assoc ..)

/-- The key of a value's slot. -/
theorem valueSlot_eq (hash : Bytes) :
    Store.Key.valueSlot ns name.1 hash = .ok ((Cell.valueSlot name hash).key ns) := by
  rw [Store.Key.valueSlot, attributePrefix_eq]
  exact congrArg Except.ok (by simp [Cell.key, Cell.payload, Cell.table])

/-- The key of a slot's postings. -/
theorem slotPostings_eq (slot : UInt32) :
    Store.Key.slotPostings ns name.1 slot
      = .ok ((Cell.postings (.slot name slot)).key ns) := by
  rw [Store.Key.slotPostings, attributePrefix_eq]
  exact congrArg Except.ok (by simp [Cell.key, Cell.payload, Cell.table])

/-- The key of a slot's value. -/
theorem slotValue_eq (slot : UInt32) :
    Store.Key.slotValue ns name.1 slot = .ok ((Cell.slotValue name slot).key ns) := by
  rw [Store.Key.slotValue, attributePrefix_eq]
  exact congrArg Except.ok (by simp [Cell.key, Cell.payload, Cell.table])

/-- The key of an attribute's counter. -/
theorem nextSlot_eq : Store.Key.nextSlot ns name.1 = .ok ((Cell.nextSlot name).key ns) := by
  rw [Store.Key.nextSlot, Store.Key.checkName, if_pos name.2]
  rfl

end Keys

/-- Keys with a name that is none cannot be made. -/
theorem checkName_error {name : String} (h : ¬ isName name = true) :
    Store.Key.checkName name = .error (.invalidName name) := by
  rw [Store.Key.checkName, if_neg h]

/-! ## Fields -/

/-- What the cells of a namespace hold. -/
abbrev Fields := (c : Cell) → Option c.Entry

namespace Fields

variable (f : Fields)

/-- The fields with one of them changed. -/
def put (c : Cell) (entry : Option c.Entry) : Fields := Function.update f c entry

/-- The changed field. -/
@[simp] theorem put_self (c : Cell) (entry : Option c.Entry) : f.put c entry c = entry :=
  Function.update_self ..

/-- The other fields stay. -/
@[simp] theorem put_of_ne {c d : Cell} (h : d ≠ c) (entry : Option c.Entry) :
    f.put c entry d = f d := Function.update_of_ne h ..

/-- The numbers of shasums after a change of one. -/
@[simp] theorem put_stubIndex (a b : String) (index : Option UInt32) :
    f.put (.stubIndex a) index (.stubIndex b) = if b = a then index else f (.stubIndex b) := by
  by_cases h : b = a
  · subst h
    rw [if_pos rfl, put_self]
  · rw [if_neg h, put_of_ne f (by simpa using h)]

/-- The shasums of numbers after a change of one. -/
@[simp] theorem put_stubShasum (a b : UInt32) (shasum : Option String) :
    f.put (.stubShasum a) shasum (.stubShasum b) = if b = a then shasum else f (.stubShasum b) := by
  by_cases h : b = a
  · subst h
    rw [if_pos rfl, put_self]
  · rw [if_neg h, put_of_ne f (by simpa using h)]

/-- The postings after a change under one heading. -/
@[simp] theorem put_postings (a b : Heading) (stubs : Option StubSet) :
    f.put (.postings a) stubs (.postings b) = if b = a then stubs else f (.postings b) := by
  by_cases h : b = a
  · subst h
    rw [if_pos rfl, put_self]
  · rw [if_neg h, put_of_ne f (by simpa using h)]

/-- The slots of values after a change of one. -/
@[simp] theorem put_valueSlot (name name' : Name) (hash hash' : Bytes) (slot : Option UInt32) :
    f.put (.valueSlot name hash) slot (.valueSlot name' hash')
      = if name' = name ∧ hash' = hash then slot else f (.valueSlot name' hash') := by
  by_cases h : name' = name ∧ hash' = hash
  · obtain ⟨rfl, rfl⟩ := h
    rw [if_pos ⟨rfl, rfl⟩, put_self]
  · rw [if_neg h, put_of_ne f (by simpa using h)]

/-- The values of slots after a change of one. -/
@[simp] theorem put_slotValue (name name' : Name) (slot slot' : UInt32) (value : Option Value) :
    f.put (.slotValue name slot) value (.slotValue name' slot')
      = if name' = name ∧ slot' = slot then value else f (.slotValue name' slot') := by
  by_cases h : name' = name ∧ slot' = slot
  · obtain ⟨rfl, rfl⟩ := h
    rw [if_pos ⟨rfl, rfl⟩, put_self]
  · rw [if_neg h, put_of_ne f (by simpa using h)]

/-- The counters of attributes after a change of one. -/
@[simp] theorem put_nextSlot (a b : Name) (slot : Option UInt32) :
    f.put (.nextSlot a) slot (.nextSlot b) = if b = a then slot else f (.nextSlot b) := by
  by_cases h : b = a
  · subst h
    rw [if_pos rfl, put_self]
  · rw [if_neg h, put_of_ne f (by simpa using h)]

end Fields

/-- The entries of a map are those of the fields of the two namespaces. -/
structure Stored (m : OrderedMap Bytes) (t : Namespace → Fields) : Prop where
  get?_key : ∀ ns (c : Cell), m.get? (c.key ns) = (t ns c).map c.bytes
  only : ∀ key value, m.get? key = some value → ∃ ns, ∃ c : Cell, key = c.key ns

/-- The store stands for fields of the namespace; `t` gives those of the other. -/
def Shows (t : Namespace → Fields) (ns : Namespace) (s : Store) (f : Fields) : Prop :=
  ∃ m, Store.Holds s m ∧ Stored m (Function.update t ns f)

namespace Stored

variable {m : OrderedMap Bytes} {t : Namespace → Fields} {ns : Namespace} {f : Fields}

/-- An empty map has empty fields. -/
theorem empty : Stored ∅ fun _ _ => none where
  get?_key _ _ := rfl
  only _ _ h := by cases h

/-- The fields determine the entries. -/
theorem unique {m' : OrderedMap Bytes} (h : Stored m t) (h' : Stored m' t) : m = m' := by
  refine OrderedMap.ext_get? fun key => ?_
  by_cases hkey : ∃ ns, ∃ c : Cell, key = c.key ns
  · obtain ⟨ns, c, rfl⟩ := hkey
    rw [h.get?_key, h'.get?_key]
  · have hnone : ∀ {n : OrderedMap Bytes}, Stored n t → n.get? key = none := fun hn =>
      Option.eq_none_iff_forall_ne_some.2 fun value hvalue => hkey (hn.only key value hvalue)
    rw [hnone h, hnone h']

/-- A map that differs under one key has another field there, and none of the others changes. -/
theorem put (h : Stored m (Function.update t ns f)) (c : Cell) (entry : Option c.Entry)
    {m' : OrderedMap Bytes} (hput : ∀ key,
      m'.get? key = if key = c.key ns then entry.map c.bytes else m.get? key) :
    Stored m' (Function.update t ns (f.put c entry)) where
  get?_key ns' d := by
    rw [hput, h.get?_key]
    by_cases hns : ns' = ns
    · subst hns
      rw [Function.update_self, Function.update_self]
      by_cases hd : d = c
      · subst hd
        rw [if_pos rfl, Fields.put_self]
      · rw [if_neg fun heq => hd (Cell.key_injective heq).2, Fields.put_of_ne f hd]
    · rw [if_neg fun heq => hns (Cell.key_injective heq).1, Function.update_of_ne hns,
        Function.update_of_ne hns]
  only key value hget := by
    rw [hput] at hget
    by_cases hkey : key = c.key ns
    · exact ⟨ns, c, hkey⟩
    · rw [if_neg hkey] at hget
      exact h.only key value hget

/-- A map with one more entry has one more field. -/
theorem insert (h : Stored m (Function.update t ns f)) (c : Cell) (e : c.Entry) :
    Stored (m.insert (c.key ns) (c.bytes e)) (Function.update t ns (f.put c (some e))) :=
  h.put c (some e) fun key => OrderedMap.get?_insert (c.key ns) key (c.bytes e) m

/-- A map without an entry has a field less. -/
theorem erase (h : Stored m (Function.update t ns f)) (c : Cell) :
    Stored (m.erase (c.key ns)) (Function.update t ns (f.put c none)) :=
  h.put c none fun key => OrderedMap.get?_erase (c.key ns) key m

/-- Taking every key of a namespace away leaves its fields empty. -/
theorem clear (h : Stored m t) (ns : Namespace) :
    Stored (((m.under (Store.Key.namespacePrefix ns)).entries.map fun e =>
        Store.BatchOp.delete e.1).foldl Store.BatchOp.apply m)
      (Function.update t ns fun _ => none) := by
  constructor
  · intro ns' c
    rw [Store.get?_deleteUnder, h.get?_key]
    by_cases hns : ns' = ns
    · subst hns
      rw [if_pos (Cell.namespacePrefix_isPrefixOf.2 rfl), Function.update_self]
      rfl
    · rw [if_neg fun heq => hns (Cell.namespacePrefix_isPrefixOf.1 heq).symm,
        Function.update_of_ne hns]
  · intro key value hget
    rw [Store.get?_deleteUnder] at hget
    split at hget
    · cases hget
    · exact h.only key value hget

end Stored

/-! ## Operations on fields -/

section Operations

open SiteIndex.Action (Takes)

variable {t : Namespace → Fields} {ns : Namespace} {f : Fields}

/-- A look-up answers from the fields. -/
theorem takes_get? (c : Cell) :
    Takes (Shows t ns) (Store.get? (c.key ns)) f (.ok ((f c).map c.bytes)) f := by
  refine Takes.refine fun m hm => ⟨m, ?_, hm⟩
  have hget := hm.get?_key ns c
  rw [Function.update_self] at hget
  rw [← hget]
  exact Store.takes_get? (c.key ns)

/-- Getting a field that is there answers from the fields. -/
theorem takes_get {c : Cell} {e : c.Entry} (h : f c = some e) :
    Takes (Shows t ns) (Store.get (c.key ns)) f (.ok (c.bytes e)) f := by
  refine Takes.refine fun m hm => ⟨m, Store.takes_get ?_, hm⟩
  rw [hm.get?_key, Function.update_self, h]
  rfl

/-- Setting a cell changes its field alone. -/
theorem takes_set (c : Cell) (e : c.Entry) :
    Takes (Shows t ns) (Store.set (c.key ns) (c.bytes e)) f (.ok ()) (f.put c (some e)) :=
  Takes.refine fun _ hm => ⟨_, Store.takes_set _ _, hm.insert c e⟩

/-- Deleting a cell changes its field alone. -/
theorem takes_delete (c : Cell) :
    Takes (Shows t ns) (Store.delete (c.key ns)) f (.ok ()) (f.put c none) :=
  Takes.refine fun _ hm => ⟨_, Store.takes_delete _, hm.erase c⟩

end Operations

end SiteIndex.Posting
