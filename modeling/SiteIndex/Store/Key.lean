import SiteIndex.Failure
import SiteIndex.Text.Utf8

/-!
# Keys of the store

Every entry of the two indexes lives under a key of one ordered store: a byte for the
namespace, a byte for the table, and a payload. Names of attributes and tokens hold no NUL,
which ends an attribute name before the fixed-width part of a key, and numbers are written most
significant byte first, so that the entries of an attribute come in the order of their slots.
-/

namespace SiteIndex.Store

/-- The index that an entry belongs to. -/
inductive Namespace where
  | context | keyword
  deriving DecidableEq, Repr

/-- The first byte of every key of a namespace. -/
def Namespace.byte : Namespace → UInt8
  | .context => 0x63
  | .keyword => 0x6B

/-- The tables of a namespace. -/
inductive Table where
  | stubIndex | stubShasum | nextStub | token | summary
  | valueSlot | slotPostings | slotValue | nextSlot
  deriving DecidableEq, Repr

/-- The second byte of every key of a table. -/
def Table.byte : Table → UInt8
  | .stubIndex => 0x01
  | .stubShasum => 0x02
  | .nextStub => 0x03
  | .token => 0x10
  | .summary => 0x11
  | .valueSlot => 0x20
  | .slotPostings => 0x21
  | .slotValue => 0x22
  | .nextSlot => 0x23

namespace Key

/-- A name in a key is not empty and holds no NUL. -/
def isName (name : String) : Bool := name ≠ "" && !name.toList.contains '\x00'

/-- Goes on with a name if it is one. -/
def checkName (name : String) : Outcome Unit :=
  if isName name then .ok () else .error (.invalidName name)

/-- The prefix of all keys of a namespace. -/
def namespacePrefix (ns : Namespace) : Bytes := [ns.byte]

/-- The prefix of all keys of a table. -/
def tablePrefix (ns : Namespace) (table : Table) : Bytes := [ns.byte, table.byte]

/-- A number of four bytes, most significant first. -/
def encodeNumber (n : UInt32) : Bytes := Bytes.bigEndian 4 n.toNat

/-- The key of a table with a text as its payload. -/
def textKey (ns : Namespace) (table : Table) (payload : String) : Bytes :=
  tablePrefix ns table ++ Text.Utf8.encode payload

/-- Where the index of a shasum is kept. -/
def stubIndex (ns : Namespace) (shasum : String) : Bytes := textKey ns .stubIndex shasum

/-- Where the shasum of an index is kept. -/
def stubShasum (ns : Namespace) (index : UInt32) : Bytes :=
  tablePrefix ns .stubShasum ++ encodeNumber index

/-- Where the next free index is kept. -/
def nextStub (ns : Namespace) : Bytes := tablePrefix ns .nextStub

/-- Where the postings of a token are kept. -/
def token (ns : Namespace) (text : String) : Outcome Bytes := do
  checkName text
  return textKey ns .token text

/-- Where the summary of a shasum is kept. -/
def summary (ns : Namespace) (shasum : String) : Bytes := textKey ns .summary shasum

/-- The prefix of the keys of one attribute in a table. -/
def attributePrefix (ns : Namespace) (table : Table) (name : String) : Outcome Bytes := do
  checkName name
  return textKey ns table name ++ [0]

/-- Where the slot of a value is kept, found by the hash of the value. -/
def valueSlot (ns : Namespace) (name : String) (hash : Bytes) : Outcome Bytes := do
  return (← attributePrefix ns .valueSlot name) ++ hash

/-- Where the postings of a slot are kept. -/
def slotPostings (ns : Namespace) (name : String) (slot : UInt32) : Outcome Bytes := do
  return (← attributePrefix ns .slotPostings name) ++ encodeNumber slot

/-- Where the value of a slot is kept. -/
def slotValue (ns : Namespace) (name : String) (slot : UInt32) : Outcome Bytes := do
  return (← attributePrefix ns .slotValue name) ++ encodeNumber slot

/-- Where the next free slot of an attribute is kept. -/
def nextSlot (ns : Namespace) (name : String) : Outcome Bytes := do
  checkName name
  return textKey ns .nextSlot name

/-- The key without a prefix that it must have. -/
def strip (key front : Bytes) : Outcome Bytes :=
  if front.isPrefixOf key then .ok (key.drop front.length) else .error (.malformedKey key)

/-- The text after a prefix. -/
def decodeName (key front : Bytes) : Outcome String := do
  match Text.Utf8.decode? (← strip key front) with
  | some name => return name
  | none => throw (.malformedKey key)

/-- The number of four bytes after a prefix. -/
def decodeTrailing (key front : Bytes) : Outcome UInt32 := do
  let rest ← strip key front
  if rest.length = 4 then return .ofNat (Bytes.bigEndianValue rest)
  else throw (.malformedKey key)

/-- A stored number of four bytes. -/
def decodeNumber (bytes : Bytes) : Outcome UInt32 :=
  if bytes.length = 4 then .ok (.ofNat (Bytes.bigEndianValue bytes))
  else .error (.malformedCounter bytes.length)

/-- The bytes without the highest bytes at the end and with the last other byte raised, given
in reverse. -/
def raise : Bytes → Option Bytes
  | [] => none
  | b :: rest => if b < 0xFF then some ((b + 1) :: rest) else raise rest

/-- The least byte string above every one with a prefix; there is none above bytes that are
all the highest. -/
def upperBound (front : Bytes) : Option Bytes := (raise front.reverse).map List.reverse

end Key

end SiteIndex.Store
