import SiteIndex.Digest.Sha256
import SiteIndex.Text.Utf8
import SiteIndex.Value.Basic

/-!
# Stored form of values

A value is stored as the number of its variant and its content: numbers in little-endian
bytes of fixed width, texts and lists after their length, times as text. `Value.encode` writes
the form, `Value.decode` reads it back, and `Value.hash` is the short digest of it by which a
value is found.
-/

namespace SiteIndex.Value

open Time (Instant Span)

/-- A number of eight bytes, least significant first. -/
def encodeWord (n : Nat) : Bytes := Bytes.littleEndian 8 n

/-- The number of a variant. -/
def encodeTag (n : Nat) : Bytes := Bytes.littleEndian 4 n

/-- A text after its length in bytes. -/
def encodeText (text : String) : Bytes :=
  let bytes := Text.Utf8.encode text
  encodeWord bytes.length ++ bytes

mutual

/-- The stored form of a value. -/
def encode : Value → Bytes
  | .bool b => encodeTag 0 ++ [if b then 1 else 0]
  | .int i => encodeTag 1 ++ encodeWord i.toUInt64.toNat
  | .float x => encodeTag 2 ++ encodeWord x.bits.toNat
  | .time t => encodeTag 3 ++ encodeText t.storedText
  | .duration d => encodeTag 4 ++ encodeWord d.seconds.toNat ++ Bytes.littleEndian 4 d.nanos.val
  | .text s => encodeTag 5 ++ encodeText s
  | .list items => encodeTag 6 ++ encodeWord items.length ++ encodeAll items

/-- The stored forms of several values, one after the other. -/
def encodeAll : List Value → Bytes
  | [] => []
  | item :: rest => encode item ++ encodeAll rest

end

/-- The first sixteen bytes of the digest of a value's stored form. Values of different
variants differ in what is hashed. -/
def hash (value : Value) : Bytes := (Digest.sha256 value.encode).take 16

/-- Why a stored form cannot be read. -/
inductive DecodeFault where
  /-- A number breaks off. -/
  | brokenNumber
  /-- A text breaks off. -/
  | brokenText
  | badBool (byte : UInt8)
  | badVariant (tag : Nat)
  | badUtf8
  | badTime
  | longDuration
  deriving DecidableEq, Repr

/-- The text of a fault. -/
def DecodeFault.message : DecodeFault → String
  | .brokenNumber => "io error: unexpected end of file"
  | .brokenText => "io error: "
  | .badBool byte =>
    "invalid u8 while decoding bool, expected 0 or 1, found " ++ toString byte.toNat
  | .badVariant tag =>
    "invalid value: integer \x60" ++ toString tag ++ "\x60, expected variant index 0 <= i < 7"
  | .badUtf8 => "string is not valid utf8"
  | .badTime => "input contains invalid characters"
  | .longDuration => "overflow deserializing Duration"

/-- Reads from the front of a byte string and leaves the bytes after it. -/
abbrev Decoder := StateT Bytes (Except DecodeFault)

/-- Reads a number of fixed width, least significant byte first. -/
def decodeNumber (width : Nat) : Decoder Nat := fun bytes =>
  if bytes.length < width then .error .brokenNumber
  else .ok (Bytes.littleEndianValue (bytes.take width), bytes.drop width)

/-- Reads the UTF-8 bytes of a text of a given length. -/
def decodeChars (length : Nat) : Decoder String := fun bytes =>
  if bytes.length < length then .error .brokenText
  else
    match Text.Utf8.decode? (bytes.take length) with
    | some s => .ok (s, bytes.drop length)
    | none => .error .badUtf8

/-- Reads a text after its length. -/
def decodeText : Decoder String := do decodeChars (← decodeNumber 8)

/-- Reads a truth value. -/
def decodeBool : Decoder Bool
  | [] => .error .brokenNumber
  | b :: rest => if b ≤ 1 then .ok (b == 1, rest) else .error (.badBool b)

/-- Reads an instant from its text. -/
def decodeTime : Decoder Instant := do
  match Instant.ofStored? (← decodeText) with
  | some t => return t
  | none => throw .badTime

/-- Reads a span; nanoseconds of a second or more carry over. -/
def decodeSpan : Decoder Span := do
  let seconds ← decodeNumber 8
  let nanos ← decodeNumber 4
  let total := seconds + nanos / 1000000000
  if total < 0x10000000000000000 then
    return ⟨.ofNat total, nanos % 1000000000, Nat.mod_lt _ (by decide)⟩
  else throw .longDuration

mutual

/-- Reads a value. Every value takes bytes, so that their number bounds the depth. -/
def decodeWith : Nat → Decoder Value
  | 0 => throw .brokenNumber
  | fuel + 1 => do
    match ← decodeNumber 4 with
    | 0 => return .bool (← decodeBool)
    | 1 => return .int (.ofNat (← decodeNumber 8))
    | 2 => return .float ⟨.ofNat (← decodeNumber 8)⟩
    | 3 => return .time (← decodeTime)
    | 4 => return .duration (← decodeSpan)
    | 5 => return .text (← decodeText)
    | 6 => return .list (← decodeAllWith fuel (← decodeNumber 8))
    | tag => throw (.badVariant tag)

/-- Reads `count` values. -/
def decodeAllWith : Nat → Nat → Decoder (List Value)
  | _, 0 => return []
  | 0, _ + 1 => throw .brokenNumber
  | fuel + 1, count + 1 => do
    let item ← decodeWith fuel
    let items ← decodeAllWith fuel count
    return item :: items

end

/-- Reads a value from the front of a byte string. -/
def decodeFront : Decoder Value := fun bytes => decodeWith (bytes.length + 1) bytes

/-- The value that a stored form starts with. -/
def decode (bytes : Bytes) : Outcome Value :=
  match decodeFront bytes with
  | .ok (value, _) => .ok value
  | .error fault => .error (.malformedValue fault.message)

end SiteIndex.Value
