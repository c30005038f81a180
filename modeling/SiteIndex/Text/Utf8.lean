import SiteIndex.Bytes

/-!
# UTF-8

`Utf8.encode` writes a text as bytes. `Utf8.decode?` reads bytes that are well formed and
nothing else, and `Utf8.decodeLossy` puts the replacement character in place of every longest
front of a character that breaks off.
-/

namespace SiteIndex.Text.Utf8

/-- The bytes of a text. -/
def encodeChars (cs : List Char) : Bytes := cs.flatMap String.utf8EncodeChar

/-- The bytes of a text. -/
def encode (text : String) : Bytes := encodeChars text.toList

/-- A byte that continues a character. -/
def isTail (b : UInt8) : Bool := 0x80 ≤ b && b ≤ 0xBF

/-- The second bytes that may follow the first byte of a character of three bytes. -/
def secondOfThree (first b : UInt8) : Bool :=
  if first = 0xE0 then 0xA0 ≤ b && b ≤ 0xBF
  else if first = 0xED then 0x80 ≤ b && b ≤ 0x9F
  else isTail b

/-- The second bytes that may follow the first byte of a character of four bytes. -/
def secondOfFour (first b : UInt8) : Bool :=
  if first = 0xF0 then 0x90 ≤ b && b ≤ 0xBF
  else if first = 0xF4 then 0x80 ≤ b && b ≤ 0x8F
  else isTail b

/-- Six more bits below a code point. -/
def extend (code : Nat) (b : UInt8) : Nat := code * 64 + b.toNat % 64

/-- The character that starts with `first`, or nothing if it breaks off, and the bytes after
what was read. -/
def decodeChar (first : UInt8) (rest : Bytes) : Option Char × Bytes :=
  if first < 0x80 then (some (.ofNat first.toNat), rest)
  else if 0xC2 ≤ first && first ≤ 0xDF then
    match rest with
    | b :: more =>
      if isTail b then (some (.ofNat (extend (first.toNat % 32) b)), more) else (none, rest)
    | [] => (none, [])
  else if 0xE0 ≤ first && first ≤ 0xEF then
    match rest with
    | [] => (none, [])
    | [b] => (none, if secondOfThree first b then [] else [b])
    | b :: c :: more =>
      if !secondOfThree first b then (none, rest)
      else if isTail c then (some (.ofNat (extend (extend (first.toNat % 16) b) c)), more)
      else (none, c :: more)
  else if 0xF0 ≤ first && first ≤ 0xF4 then
    match rest with
    | [] => (none, [])
    | [b] => (none, if secondOfFour first b then [] else [b])
    | [b, c] =>
      (none, if !secondOfFour first b then [b, c] else if isTail c then [] else [c])
    | b :: c :: d :: more =>
      if !secondOfFour first b then (none, rest)
      else if !isTail c then (none, c :: d :: more)
      else if isTail d then
        (some (.ofNat (extend (extend (extend (first.toNat % 8) b) c) d)), more)
      else (none, d :: more)
  else (none, rest)

/-- Reading a character leaves no more bytes than there were after its first. -/
theorem length_decodeChar_le (first : UInt8) (rest : Bytes) :
    (decodeChar first rest).2.length ≤ rest.length := by
  unfold decodeChar
  split
  · simp
  split
  · split
    · split <;> simp
    · simp
  split
  · split
    · simp
    · split <;> simp
    · split
      · simp
      · split <;> simp only [List.length_cons] <;> omega
  split
  · split
    · simp
    · split <;> simp
    · split
      · simp
      · split <;> simp
    · split
      · simp
      · split
        · simp only [List.length_cons]; omega
        · split <;> simp only [List.length_cons] <;> omega
  · simp

/-- The characters of a byte string, with nothing where a character breaks off. -/
def scan : Bytes → List (Option Char)
  | [] => []
  | first :: rest => (decodeChar first rest).1 :: scan (decodeChar first rest).2
termination_by bytes => bytes.length
decreasing_by
  have := length_decodeChar_le first rest
  simp only [List.length_cons]
  omega

/-- The text of a well-formed byte string. -/
def decode? (bytes : Bytes) : Option String := ((scan bytes).mapM id).map .ofList

/-- The text of a byte string, with the replacement character in place of what is malformed. -/
def decodeLossy (bytes : Bytes) : String := .ofList ((scan bytes).map (·.getD '\uFFFD'))

end SiteIndex.Text.Utf8
