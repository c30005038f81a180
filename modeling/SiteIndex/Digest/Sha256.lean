import SiteIndex.Bytes

/-!
# SHA-256

The 256-bit secure hash. A message is padded to whole blocks of sixty-four bytes
(`pad`), each block is expanded to sixty-four words (`schedule`), and the words are mixed into
eight state words (`compress`). The digest is the final state, most significant byte first.
-/

namespace SiteIndex.Digest

/-- The eight state words. -/
structure State where
  a : UInt32
  b : UInt32
  c : UInt32
  d : UInt32
  e : UInt32
  f : UInt32
  g : UInt32
  h : UInt32

/-- The state before the first block. -/
def initial : State :=
  ⟨0x6a09e667, 0xbb67ae85, 0x3c6ef372, 0xa54ff53a, 0x510e527f, 0x9b05688c, 0x1f83d9ab, 0x5be0cd19⟩

/-- The word that each of the sixty-four rounds adds. -/
def roundConstants : List UInt32 :=
  [0x428a2f98, 0x71374491, 0xb5c0fbcf, 0xe9b5dba5, 0x3956c25b, 0x59f111f1, 0x923f82a4, 0xab1c5ed5,
   0xd807aa98, 0x12835b01, 0x243185be, 0x550c7dc3, 0x72be5d74, 0x80deb1fe, 0x9bdc06a7, 0xc19bf174,
   0xe49b69c1, 0xefbe4786, 0x0fc19dc6, 0x240ca1cc, 0x2de92c6f, 0x4a7484aa, 0x5cb0a9dc, 0x76f988da,
   0x983e5152, 0xa831c66d, 0xb00327c8, 0xbf597fc7, 0xc6e00bf3, 0xd5a79147, 0x06ca6351, 0x14292967,
   0x27b70a85, 0x2e1b2138, 0x4d2c6dfc, 0x53380d13, 0x650a7354, 0x766a0abb, 0x81c2c92e, 0x92722c85,
   0xa2bfe8a1, 0xa81a664b, 0xc24b8b70, 0xc76c51a3, 0xd192e819, 0xd6990624, 0xf40e3585, 0x106aa070,
   0x19a4c116, 0x1e376c08, 0x2748774c, 0x34b0bcb5, 0x391c0cb3, 0x4ed8aa4a, 0x5b9cca4f, 0x682e6ff3,
   0x748f82ee, 0x78a5636f, 0x84c87814, 0x8cc70208, 0x90befffa, 0xa4506ceb, 0xbef9a3f7, 0xc67178f2]

/-- Rotation to the right. -/
def rotate (x n : UInt32) : UInt32 := (x >>> n) ||| (x <<< (32 - n))

/-- The padded message: a one bit, zeros up to eight bytes short of a whole block, and the
length in bits. -/
def pad (message : Bytes) : Bytes :=
  let length := message.length
  message ++ 0x80 :: List.replicate ((119 - length % 64) % 64) 0
    ++ Bytes.bigEndian 8 (8 * length)

/-- Cuts a padded message into words, most significant byte first. -/
def toWords : Bytes → List UInt32
  | a :: b :: c :: d :: rest =>
    (a.toUInt32 <<< 24 ||| b.toUInt32 <<< 16 ||| c.toUInt32 <<< 8 ||| d.toUInt32) :: toWords rest
  | _ => []

/-- The word that follows sixteen words of a schedule. -/
def nextWord (w0 w1 w9 w14 : UInt32) : UInt32 :=
  let small := rotate w1 7 ^^^ rotate w1 18 ^^^ (w1 >>> 3)
  let large := rotate w14 17 ^^^ rotate w14 19 ^^^ (w14 >>> 10)
  w0 + small + w9 + large

/-- Extends a schedule, of which the last sixteen words are given, by `count` words. -/
def extendWords : Nat → List UInt32 → List UInt32
  | 0, window => window
  | count + 1, window =>
    match window with
    | w0 :: rest =>
      let word := nextWord w0 (rest.getD 0 0) (rest.getD 8 0) (rest.getD 13 0)
      w0 :: extendWords count (rest ++ [word])
    | [] => []

/-- The sixty-four words of a block of sixteen. -/
def schedule (block : List UInt32) : List UInt32 := extendWords 48 block

/-- One round: `k` is the round constant and `w` the word of the schedule. -/
def round (s : State) (k w : UInt32) : State :=
  let sum1 := rotate s.e 6 ^^^ rotate s.e 11 ^^^ rotate s.e 25
  let choice := (s.e &&& s.f) ^^^ (~~~s.e &&& s.g)
  let temp1 := s.h + sum1 + choice + k + w
  let sum0 := rotate s.a 2 ^^^ rotate s.a 13 ^^^ rotate s.a 22
  let majority := (s.a &&& s.b) ^^^ (s.a &&& s.c) ^^^ (s.b &&& s.c)
  ⟨temp1 + sum0 + majority, s.a, s.b, s.c, s.d + temp1, s.e, s.f, s.g⟩

/-- Mixes a block into the state. -/
def compress (s : State) (block : List UInt32) : State :=
  let t := (roundConstants.zip (schedule block)).foldl (fun t kw => round t kw.1 kw.2) s
  ⟨s.a + t.a, s.b + t.b, s.c + t.c, s.d + t.d, s.e + t.e, s.f + t.f, s.g + t.g, s.h + t.h⟩

/-- Mixes `count` blocks of sixteen words each into the state. -/
def absorb : Nat → State → List UInt32 → State
  | 0, s, _ => s
  | count + 1, s, words => absorb count (compress s (words.take 16)) (words.drop 16)

/-- The thirty-two bytes of a state. -/
def State.bytes (s : State) : Bytes :=
  [s.a, s.b, s.c, s.d, s.e, s.f, s.g, s.h].flatMap fun w => Bytes.bigEndian 4 w.toNat

/-- The SHA-256 digest of a message. -/
def sha256 (message : Bytes) : Bytes :=
  let words := toWords (pad message)
  (absorb (words.length / 16) initial words).bytes

end SiteIndex.Digest
