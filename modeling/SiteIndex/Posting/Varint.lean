import SiteIndex.Failure

/-!
# Numbers of variable length

A 32-bit number is written seven bits a byte, the lowest first; the high bit of a byte says
that another one follows. `decode` reads one number from the front of a byte string and
`decodeAll` reads numbers up to its end.
-/

namespace SiteIndex.Posting.Varint

/-- The bytes of a number, with at most `more` bytes after the first. -/
def encodeNat : Nat → Nat → Bytes
  | 0, n => [.ofNat n]
  | more + 1, n =>
    if 128 ≤ n then .ofNat (128 + n % 128) :: encodeNat more (n / 128) else [.ofNat n]

/-- The bytes of a 32-bit number; five are always enough. -/
def encode (n : UInt32) : Bytes := encodeNat 4 n.toNat

/-- The bytes of several numbers, one after the other. -/
def encodeAll (numbers : List UInt32) : Bytes := numbers.flatMap encode

/-- Reads on in a number of which `shift` bits are in `value`. The fifth byte holds four bits
and ends the number. -/
def decodeFrom (shift value : Nat) : Bytes → Outcome (Nat × Bytes)
  | [] => .error .varintIncomplete
  | b :: rest =>
    if shift = 28 ∧ 0x0F < b then .error .varintOverflow
    else
      let value := value + b.toNat % 128 * Nat.pow 2 shift
      if b < 128 then .ok (value, rest) else decodeFrom (shift + 7) value rest

/-- The number at the front of a byte string and the bytes after it. -/
def decode (bytes : Bytes) : Outcome (UInt32 × Bytes) :=
  (decodeFrom 0 0 bytes).map fun (n, rest) => (.ofNat n, rest)

/-- Reading a number takes at least one byte. -/
theorem length_lt_of_decodeFrom {shift value n : Nat} {bytes rest : Bytes}
    (h : decodeFrom shift value bytes = .ok (n, rest)) : rest.length < bytes.length := by
  induction bytes generalizing shift value with
  | nil => simp [decodeFrom] at h
  | cons b more ih =>
    unfold decodeFrom at h
    split at h
    · simp at h
    · split at h
      · simp only [Except.ok.injEq, Prod.mk.injEq] at h
        obtain ⟨_, rfl⟩ := h
        simp
      · have := ih h
        simp only [List.length_cons]
        omega

/-- Reading a number leaves fewer bytes. -/
theorem length_lt_of_decode {n : UInt32} {bytes rest : Bytes}
    (h : decode bytes = .ok (n, rest)) : rest.length < bytes.length := by
  unfold decode at h
  match hd : decodeFrom 0 0 bytes with
  | .error _ => simp [hd, Except.map] at h
  | .ok (m, more) =>
    simp only [hd, Except.map, Except.ok.injEq, Prod.mk.injEq] at h
    obtain ⟨_, rfl⟩ := h
    exact length_lt_of_decodeFrom hd

/-- The numbers that make up a byte string. -/
def decodeAll (bytes : Bytes) : Outcome (List UInt32) :=
  if bytes.isEmpty then .ok []
  else
    match _h : decode bytes with
    | .error failure => .error failure
    | .ok (n, rest) => (decodeAll rest).map (n :: ·)
termination_by bytes.length
decreasing_by exact length_lt_of_decode ‹_›

end SiteIndex.Posting.Varint
