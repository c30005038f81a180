import SiteIndex.Posting.Varint

/-!
# Ascending numbers as gaps

A strictly ascending list is stored as its first number and the gaps between neighbours, each
as a number of variable length.
-/

namespace SiteIndex.Posting.Gaps

/-- The gaps of the numbers that follow `previous`. -/
def gapsAfter (previous : UInt32) : List UInt32 → Outcome (List UInt32)
  | [] => .ok []
  | n :: rest =>
    if previous < n then (gapsAfter n rest).map ((n - previous) :: ·)
    else .error (.notAscending n previous)

/-- The first number of an ascending list and its gaps. -/
def gaps : List UInt32 → Outcome (List UInt32)
  | [] => .ok []
  | n :: rest => (gapsAfter n rest).map (n :: ·)

/-- The numbers that follow `previous` at the given gaps. -/
def sumsAfter (previous : UInt32) : List UInt32 → Outcome (List UInt32)
  | [] => .ok []
  | gap :: rest =>
    if previous.toNat + gap.toNat < 0x100000000 then
      (sumsAfter (previous + gap) rest).map ((previous + gap) :: ·)
    else .error .deltaOverflow

/-- The numbers whose first one and gaps are given. -/
def sums : List UInt32 → Outcome (List UInt32)
  | [] => .ok []
  | n :: rest => (sumsAfter n rest).map (n :: ·)

/-- The bytes of a strictly ascending list. -/
def encode (numbers : List UInt32) : Outcome Bytes := (gaps numbers).map Varint.encodeAll

/-- The numbers that a byte string stands for. -/
def decode (bytes : Bytes) : Outcome (List UInt32) := do sums (← Varint.decodeAll bytes)

end SiteIndex.Posting.Gaps
