import SiteIndex.Store.Driver

/-!
# Write buffer

A buffer in front of a driver. Writes collect in an overlay, which reads see first, and go to
the driver as one batch when there are enough of them; after enough writes the driver is
compacted. As long as the driver does not accept a batch the overlay keeps it.
-/

namespace SiteIndex.Store

/-- A driver behind a write buffer. -/
structure Buffered where
  driver : Driver
  /-- The writes that the driver does not have yet; nothing stands for a deletion. -/
  pending : OrderedMap (Option Bytes) := ∅
  /-- The number of writes that reached the driver since it was compacted. -/
  sinceCompaction : Nat := 0
  /-- How many writes make a batch. -/
  batchSize : Nat
  /-- After how many writes the driver is compacted; 0 for never. -/
  compactEvery : Nat

namespace Buffered

/-- An empty buffer; a batch has at least one write. -/
def make (driver : Driver) (batchSize compactEvery : Nat) : Buffered :=
  { driver, batchSize := max batchSize 1, compactEvery }

/-- A pending write as a change. -/
def toOp : Bytes × Option Bytes → BatchOp
  | (key, some value) => .set key value
  | (key, none) => .delete key

/-- The pending writes in the order of their keys. -/
def ops (b : Buffered) : List BatchOp := b.pending.entries.map toOp

/-- Compacts the driver if enough writes have reached it. -/
def compactIfDue (b : Buffered) : Buffered :=
  if 0 < b.compactEvery ∧ b.compactEvery ≤ b.sinceCompaction then
    { b with driver := b.driver.compact, sinceCompaction := 0 }
  else b

/-- Hands the pending writes to the driver as one batch. -/
def drain (b : Buffered) : Outcome Unit × Buffered :=
  if b.pending.isEmpty then (.ok (), b)
  else
    match b.driver.writeBatch b.ops with
    | (.error failure, driver) => (.error failure, { b with driver })
    | (.ok (), driver) =>
      (.ok (), compactIfDue
        { b with
          driver
          pending := ∅
          sinceCompaction := b.sinceCompaction + b.pending.size })

/-- Takes a write into the buffer and drains the buffer when it is full. -/
def stage (b : Buffered) (key : Bytes) (value : Option Bytes) : Outcome Unit × Buffered :=
  let b := { b with pending := b.pending.insert key value }
  if b.batchSize ≤ b.pending.size then b.drain else (.ok (), b)

/-- The value under a key, in the buffer or else in the driver. -/
def get (b : Buffered) (key : Bytes) : Outcome Bytes :=
  match b.pending.get? key with
  | some (some value) => .ok value
  | some none => .error (.missingKey key)
  | none => b.driver.get key

/-- Lays a pending write over a map. -/
def overlay (m : OrderedMap Bytes) (entry : Bytes × Option Bytes) : OrderedMap Bytes :=
  (toOp entry).apply m

/-- All entries whose key starts with a prefix, in the order of the keys. -/
def scan (b : Buffered) (front : Bytes) : OrderedMap Bytes :=
  (b.pending.scanRange front).entries.foldl overlay (b.driver.scan front)

/-- Makes one change. -/
def apply (b : Buffered) : BatchOp → Outcome Unit × Buffered
  | .set key value => b.stage key (some value)
  | .delete key => b.stage key none

/-- Makes changes one by one up to the first that fails. -/
def writeBatch (b : Buffered) : List BatchOp → Outcome Unit × Buffered
  | [] => (.ok (), b)
  | op :: rest =>
    match b.apply op with
    | (.ok (), b) => b.writeBatch rest
    | (.error failure, b) => (.error failure, b)

/-- Drains the buffer. -/
def flush (b : Buffered) : Outcome Unit × Buffered := b.drain

/-- Drains the buffer and compacts the driver. -/
def compact (b : Buffered) : Outcome Unit × Buffered :=
  match b.drain with
  | (.ok (), b) => (.ok (), { b with driver := b.driver.compact, sinceCompaction := 0 })
  | (.error failure, b) => (.error failure, b)

/-- Ends the buffer: drains it, whatever comes of it, and leaves the driver. -/
def close (b : Buffered) : Driver := b.drain.2.driver

end Buffered

end SiteIndex.Store
