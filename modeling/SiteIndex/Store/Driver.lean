import SiteIndex.Store.OrderedMap

/-!
# Store drivers

A driver keeps the entries of a store in an ordered map. It may be open for reading only, and
it may refuse batches of writes; a batch that it refuses changes nothing.
-/

namespace SiteIndex.Store

/-- Where a driver keeps its entries. -/
inductive BackendKind where
  | memory | redb | sqlite
  deriving DecidableEq, Repr

/-- The name of a backend. -/
def BackendKind.name : BackendKind → String
  | .memory => "memory"
  | .redb => "redb"
  | .sqlite => "sqlite"

/-- The backend keeps its entries in a file. -/
def BackendKind.isFileBacked (b : BackendKind) : Bool := b ≠ .memory

/-- One change of a batch. -/
inductive BatchOp where
  | set (key value : Bytes)
  | delete (key : Bytes)
  deriving DecidableEq, Repr

/-- Applies a change to a map. -/
def BatchOp.apply (m : OrderedMap Bytes) : BatchOp → OrderedMap Bytes
  | .set key value => m.insert key value
  | .delete key => m.erase key

/-- A driver and the entries it keeps. -/
structure Driver where
  /-- The name it gives for itself. -/
  name : String
  backend : BackendKind := .memory
  readOnly : Bool := false
  entries : OrderedMap Bytes := ∅
  /-- Which batches, counted from 0, it refuses. -/
  refuses : Nat → Bool := fun _ => false
  /-- The number of batches asked of it. -/
  batches : Nat := 0
  /-- The number of compactions asked of it. -/
  compactions : Nat := 0

namespace Driver

/-- An empty driver of a backend. -/
def ofBackend (backend : BackendKind) (readOnly : Bool) : Driver :=
  { name := backend.name, backend, readOnly }

/-- The value under a key. -/
def get (d : Driver) (key : Bytes) : Outcome Bytes :=
  match d.entries.get? key with
  | some value => .ok value
  | none => .error (.missingKey key)

/-- All entries whose key starts with a prefix, in the order of the keys. -/
def scan (d : Driver) (front : Bytes) : OrderedMap Bytes :=
  match d.backend with
  | .redb => d.entries.scanWhile front
  | .memory | .sqlite => d.entries.scanRange front

/-- Makes one change. -/
def apply (d : Driver) (op : BatchOp) : Outcome Unit × Driver :=
  if d.readOnly then (.error (.readOnlyStore d.backend.name), d)
  else (.ok (), { d with entries := op.apply d.entries })

/-- Makes all changes of a batch or none of them. -/
def writeBatch (d : Driver) (ops : List BatchOp) : Outcome Unit × Driver :=
  let counted := { d with batches := d.batches + 1 }
  if d.refuses d.batches then (.error (.reported .backend "disk full"), counted)
  else if d.readOnly then (.error (.readOnlyStore d.backend.name), counted)
  else (.ok (), { counted with entries := ops.foldl BatchOp.apply d.entries })

/-- Reclaims the space of overwritten entries. -/
def compact (d : Driver) : Driver := { d with compactions := d.compactions + 1 }

end Driver

end SiteIndex.Store
