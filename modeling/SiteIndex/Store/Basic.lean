import SiteIndex.Action
import SiteIndex.Store.Buffered

/-!
# Stores

A store is a driver, with or without a write buffer in front. The operations are actions that
carry the store along: an action that fails keeps what it has changed so far.
-/

namespace SiteIndex

/-- A driver, with or without a write buffer. -/
inductive Store where
  | plain (driver : Store.Driver)
  | buffered (buffer : Store.Buffered)

namespace Store

/-- The driver that the store ends in. -/
def driver : Store → Driver
  | plain d => d
  | buffered b => b.driver

/-- The name of the store is that of its driver. -/
def name (s : Store) : String := s.driver.name

/-- The value under a key. -/
def read (s : Store) (key : Bytes) : Outcome Bytes :=
  match s with
  | plain d => d.get key
  | buffered b => b.get key

/-- All entries whose key starts with a prefix, in the order of the keys. -/
def entriesFrom (s : Store) (front : Bytes) : List (Bytes × Bytes) :=
  match s with
  | plain d => (d.scan front).entries
  | buffered b => (b.scan front).entries

/-- Puts a changed driver back. -/
def withPlain {α : Type} (result : α × Driver) : α × Store := (result.1, .plain result.2)

/-- Puts a changed buffer back. -/
def withBuffered {α : Type} (result : α × Buffered) : α × Store := (result.1, .buffered result.2)

/-- Makes one change. -/
def apply (op : BatchOp) : Action Store Unit := .ofFunction fun
  | plain d => withPlain (d.apply op)
  | buffered b => withBuffered (b.apply op)

/-- The value under a key. -/
def get (key : Bytes) : Action Store Bytes := .ofFunction fun s => (s.read key, s)

/-- The value under a key, or nothing if there is no entry. -/
def get? (key : Bytes) : Action Store (Option Bytes) := .ofFunction fun s =>
  match s.read key with
  | .ok value => (.ok (some value), s)
  | .error failure => (if failure.isNotFound then .ok none else .error failure, s)

/-- Puts a value under a key. -/
def set (key value : Bytes) : Action Store Unit := apply (.set key value)

/-- Takes away the entry under a key. -/
def delete (key : Bytes) : Action Store Unit := apply (.delete key)

/-- All entries whose key starts with a prefix, in the order of the keys. -/
def scan (front : Bytes) : Action Store (List (Bytes × Bytes)) := .inspect (·.entriesFrom front)

/-- Makes several changes: a driver all or none, a buffer one by one. -/
def writeBatch (ops : List BatchOp) : Action Store Unit := .ofFunction fun
  | plain d => withPlain (d.writeBatch ops)
  | buffered b => withBuffered (b.writeBatch ops)

/-- Sees to it that the driver has every write. -/
def flush : Action Store Unit := .ofFunction fun
  | plain d => (.ok (), .plain d)
  | buffered b => withBuffered b.flush

/-- Reclaims the space of overwritten entries. -/
def compact : Action Store Unit := .ofFunction fun
  | plain d => (.ok (), .plain d.compact)
  | buffered b => withBuffered b.compact

/-- The driver that is left when the store is closed. -/
def close : Store → Driver
  | plain d => d
  | buffered b => b.close

end Store

end SiteIndex
