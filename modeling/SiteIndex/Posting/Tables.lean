import SiteIndex.Posting.List
import SiteIndex.Store.Basic
import SiteIndex.Value.Encoding

/-!
# Posting tables

The tables of one namespace of a store: the numbers of the stubs, the postings of the tokens,
the summaries, and for each attribute its values with their postings. A value has a slot of
its attribute, found by the hash of the value; numbers of stubs and slots are handed out in
order and not again before the namespace is cleared.
-/

namespace SiteIndex.Posting

open Store (Namespace)

/-- A value of an attribute with the stubs that carry it. -/
structure ValuePostings where
  slot : UInt32
  value : Value
  postings : PostingList
  deriving DecidableEq

namespace Tables

variable (ns : Namespace)

/-- A stored number, if there is one. -/
def readNumber? (key : Bytes) : Action Store (Option UInt32) := do
  match ← Store.get? key with
  | some bytes => return some (← Store.Key.decodeNumber bytes)
  | none => return none

/-- A stored counter; one that is not there stands at zero. -/
def readCounter (key : Bytes) : Action Store UInt32 := do
  return (← readNumber? key).getD 0

/-- Stores a number. -/
def writeNumber (key : Bytes) (n : UInt32) : Action Store Unit :=
  Store.set key (Store.Key.encodeNumber n)

/-- The number of a shasum, if it has one. -/
def stubIndex? (shasum : String) : Action Store (Option UInt32) :=
  readNumber? (Store.Key.stubIndex ns shasum)

/-- The number of a shasum, the next free one if it has none yet. -/
def ensureStub (shasum : String) : Action Store UInt32 := do
  match ← stubIndex? ns shasum with
  | some index => return index
  | none =>
    let index ← readCounter (Store.Key.nextStub ns)
    writeNumber (Store.Key.stubIndex ns shasum) index
    Store.set (Store.Key.stubShasum ns index) (Text.Utf8.encode shasum)
    writeNumber (Store.Key.nextStub ns) (index + 1)
    return index

/-- Takes the number of a shasum away; a later one will be new. -/
def forgetStub (shasum : String) : Action Store (Option UInt32) := do
  match ← stubIndex? ns shasum with
  | none => return none
  | some index =>
    Store.delete (Store.Key.stubIndex ns shasum)
    Store.delete (Store.Key.stubShasum ns index)
    return some index

/-- Deletes every entry of the namespace, counters too, and returns how many there were. -/
def clear : Action Store Nat := do
  let entries ← Store.scan (Store.Key.namespacePrefix ns)
  Store.writeBatch (entries.map fun e => .delete e.1)
  return entries.length

/-- The shasum of a number. -/
def shasum (index : UInt32) : Action Store String := do
  return Text.Utf8.decodeLossy (← Store.get (Store.Key.stubShasum ns index))

/-- The shasums of several numbers. -/
def shasums (indices : List UInt32) : Action Store (List String) := indices.mapM (shasum ns)

/-- The postings under a key; there are none without an entry. -/
def readPostings (key : Bytes) : Action Store PostingList := do
  match ← Store.get? key with
  | some blob => return (← PostingList.decode blob)
  | none => return {}

/-- Stores postings; an empty list has no entry. -/
def writePostings (key : Bytes) (postings : PostingList) : Action Store Unit := do
  if postings.stubs.isEmpty then Store.delete key
  else Store.set key (← postings.encode)

/-- The postings of a token. -/
def tokenPostings (token : String) : Action Store PostingList := do
  readPostings (← Store.Key.token ns token)

/-- Posts a stub under a token; says whether it was not posted before. -/
def addToken (token : String) (stub : UInt32) : Action Store Bool := do
  let key ← Store.Key.token ns token
  let (added, postings) := (← readPostings key).insert stub
  if added then writePostings key postings
  return added

/-- Takes a stub away from a token; says whether it was posted. -/
def removeToken (token : String) (stub : UInt32) : Action Store Bool := do
  let key ← Store.Key.token ns token
  let (removed, postings) := (← readPostings key).remove stub
  if removed then writePostings key postings
  return removed

/-- All tokens, in the order of their bytes. -/
def tokens : Action Store (List String) := do
  let front := Store.Key.tablePrefix ns .token
  (← Store.scan front).mapM fun e => Action.ofOutcome (Store.Key.decodeName e.1 front)

/-- The token of an entry, if the stub is posted under it. -/
def tokenOf? (front : Bytes) (stub : UInt32) (entry : Bytes × Bytes) : Outcome (Option String) := do
  if (← PostingList.decode entry.2).contains stub then
    return some (← Store.Key.decodeName entry.1 front)
  else return none

/-- The tokens under which a stub is posted. -/
def tokensOf (stub : UInt32) : Action Store (List String) := do
  let front := Store.Key.tablePrefix ns .token
  let found ← (← Store.scan front).mapM fun e => Action.ofOutcome (tokenOf? front stub e)
  return found.filterMap id

/-- Stores the summary of a shasum. -/
def setSummary (shasum : String) (summary : Bytes) : Action Store Unit :=
  Store.set (Store.Key.summary ns shasum) summary

/-- The summary of a shasum, if it has one. -/
def summary? (shasum : String) : Action Store (Option Bytes) :=
  Store.get? (Store.Key.summary ns shasum)

/-- Takes the summary of a shasum away. -/
def removeSummary (shasum : String) : Action Store Unit :=
  Store.delete (Store.Key.summary ns shasum)

/-- The slot of a value, the next free one of the attribute if it has none yet. -/
def ensureSlot (name : String) (value : Value) : Action Store UInt32 := do
  let slotKey ← Store.Key.valueSlot ns name value.hash
  match ← readNumber? slotKey with
  | some slot => return slot
  | none =>
    let counter ← Store.Key.nextSlot ns name
    let slot ← readCounter counter
    writeNumber slotKey slot
    Store.set (← Store.Key.slotValue ns name slot) value.encode
    writeNumber counter (slot + 1)
    return slot

/-- Posts a stub under a value of an attribute; says whether it was not posted before. -/
def addValue (name : String) (value : Value) (stub : UInt32) : Action Store Bool := do
  let slot ← ensureSlot ns name value
  let key ← Store.Key.slotPostings ns name slot
  let (added, postings) := (← readPostings key).insert stub
  if added then writePostings key postings
  return added

/-- Takes a stub away from a value of an attribute; says whether it was posted. A value that
has no stub left loses its slot. -/
def removeValue (name : String) (value : Value) (stub : UInt32) : Action Store Bool := do
  let slotKey ← Store.Key.valueSlot ns name value.hash
  match ← readNumber? slotKey with
  | none => return false
  | some slot =>
    let key ← Store.Key.slotPostings ns name slot
    let (removed, postings) := (← readPostings key).remove stub
    if removed then
      if postings.stubs.isEmpty then
        Store.delete key
        Store.delete (← Store.Key.slotValue ns name slot)
        Store.delete slotKey
      else writePostings key postings
    return removed

/-- The postings of a slot among entries in the order of their slots, and the entries from
there on. Entries of lower slots have no value and are passed over. -/
def takePostings (front : Bytes) (slot : UInt32) :
    List (Bytes × Bytes) → Outcome (PostingList × List (Bytes × Bytes))
  | [] => .ok ({}, [])
  | entry :: rest => do
    let other ← Store.Key.decodeTrailing entry.1 front
    if other < slot then takePostings front slot rest
    else if other = slot then return (← PostingList.decode entry.2, rest)
    else return ({}, entry :: rest)

/-- Joins stored values with their postings, both in the order of their slots. A value without
postings is left out. -/
def join (valueFront postingFront : Bytes) :
    List (Bytes × Bytes) → List (Bytes × Bytes) → Outcome (List ValuePostings)
  | [], _ => .ok []
  | entry :: rest, postings => do
    let slot ← Store.Key.decodeTrailing entry.1 valueFront
    let value ← Value.decode entry.2
    let (list, postings) ← takePostings postingFront slot postings
    let others ← join valueFront postingFront rest postings
    return if list.stubs.isEmpty then others else ⟨slot, value, list⟩ :: others

/-- The values of an attribute that some stub carries, in the order of their slots, which is
the order in which they were first seen. -/
def values (name : String) : Action Store (List ValuePostings) := do
  let valueFront ← Store.Key.attributePrefix ns .slotValue name
  let postingFront ← Store.Key.attributePrefix ns .slotPostings name
  let postings ← Store.scan postingFront
  let stored ← Store.scan valueFront
  join valueFront postingFront stored postings

/-- The attributes that ever had a value. -/
def attributes : Action Store (List String) := do
  let front := Store.Key.tablePrefix ns .nextSlot
  (← Store.scan front).mapM fun e => Action.ofOutcome (Store.Key.decodeName e.1 front)

end Tables

end SiteIndex.Posting
