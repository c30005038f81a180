import Mathlib.Logic.Function.Basic
import SiteIndex.Proofs.Posting.Cells

/-!
# The posting tables as operations on fields

Each operation of the posting tables is a function on the fields of its namespace
(`Fields.ensureStub` and its companions), and the operation on a store does what the function
does on the fields that the store stands for (`takes_ensureStub` and its companions). A name that
no key can hold is refused before anything is touched.
-/

namespace SiteIndex.Posting

open Store (Namespace OrderedMap)
open Store.Key (encodeNumber isName)
open SiteIndex.Action (Takes)

/-! ## Functions on fields -/

namespace Fields

variable (f : Fields)

/-- The next free number of the shasums. -/
def nextStub : UInt32 := (f .nextStub).getD 0

/-- A counter that is set stands there. -/
@[simp] theorem nextStub_put (n : UInt32) : (f.put .nextStub (some n)).nextStub = n := by
  rw [nextStub, put_self]
  rfl

/-- The next free slot of an attribute. -/
def nextSlot (name : Name) : UInt32 := (f (.nextSlot name)).getD 0

/-- The stubs that are posted under a heading. -/
def stubs (heading : Heading) : StubSet := (f (.postings heading)).getD ∅

/-- What is posted under a heading is in its entry. -/
theorem mem_stubs_iff {f : Fields} {heading : Heading} {stub : UInt32} :
    stub ∈ f.stubs heading ↔ ∃ stubs, f (.postings heading) = some stubs ∧ stub ∈ stubs := by
  rw [Fields.stubs]
  cases f (.postings heading) with
  | none => exact ⟨fun h => absurd h StubSet.not_mem_empty, nofun⟩
  | some stubs => exact ⟨fun h => ⟨stubs, rfl, h⟩, fun ⟨_, heq, h⟩ => Option.some.inj heq ▸ h⟩

/-- The fields with other stubs under a heading; without stubs there is no entry. -/
def putStubs (heading : Heading) (stubs : StubSet) : Fields :=
  f.put (.postings heading) (if stubs = ∅ then none else some stubs)

/-- The number of a shasum, the next free one if it has none yet. -/
def ensureStub (shasum : String) : UInt32 × Fields :=
  match f (.stubIndex shasum) with
  | some index => (index, f)
  | none =>
    (f.nextStub, ((f.put (.stubIndex shasum) (some f.nextStub)).put
      (.stubShasum f.nextStub) (some shasum)).put .nextStub (some (f.nextStub + 1)))

/-- Takes the number of a shasum away. -/
def forgetStub (shasum : String) : Option UInt32 × Fields :=
  match f (.stubIndex shasum) with
  | none => (none, f)
  | some index =>
    (some index, (f.put (.stubIndex shasum) none).put (.stubShasum index) none)

/-- Posts a stub under a heading. -/
def post (heading : Heading) (stub : UInt32) : Bool × Fields :=
  if (f.stubs heading).contains stub then (false, f)
  else (true, f.putStubs heading ((f.stubs heading).insert stub))

/-- Takes a stub away from a heading. -/
def unpost (heading : Heading) (stub : UInt32) : Bool × Fields :=
  if (f.stubs heading).contains stub then
    (true, f.putStubs heading ((f.stubs heading).erase stub))
  else (false, f)

/-- Posting changes the postings alone. -/
theorem post_of_ne {heading : Heading} {c : Cell} (h : c ≠ .postings heading) (stub : UInt32) :
    (f.post heading stub).2 c = f c := by
  unfold post putStubs
  split
  · rfl
  · exact f.put_of_ne h _

/-- Taking a stub away changes the postings alone. -/
theorem unpost_of_ne {heading : Heading} {c : Cell} (h : c ≠ .postings heading) (stub : UInt32) :
    (f.unpost heading stub).2 c = f c := by
  unfold unpost putStubs
  split
  · exact f.put_of_ne h _
  · rfl

/-- The slot of a value, the next free one of the attribute if it has none yet. -/
def ensureSlot (name : Name) (value : Value) : UInt32 × Fields :=
  match f (.valueSlot name value.hash) with
  | some slot => (slot, f)
  | none =>
    (f.nextSlot name, ((f.put (.valueSlot name value.hash) (some (f.nextSlot name))).put
      (.slotValue name (f.nextSlot name)) (some value)).put
      (.nextSlot name) (some (f.nextSlot name + 1)))

/-- Posts a stub under a value of an attribute. -/
def addValue (name : Name) (value : Value) (stub : UInt32) : Bool × Fields :=
  (f.ensureSlot name value).2.post (.slot name (f.ensureSlot name value).1) stub

/-- The fields without a slot and its value. -/
def dropSlot (name : Name) (value : Value) (slot : UInt32) : Fields :=
  ((f.put (.postings (.slot name slot)) none).put (.slotValue name slot) none).put
    (.valueSlot name value.hash) none

/-- Takes a stub away from a value of an attribute; the last stub takes the slot along. -/
def removeValue (name : Name) (value : Value) (stub : UInt32) : Bool × Fields :=
  match f (.valueSlot name value.hash) with
  | none => (false, f)
  | some slot =>
    if (f.stubs (.slot name slot)).contains stub ∧ (f.stubs (.slot name slot)).erase stub = ∅ then
      (true, f.dropSlot name value slot)
    else f.unpost (.slot name slot) stub

/-- Taking a stub away from a value changes nothing if the value has no slot. A slot goes with its
last stub, and otherwise loses the stub. -/
theorem removeValue_cases (name : Name) (value : Value) (stub : UInt32) :
    (f.removeValue name value stub).2 = f ∨ ∃ slot, f (.valueSlot name value.hash) = some slot ∧
      ((f.removeValue name value stub).2 = f.dropSlot name value slot ∨
        (((f.stubs (.slot name slot)).contains stub = true →
            (f.stubs (.slot name slot)).erase stub ≠ ∅) ∧
          (f.removeValue name value stub).2 = (f.unpost (.slot name slot) stub).2)) := by
  unfold removeValue
  cases f (.valueSlot name value.hash) with
  | none => exact .inl rfl
  | some slot =>
      refine .inr ⟨slot, rfl, ?_⟩
      dsimp only
      split
      case isTrue => exact .inl rfl
      case isFalse hmore => exact .inr ⟨fun hmem hlast => hmore ⟨hmem, hlast⟩, rfl⟩

end Fields

/-! ## Numbers and postings -/

section Parts

variable {R : Store → Fields → Prop} {f : Fields} {key : Bytes}

/-- A stored number is read. -/
theorem takes_readNumber? {n : Option UInt32}
    (h : Takes R (Store.get? key) f (.ok (n.map encodeNumber)) f) :
    Takes R (Tables.readNumber? key) f (.ok n) f := by
  refine Takes.bind h ?_
  cases n with
  | none => exact Takes.pure none
  | some n => exact Takes.lift_bind (decodeNumber_encodeNumber n) (Takes.pure (some n))

/-- A stored counter is read. -/
theorem takes_readCounter {n : Option UInt32}
    (h : Takes R (Store.get? key) f (.ok (n.map encodeNumber)) f) :
    Takes R (Tables.readCounter key) f (.ok (n.getD 0)) f :=
  Takes.bind (takes_readNumber? h) (Takes.pure _)

/-- Stored stubs are read. -/
theorem takes_readPostings_of_get? {heading : Heading}
    (h : Takes R (Store.get? key) f (.ok ((f (.postings heading)).map StubSet.blob)) f) :
    Takes R (Tables.readPostings key) f (.ok ⟨(f.stubs heading).toList⟩) f := by
  refine Takes.bind h ?_
  rw [Fields.stubs]
  cases f (.postings heading) with
  | none => exact Takes.pure (⟨[]⟩ : PostingList)
  | some stubs =>
      have hdecode := PostingList.decode_blob stubs
      exact hdecode ▸ Takes.lift (PostingList.decode stubs.blob)

end Parts

section Postings

variable {t : Namespace → Fields} {ns : Namespace} {f : Fields}

/-- The stubs under a heading are read. -/
theorem takes_readPostings (heading : Heading) :
    Takes (Shows t ns) (Tables.readPostings ((Cell.postings heading).key ns)) f
      (.ok ⟨(f.stubs heading).toList⟩) f :=
  takes_readPostings_of_get? (takes_get? (.postings heading))

/-- A set has no members exactly when its list has none. -/
theorem isEmpty_toList (s : StubSet) : s.toList.isEmpty = decide (s = ∅) := by
  rw [Bool.eq_iff_iff, List.isEmpty_iff, decide_eq_true_eq, StubSet.toList_eq_nil_iff]

/-- The stubs under a heading are written. -/
theorem takes_writePostings (heading : Heading) (s : StubSet) :
    Takes (Shows t ns) (Tables.writePostings ((Cell.postings heading).key ns) ⟨s.toList⟩) f
      (.ok ()) (f.putStubs heading s) := by
  unfold Tables.writePostings
  rw [isEmpty_toList, Fields.putStubs]
  by_cases h : s = ∅
  · rw [decide_eq_true h, if_pos rfl, if_pos h]
    exact takes_delete (.postings heading)
  · rw [decide_eq_false h, if_neg Bool.false_ne_true, if_neg h]
    exact Takes.lift_bind (PostingList.encode_toList s) (takes_set (.postings heading) s)

/-- Posting under a heading reads the postings, inserts the stub and writes them back. -/
theorem takes_post (heading : Heading) (stub : UInt32) {x : PostingList → Action Store Bool}
    (hx : ∀ p, x p = do
      if (p.insert stub).1 then
        Tables.writePostings ((Cell.postings heading).key ns) (p.insert stub).2
      return (p.insert stub).1) :
    Takes (Shows t ns) (Tables.readPostings ((Cell.postings heading).key ns) >>= x) f
      (.ok (f.post heading stub).1) (f.post heading stub).2 := by
  refine Takes.bind (takes_readPostings heading) ?_
  rw [hx, PostingList.insert_toList, Fields.post]
  cases h : (f.stubs heading).contains stub with
  | true => exact Takes.pure false
  | false => exact Takes.bind (takes_writePostings heading _) (Takes.pure true)

/-- Taking a stub away reads the postings, erases it and writes them back. -/
theorem takes_unpost (heading : Heading) (stub : UInt32) {x : PostingList → Action Store Bool}
    (hx : ∀ p, x p = do
      if (p.remove stub).1 then
        Tables.writePostings ((Cell.postings heading).key ns) (p.remove stub).2
      return (p.remove stub).1) :
    Takes (Shows t ns) (Tables.readPostings ((Cell.postings heading).key ns) >>= x) f
      (.ok (f.unpost heading stub).1) (f.unpost heading stub).2 := by
  refine Takes.bind (takes_readPostings heading) ?_
  rw [hx, PostingList.remove_toList, Fields.unpost]
  cases h : (f.stubs heading).contains stub with
  | true => exact Takes.bind (takes_writePostings heading _) (Takes.pure true)
  | false => exact Takes.pure false

end Postings

/-! ## Operations -/

section Operations

variable {t : Namespace → Fields} {ns : Namespace} {f : Fields}

/-- The number of a shasum is read. -/
theorem takes_stubIndex? (shasum : String) :
    Takes (Shows t ns) (Tables.stubIndex? ns shasum) f (.ok (f (.stubIndex shasum))) f :=
  takes_readNumber? (takes_get? (.stubIndex shasum))

/-- A shasum is given a number. -/
theorem takes_ensureStub (shasum : String) :
    Takes (Shows t ns) (Tables.ensureStub ns shasum) f (.ok (f.ensureStub shasum).1)
      (f.ensureStub shasum).2 := by
  refine Takes.bind (takes_stubIndex? shasum) ?_
  rw [Fields.ensureStub]
  cases f (.stubIndex shasum) with
  | some index => exact Takes.pure index
  | none =>
      refine Takes.bind (takes_readCounter (takes_get? .nextStub)) ?_
      refine Takes.bind (takes_set (.stubIndex shasum) f.nextStub) ?_
      refine Takes.bind (takes_set (.stubShasum f.nextStub) shasum) ?_
      exact Takes.bind (takes_set .nextStub (f.nextStub + 1)) (Takes.pure _)

/-- A shasum loses its number. -/
theorem takes_forgetStub (shasum : String) :
    Takes (Shows t ns) (Tables.forgetStub ns shasum) f (.ok (f.forgetStub shasum).1)
      (f.forgetStub shasum).2 := by
  refine Takes.bind (takes_stubIndex? shasum) ?_
  rw [Fields.forgetStub]
  cases f (.stubIndex shasum) with
  | none => exact Takes.pure none
  | some index =>
      refine Takes.bind (takes_delete (.stubIndex shasum)) ?_
      exact Takes.bind (takes_delete (.stubShasum index)) (Takes.pure _)

/-- The namespace is emptied, and its entries are counted. -/
theorem takes_clear_of_stored {m : OrderedMap Bytes} (hm : Stored m (Function.update t ns f)) :
    Takes (Shows t ns) (Tables.clear ns) f
      (.ok (m.under (Store.Key.namespacePrefix ns)).entries.length) fun _ => none := by
  refine Takes.refine fun m' hm' => ?_
  obtain rfl := hm'.unique hm
  refine ⟨_, Takes.bind (Store.takes_scan _) (Takes.bind (Store.takes_writeBatch _)
    (Takes.pure _)), ?_⟩
  have hclear := hm'.clear ns
  rwa [Function.update_idem] at hclear

/-- The namespace is emptied. -/
theorem takes_clear :
    ∃ count, Takes (Shows t ns) (Tables.clear ns) f (.ok count) fun _ => none := by
  by_cases h : ∃ m, Stored m (Function.update t ns f)
  · obtain ⟨m, hm⟩ := h
    exact ⟨_, takes_clear_of_stored hm⟩
  · refine ⟨0, fun s hs => ?_⟩
    obtain ⟨m, _, hm⟩ := hs
    exact absurd ⟨m, hm⟩ h

/-- The stubs under a token are read. -/
theorem takes_tokenPostings (text : Name) :
    Takes (Shows t ns) (Tables.tokenPostings ns text.1) f
      (.ok ⟨(f.stubs (.token text)).toList⟩) f :=
  Takes.lift_bind (token_eq ns text) (takes_readPostings (.token text))

/-- A stub is posted under a token. -/
theorem takes_addToken (text : Name) (stub : UInt32) :
    Takes (Shows t ns) (Tables.addToken ns text.1 stub) f
      (.ok (f.post (.token text) stub).1) (f.post (.token text) stub).2 :=
  Takes.lift_bind (token_eq ns text) (takes_post (.token text) stub fun _ => rfl)

/-- A stub is taken away from a token. -/
theorem takes_removeToken (text : Name) (stub : UInt32) :
    Takes (Shows t ns) (Tables.removeToken ns text.1 stub) f
      (.ok (f.unpost (.token text) stub).1) (f.unpost (.token text) stub).2 :=
  Takes.lift_bind (token_eq ns text) (takes_unpost (.token text) stub fun _ => rfl)

/-- A value is given a slot. -/
theorem takes_ensureSlot (name : Name) (value : Value) :
    Takes (Shows t ns) (Tables.ensureSlot ns name.1 value) f (.ok (f.ensureSlot name value).1)
      (f.ensureSlot name value).2 := by
  refine Takes.lift_bind (valueSlot_eq ns name value.hash) ?_
  refine Takes.bind (takes_readNumber? (takes_get? (.valueSlot name value.hash))) ?_
  rw [Fields.ensureSlot]
  cases f (.valueSlot name value.hash) with
  | some slot => exact Takes.pure slot
  | none =>
      refine Takes.lift_bind (nextSlot_eq ns name) ?_
      refine Takes.bind (takes_readCounter (takes_get? (.nextSlot name))) ?_
      refine Takes.bind (takes_set (.valueSlot name value.hash) (f.nextSlot name)) ?_
      refine Takes.lift_bind (slotValue_eq ns name (f.nextSlot name)) ?_
      refine Takes.bind (takes_set (.slotValue name (f.nextSlot name)) value) ?_
      exact Takes.bind (takes_set (.nextSlot name) (f.nextSlot name + 1)) (Takes.pure _)

/-- A stub is posted under a value. -/
theorem takes_addValue (name : Name) (value : Value) (stub : UInt32) :
    Takes (Shows t ns) (Tables.addValue ns name.1 value stub) f
      (.ok (f.addValue name value stub).1) (f.addValue name value stub).2 := by
  refine Takes.bind (takes_ensureSlot name value) ?_
  refine Takes.lift_bind (slotPostings_eq ns name _) ?_
  exact takes_post (.slot name _) stub fun _ => rfl

/-- A stub is taken away from a value. -/
theorem takes_removeValue (name : Name) (value : Value) (stub : UInt32) :
    Takes (Shows t ns) (Tables.removeValue ns name.1 value stub) f
      (.ok (f.removeValue name value stub).1) (f.removeValue name value stub).2 := by
  refine Takes.lift_bind (valueSlot_eq ns name value.hash) ?_
  refine Takes.bind (takes_readNumber? (takes_get? (.valueSlot name value.hash))) ?_
  rw [Fields.removeValue]
  cases f (.valueSlot name value.hash) with
  | none => exact Takes.pure false
  | some slot =>
      refine Takes.lift_bind (slotPostings_eq ns name slot) ?_
      refine Takes.bind (takes_readPostings (.slot name slot)) ?_
      rw [PostingList.remove_toList]
      dsimp only
      rw [Fields.unpost]
      cases hmem : (f.stubs (.slot name slot)).contains stub with
      | false => exact Takes.pure false
      | true =>
          rw [if_pos rfl, isEmpty_toList]
          by_cases hlast : (f.stubs (.slot name slot)).erase stub = ∅
          · rw [decide_eq_true hlast, if_pos rfl, if_pos ⟨rfl, hlast⟩]
            refine Takes.bind (takes_delete (.postings (.slot name slot))) ?_
            refine Takes.lift_bind (slotValue_eq ns name slot) ?_
            refine Takes.bind (takes_delete (.slotValue name slot)) ?_
            exact Takes.bind (takes_delete (.valueSlot name value.hash)) (Takes.pure true)
          · rw [decide_eq_false hlast, if_neg Bool.false_ne_true, if_neg fun h => hlast h.2]
            exact Takes.bind (takes_writePostings (.slot name slot) _) (Takes.pure true)

end Operations

/-! ## Names that are none -/

section Invalid

variable {R : Store → Fields → Prop} {ns : Namespace} {f : Fields} {name : String}

/-- No key is made from a name that is none. -/
theorem attributePrefix_error (h : ¬ isName name = true) (table : Store.Table) :
    Store.Key.attributePrefix ns table name = .error (.invalidName name) := by
  rw [Store.Key.attributePrefix, checkName_error h]
  rfl

/-- No key of a value is made from a name that is none. -/
theorem valueSlot_error (h : ¬ isName name = true) (hash : Bytes) :
    Store.Key.valueSlot ns name hash = .error (.invalidName name) := by
  rw [Store.Key.valueSlot, attributePrefix_error h]
  rfl

/-- No key of a token is made from a name that is none. -/
theorem token_error (h : ¬ isName name = true) :
    Store.Key.token ns name = .error (.invalidName name) := by
  rw [Store.Key.token, checkName_error h]
  rfl

/-- No stubs are read under a token that is none. -/
theorem takes_tokenPostings_invalid {ν : Type} {R : Store → ν → Prop} {v : ν}
    (h : ¬ isName name = true) :
    Takes R (Tables.tokenPostings ns name) v (.error (.invalidName name)) v :=
  Takes.lift_bind_error (token_error h)

/-- A stub cannot be posted under a token that is none. -/
theorem takes_addToken_invalid (h : ¬ isName name = true) (stub : UInt32) :
    Takes R (Tables.addToken ns name stub) f (.error (.invalidName name)) f :=
  Takes.lift_bind_error (token_error h)

/-- A stub cannot be taken away from a token that is none. -/
theorem takes_removeToken_invalid (h : ¬ isName name = true) (stub : UInt32) :
    Takes R (Tables.removeToken ns name stub) f (.error (.invalidName name)) f :=
  Takes.lift_bind_error (token_error h)

/-- A stub cannot be posted under an attribute that is none. -/
theorem takes_addValue_invalid (h : ¬ isName name = true) (value : Value) (stub : UInt32) :
    Takes R (Tables.addValue ns name value stub) f (.error (.invalidName name)) f :=
  Takes.bind_error (Takes.lift_bind_error (valueSlot_error h value.hash))

/-- A stub cannot be taken away from an attribute that is none. -/
theorem takes_removeValue_invalid (h : ¬ isName name = true) (value : Value) (stub : UInt32) :
    Takes R (Tables.removeValue ns name value stub) f (.error (.invalidName name)) f :=
  Takes.lift_bind_error (valueSlot_error h value.hash)

/-- No values are read under an attribute that is none. -/
theorem takes_values_invalid {ν : Type} {R : Store → ν → Prop} {v : ν} (h : ¬ isName name = true) :
    Takes R (Tables.values ns name) v (.error (.invalidName name)) v :=
  Takes.lift_bind_error (attributePrefix_error h _)

end Invalid

end SiteIndex.Posting
