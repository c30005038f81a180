import Mathlib.Logic.Function.Basic
import SiteIndex.Proofs.Posting.Tables

/-!
# The posting tables fit together

The tables of a namespace describe each thing from several sides. `Coherent` says that the sides
agree: numbers and shasums are each other's inverse, the three tables of an attribute have the
same slots, every number is below its counter, and nothing is posted under an empty list. Every
operation keeps the tables coherent as long as its counter does not run over
(`Coherent.perform`).
-/

namespace SiteIndex.Posting

open Store (Namespace)
open Store.Key (isName)
open SiteIndex.Action (Takes)

/-- The tables of a namespace describe the same stubs and the same slots. -/
structure Coherent (f : Fields) : Prop where
  /-- Numbers and shasums are each other's inverse. -/
  stub_inverse : ∀ shasum index,
    f (.stubIndex shasum) = some index ↔ f (.stubShasum index) = some shasum
  /-- Numbers of shasums have been handed out. -/
  stub_lt : ∀ shasum index, f (.stubIndex shasum) = some index → index < f.nextStub
  /-- The slot of a hash is the one whose value has the hash. -/
  valueSlot_iff : ∀ name hash slot, f (.valueSlot name hash) = some slot ↔
    ∃ value, f (.slotValue name slot) = some value ∧ value.hash = hash
  /-- The slots with postings are those with a value. -/
  postings_iff : ∀ name slot, (∃ stubs, f (.postings (.slot name slot)) = some stubs) ↔
    ∃ value, f (.slotValue name slot) = some value
  /-- Slots have been handed out. -/
  slot_lt : ∀ name slot value, f (.slotValue name slot) = some value → slot < f.nextSlot name
  /-- Postings are not empty. -/
  postings_ne : ∀ heading stubs, f (.postings heading) = some stubs → stubs ≠ ∅

/-- Numbers below the successor of a number that is not the highest. -/
theorem lt_succ_iff {n k : UInt32} (h : n.toNat + 1 < UInt32.size) :
    k < n + 1 ↔ k < n ∨ k = n := by
  have hsize : UInt32.size = 4294967296 := rfl
  have hone : (1 : UInt32).toNat = 1 := rfl
  rw [UInt32.lt_iff_toNat_lt, UInt32.lt_iff_toNat_lt, ← UInt32.toNat_inj, UInt32.toNat_add, hone]
  omega

/-- The successor of a number that is not the highest. -/
theorem toNat_succ {n : UInt32} (h : n.toNat + 1 < UInt32.size) : (n + 1).toNat = n.toNat + 1 := by
  have hsize : UInt32.size = 4294967296 := rfl
  have hone : (1 : UInt32).toNat = 1 := rfl
  rw [UInt32.toNat_add, hone]
  omega

namespace Coherent

variable {f : Fields}

/-- Empty tables are coherent. -/
theorem empty : Coherent fun _ => none := by
  constructor <;> simp

/-- A new shasum is numbered by the counter. -/
theorem ensureStub (h : Coherent f) (shasum : String)
    (hroom : f (.stubIndex shasum) = none → f.nextStub.toNat + 1 < UInt32.size) :
    Coherent (f.ensureStub shasum).2 := by
  unfold Fields.ensureStub
  cases hindex : f (.stubIndex shasum) with
  | some index => exact h
  | none =>
      have hunused : ∀ other, f (.stubIndex other) ≠ some f.nextStub := by
        intro other hother
        exact UInt32.lt_irrefl _ (h.stub_lt other f.nextStub hother)
      have hfree : f (.stubShasum f.nextStub) = none := by
        refine Option.eq_none_iff_forall_ne_some.2 fun other hother => ?_
        exact hunused other ((h.stub_inverse other _).2 hother)
      have hroom := hroom hindex
      constructor
      case stub_inverse =>
        intro other index
        have hinverse := h.stub_inverse other index
        -- Both tables change in one cell, and no other cell holds the shasum or the number.
        by_cases hother : other = shasum <;> by_cases hnew : index = f.nextStub
        · simp [hother, hnew]
        · subst hother
          simp [hnew, ← hinverse, hindex, Ne.symm hnew]
        · subst hnew
          simp [hother, hunused other, Ne.symm hother]
        · simpa [hother, hnew] using hinverse
      case stub_lt =>
        intro other index hother
        rw [Fields.nextStub_put, lt_succ_iff hroom]
        by_cases heq : other = shasum
        · simp [heq] at hother
          exact .inr hother.symm
        · simp [heq] at hother
          exact .inl (h.stub_lt other index hother)
      case valueSlot_iff => simpa using h.valueSlot_iff
      case postings_iff => simpa using h.postings_iff
      case slot_lt => simpa [Fields.nextSlot] using h.slot_lt
      case postings_ne => simpa using h.postings_ne

/-- A forgotten shasum leaves no number behind. -/
theorem forgetStub (h : Coherent f) (shasum : String) : Coherent (f.forgetStub shasum).2 := by
  unfold Fields.forgetStub
  cases hindex : f (.stubIndex shasum) with
  | none => exact h
  | some index =>
      have hshasum := (h.stub_inverse shasum index).1 hindex
      constructor
      case stub_inverse =>
        intro other k
        have hinverse := h.stub_inverse other k
        by_cases hother : other = shasum <;> by_cases hk : k = index
        · simp [hother, hk]
        · subst hother
          simp [hk, ← hinverse, hindex, Ne.symm hk]
        · subst hk
          simp [hother, hinverse, hshasum, Ne.symm hother]
        · simpa [hother, hk] using hinverse
      case stub_lt =>
        intro other k hk
        by_cases hother : other = shasum
        · simp [hother] at hk
        · simp [hother] at hk
          simpa [Fields.nextStub] using h.stub_lt other k hk
      case valueSlot_iff => simpa using h.valueSlot_iff
      case postings_iff => simpa using h.postings_iff
      case slot_lt => simpa [Fields.nextSlot] using h.slot_lt
      case postings_ne => simpa using h.postings_ne

/-- Stubs may stand under a token and under a slot that has a value. -/
theorem putStubs (h : Coherent f) {heading : Heading} {stubs : StubSet} (hne : stubs ≠ ∅)
    (hslot : ∀ name slot, heading = .slot name slot →
      ∃ value, f (.slotValue name slot) = some value) :
    Coherent (f.putStubs heading stubs) := by
  unfold Fields.putStubs
  rw [if_neg hne]
  constructor
  case stub_inverse => simpa using h.stub_inverse
  case stub_lt => simpa [Fields.nextStub] using h.stub_lt
  case valueSlot_iff => simpa using h.valueSlot_iff
  case postings_iff =>
    intro name slot
    by_cases heq : Heading.slot name slot = heading
    · simpa [heq] using hslot name slot heq.symm
    · simpa [heq] using h.postings_iff name slot
  case slot_lt => simpa [Fields.nextSlot] using h.slot_lt
  case postings_ne =>
    intro other stubs' hstubs
    by_cases heq : other = heading
    · simp [heq] at hstubs
      exact hstubs ▸ hne
    · simp [heq] at hstubs
      exact h.postings_ne other stubs' hstubs

/-- A token may lose all its stubs. -/
theorem dropToken (h : Coherent f) (text : Name) :
    Coherent (f.put (.postings (.token text)) none) := by
  constructor
  case stub_inverse => simpa using h.stub_inverse
  case stub_lt => simpa [Fields.nextStub] using h.stub_lt
  case valueSlot_iff => simpa using h.valueSlot_iff
  case postings_iff => simpa using h.postings_iff
  case slot_lt => simpa [Fields.nextSlot] using h.slot_lt
  case postings_ne =>
    intro other stubs hstubs
    by_cases heq : other = .token text
    · simp [heq] at hstubs
    · simp [heq] at hstubs
      exact h.postings_ne other stubs hstubs

/-- The next free slot has no value. -/
theorem slotValue_nextSlot (h : Coherent f) (name : Name) :
    f (.slotValue name (f.nextSlot name)) = none := by
  refine Option.eq_none_iff_forall_ne_some.2 fun value hvalue => ?_
  exact UInt32.lt_irrefl _ (h.slot_lt name _ value hvalue)

/-- Nothing is posted under the next free slot. -/
theorem stubs_nextSlot (h : Coherent f) (name : Name) :
    f.stubs (.slot name (f.nextSlot name)) = ∅ := by
  have hnone : f (.postings (.slot name (f.nextSlot name))) = none := by
    refine Option.eq_none_iff_forall_ne_some.2 fun stubs hstubs => ?_
    obtain ⟨value, hvalue⟩ := (h.postings_iff name _).1 ⟨stubs, hstubs⟩
    rw [h.slotValue_nextSlot] at hvalue
    cases hvalue
  rw [Fields.stubs, hnone]
  rfl

/-- A new value with its first stubs is put into the next free slot. -/
theorem newSlot (h : Coherent f) {name : Name} {value : Value} {stubs : StubSet}
    (hnew : f (.valueSlot name value.hash) = none) (hne : stubs ≠ ∅)
    (hroom : (f.nextSlot name).toNat + 1 < UInt32.size) :
    Coherent ((f.ensureSlot name value).2.putStubs (.slot name (f.nextSlot name)) stubs) := by
  -- A slot with a value and no postings is not coherent, so that both are put in one step here.
  unfold Fields.ensureSlot Fields.putStubs
  rw [hnew, if_neg hne]
  have hfree := h.slotValue_nextSlot name
  constructor
  case stub_inverse => simpa using h.stub_inverse
  case stub_lt => simpa [Fields.nextStub] using h.stub_lt
  case valueSlot_iff =>
    intro other hash slot
    have hiff := h.valueSlot_iff other hash slot
    by_cases hother : other = name
    · subst hother
      by_cases hhash : hash = value.hash <;> by_cases hslot : slot = f.nextSlot other
      · simp [hhash, hslot]
      · subst hhash
        simpa [hslot, hnew, Ne.symm hslot] using hiff
      · subst hslot
        simpa [hhash, hfree, Ne.symm hhash] using hiff
      · simpa [hhash, hslot] using hiff
    · simpa [hother] using hiff
  case postings_iff =>
    intro other slot
    by_cases hother : other = name ∧ slot = f.nextSlot name
    · obtain ⟨rfl, rfl⟩ := hother
      simp
    · simpa [hother] using h.postings_iff other slot
  case slot_lt =>
    intro other slot value' hvalue
    by_cases hother : other = name
    · subst hother
      have hnext : (f.nextSlot other) + 1 = ((some (f.nextSlot other + 1)).getD 0) := rfl
      by_cases hslot : slot = f.nextSlot other
      · simpa [Fields.nextSlot, hslot] using (lt_succ_iff hroom).2 (.inr rfl)
      · simp [hslot] at hvalue
        simpa [Fields.nextSlot] using (lt_succ_iff hroom).2 (.inl (h.slot_lt other slot _ hvalue))
    · simp [hother] at hvalue
      simpa [Fields.nextSlot, hother] using h.slot_lt other slot value' hvalue
  case postings_ne =>
    intro other stubs' hstubs
    by_cases heq : other = .slot name (f.nextSlot name)
    · simp [heq] at hstubs
      exact hstubs ▸ hne
    · simp [heq] at hstubs
      exact h.postings_ne other stubs' hstubs

/-- A slot goes with its value and its postings. -/
theorem dropSlot (h : Coherent f) {name : Name} {value : Value} {slot : UInt32}
    (hvalue : f (.valueSlot name value.hash) = some slot) :
    Coherent (f.dropSlot name value slot) := by
  obtain ⟨kept, hkept, hhash⟩ := (h.valueSlot_iff name value.hash slot).1 hvalue
  unfold Fields.dropSlot
  constructor
  case stub_inverse => simpa using h.stub_inverse
  case stub_lt => simpa [Fields.nextStub] using h.stub_lt
  case valueSlot_iff =>
    intro other hash slot'
    have hiff := h.valueSlot_iff other hash slot'
    by_cases hother : other = name
    · subst hother
      -- Another hash with the slot would be that of the value that is kept in it.
      by_cases heq : hash = value.hash <;> by_cases hslot : slot' = slot
      · simp [heq, hslot]
      · subst heq
        simpa [hslot, hvalue, Ne.symm hslot] using hiff
      · subst hslot
        have hne : ¬ kept.hash = hash := fun hk => heq (hk.symm.trans hhash)
        simpa [heq, hkept, hne] using hiff
      · simpa [heq, hslot] using hiff
    · simpa [hother] using hiff
  case postings_iff =>
    intro other slot'
    by_cases hother : other = name ∧ slot' = slot
    · simp [hother]
    · simpa [hother] using h.postings_iff other slot'
  case slot_lt =>
    intro other slot' value' hvalue'
    by_cases hother : other = name ∧ slot' = slot
    · simp [hother] at hvalue'
    · simp [hother] at hvalue'
      simpa [Fields.nextSlot] using h.slot_lt other slot' value' hvalue'
  case postings_ne =>
    intro other stubs hstubs
    by_cases heq : other = .slot name slot
    · simp [heq] at hstubs
    · simp [heq] at hstubs
      exact h.postings_ne other stubs hstubs

/-- Posting under a token keeps the tables coherent. -/
theorem postToken (h : Coherent f) (text : Name) (stub : UInt32) :
    Coherent (f.post (.token text) stub).2 := by
  unfold Fields.post
  split
  · exact h
  · exact h.putStubs (StubSet.insert_ne_empty _ _) fun _ _ heq => by cases heq

/-- Taking a stub away from a token keeps the tables coherent. -/
theorem unpostToken (h : Coherent f) (text : Name) (stub : UInt32) :
    Coherent (f.unpost (.token text) stub).2 := by
  unfold Fields.unpost
  split
  · by_cases hlast : (f.stubs (.token text)).erase stub = ∅
    · rw [Fields.putStubs, if_pos hlast]
      exact h.dropToken text
    · exact h.putStubs hlast fun _ _ heq => by cases heq
  · exact h

/-- The slot of a value has a value. -/
theorem exists_slotValue (h : Coherent f) {name : Name} {hash : Bytes} {slot : UInt32}
    (hslot : f (.valueSlot name hash) = some slot) (name' : Name) (slot' : UInt32)
    (heq : Heading.slot name slot = .slot name' slot') :
    ∃ value, f (.slotValue name' slot') = some value := by
  cases heq
  obtain ⟨value, hvalue, _⟩ := (h.valueSlot_iff name hash slot).1 hslot
  exact ⟨value, hvalue⟩

/-- A new value gets the next free slot and its first stub. -/
theorem addValue_eq_newSlot (h : Coherent f) {name : Name} {value : Value} {stub : UInt32}
    (hslot : f (.valueSlot name value.hash) = none) :
    f.addValue name value stub = (true, (f.ensureSlot name value).2.putStubs
      (.slot name (f.nextSlot name)) (StubSet.insert stub ∅)) := by
  have hfirst : (f.ensureSlot name value).1 = f.nextSlot name := by
    rw [Fields.ensureSlot, hslot]
  have hstubs : (f.ensureSlot name value).2.stubs (.slot name (f.nextSlot name)) = ∅ := by
    rw [← h.stubs_nextSlot name, Fields.stubs, Fields.stubs, Fields.ensureSlot, hslot]
    simp
  rw [Fields.addValue, hfirst, Fields.post, hstubs, if_neg (by simp)]

/-- Posting under a value keeps the tables coherent. -/
theorem addValue (h : Coherent f) (name : Name) (value : Value) (stub : UInt32)
    (hroom : f (.valueSlot name value.hash) = none →
      (f.nextSlot name).toNat + 1 < UInt32.size) :
    Coherent (f.addValue name value stub).2 := by
  cases hslot : f (.valueSlot name value.hash) with
  | some slot =>
      have hensure : f.ensureSlot name value = (slot, f) := by rw [Fields.ensureSlot, hslot]
      rw [Fields.addValue, hensure, Fields.post]
      split
      · exact h
      · exact h.putStubs (StubSet.insert_ne_empty _ _) (h.exists_slotValue hslot)
  | none =>
      rw [h.addValue_eq_newSlot hslot]
      exact h.newSlot hslot (StubSet.insert_ne_empty _ _) (hroom hslot)

/-- Taking a stub away from a value keeps the tables coherent. -/
theorem removeValue (h : Coherent f) (name : Name) (value : Value) (stub : UInt32) :
    Coherent (f.removeValue name value stub).2 := by
  obtain hsame | ⟨slot, hslot, hdrop | ⟨hmore, hunpost⟩⟩ := f.removeValue_cases name value stub
  · rwa [hsame]
  · rw [hdrop]
    exact h.dropSlot hslot
  · rw [hunpost, Fields.unpost]
    split
    case isTrue hmem => exact h.putStubs (hmore hmem) (h.exists_slotValue hslot)
    case isFalse => exact h

end Coherent

/-! ## Operations -/

/-- An operation on the tables of a namespace. -/
inductive Op where
  | ensureStub (shasum : String)
  | forgetStub (shasum : String)
  | addValue (name : String) (value : Value) (stub : UInt32)
  | removeValue (name : String) (value : Value) (stub : UInt32)
  | addToken (token : String) (stub : UInt32)
  | removeToken (token : String) (stub : UInt32)
  | clear
  deriving DecidableEq

/-- A counter of a namespace. -/
inductive Counter where
  | stubs
  | slots (name : Name)
  deriving DecidableEq

/-- The number that a counter hands out next. -/
def Counter.next (f : Fields) : Counter → UInt32
  | stubs => f.nextStub
  | slots name => f.nextSlot name

namespace Op

/-- The operation on a store, without its result. -/
def action (ns : Namespace) : Op → Action Store Unit
  | ensureStub shasum => do let _ ← Tables.ensureStub ns shasum
  | forgetStub shasum => do let _ ← Tables.forgetStub ns shasum
  | addValue name value stub => do let _ ← Tables.addValue ns name value stub
  | removeValue name value stub => do let _ ← Tables.removeValue ns name value stub
  | addToken token stub => do let _ ← Tables.addToken ns token stub
  | removeToken token stub => do let _ ← Tables.removeToken ns token stub
  | clear => do let _ ← Tables.clear ns

/-- The operation on the fields of the namespace. -/
def perform (f : Fields) : Op → Fields
  | ensureStub shasum => (f.ensureStub shasum).2
  | forgetStub shasum => (f.forgetStub shasum).2
  | addValue name value stub =>
    if h : isName name = true then (f.addValue ⟨name, h⟩ value stub).2 else f
  | removeValue name value stub =>
    if h : isName name = true then (f.removeValue ⟨name, h⟩ value stub).2 else f
  | addToken token stub =>
    if h : isName token = true then (f.post (.token ⟨token, h⟩) stub).2 else f
  | removeToken token stub =>
    if h : isName token = true then (f.unpost (.token ⟨token, h⟩) stub).2 else f
  | clear => fun _ => none

/-- The counter that an operation draws a number from and the cell that the number is put into,
if that is empty. -/
def draws : Op → Option (Counter × Cell)
  | ensureStub shasum => some (.stubs, .stubIndex shasum)
  | addValue name value _ =>
    if h : isName name = true then
      some (.slots ⟨name, h⟩, .valueSlot ⟨name, h⟩ value.hash)
    else none
  | _ => none

/-- An operation on a store does what it does on the fields. -/
theorem takes_action {t : Namespace → Fields} {ns : Namespace} {f : Fields} (op : Op) :
    ∃ out, Takes (Shows t ns) (op.action ns) f out (op.perform f) := by
  cases op with
  | ensureStub shasum => exact ⟨_, Takes.bind (takes_ensureStub shasum) (Takes.pure ())⟩
  | forgetStub shasum => exact ⟨_, Takes.bind (takes_forgetStub shasum) (Takes.pure ())⟩
  | addValue name value stub =>
      by_cases h : isName name = true
      · rw [perform, dif_pos h]
        exact ⟨_, Takes.bind (takes_addValue ⟨name, h⟩ value stub) (Takes.pure ())⟩
      · rw [perform, dif_neg h]
        exact ⟨_, Takes.bind_error (takes_addValue_invalid h value stub)⟩
  | removeValue name value stub =>
      by_cases h : isName name = true
      · rw [perform, dif_pos h]
        exact ⟨_, Takes.bind (takes_removeValue ⟨name, h⟩ value stub) (Takes.pure ())⟩
      · rw [perform, dif_neg h]
        exact ⟨_, Takes.bind_error (takes_removeValue_invalid h value stub)⟩
  | addToken token stub =>
      by_cases h : isName token = true
      · rw [perform, dif_pos h]
        exact ⟨_, Takes.bind (takes_addToken ⟨token, h⟩ stub) (Takes.pure ())⟩
      · rw [perform, dif_neg h]
        exact ⟨_, Takes.bind_error (takes_addToken_invalid h stub)⟩
  | removeToken token stub =>
      by_cases h : isName token = true
      · rw [perform, dif_pos h]
        exact ⟨_, Takes.bind (takes_removeToken ⟨token, h⟩ stub) (Takes.pure ())⟩
      · rw [perform, dif_neg h]
        exact ⟨_, Takes.bind_error (takes_removeToken_invalid h stub)⟩
  | clear =>
      obtain ⟨count, hclear⟩ := takes_clear
      exact ⟨_, Takes.bind hclear (Takes.pure ())⟩

end Op

/-- Every operation keeps the tables coherent, as long as the counter that it draws from does
not run over. -/
theorem Coherent.perform {f : Fields} (h : Coherent f) (op : Op)
    (hroom : ∀ c cell, op.draws = some (c, cell) → f cell = none →
      (c.next f).toNat + 1 < UInt32.size) :
    Coherent (op.perform f) := by
  cases op with
  | ensureStub shasum => exact h.ensureStub shasum (hroom _ _ rfl)
  | forgetStub shasum => exact h.forgetStub shasum
  | addValue name value stub =>
      by_cases hname : isName name = true
      · rw [Op.perform, dif_pos hname]
        exact h.addValue _ value stub (hroom _ _ (by rw [Op.draws, dif_pos hname]))
      · rwa [Op.perform, dif_neg hname]
  | removeValue name value stub =>
      by_cases hname : isName name = true
      · rw [Op.perform, dif_pos hname]
        exact h.removeValue _ value stub
      · rwa [Op.perform, dif_neg hname]
  | addToken token stub =>
      by_cases hname : isName token = true
      · rw [Op.perform, dif_pos hname]
        exact h.postToken _ stub
      · rwa [Op.perform, dif_neg hname]
  | removeToken token stub =>
      by_cases hname : isName token = true
      · rw [Op.perform, dif_pos hname]
        exact h.unpostToken _ stub
      · rwa [Op.perform, dif_neg hname]
  | clear => exact Coherent.empty

end SiteIndex.Posting
