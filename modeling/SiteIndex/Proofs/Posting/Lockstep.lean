import SiteIndex.Posting.Tables
import SiteIndex.Proofs.Store.Owned

/-!
# Posting tables in lockstep

All that the posting tables of a namespace read and write of a store is under keys of the namespace.
So stores that agree on these are not told apart by any reading of the tables, and the operations
that add to the tables of two stores that are abreast give the same and leave them abreast, whatever
else is in either store and whatever is behind it.
-/

namespace SiteIndex.Posting

open Store (Abreast AgreeOn Keyed Namespace OrderedMap Owned Table)
open Store.Key (tablePrefix)

variable {R : Store → Store → Prop} {m n : OrderedMap Bytes} {key : Bytes} {ns : Namespace}

/-! ## Reading tables -/

section Reading

variable {K : Bytes → Prop} (hR : ∀ s t, R s t → AgreeOn K s t)
include hR

/-- A number is read. -/
theorem lockstep_readNumber? (hkey : K key) : Lockstep R (Tables.readNumber? key) := by
  refine Lockstep.bind (Store.lockstep_get? hR hkey) fun entry => ?_
  cases entry with
  | some bytes => exact Lockstep.lift_bind fun number _ => Lockstep.pure (some number)
  | none => exact Lockstep.pure none

/-- Postings are read. -/
theorem lockstep_readPostings (hkey : K key) : Lockstep R (Tables.readPostings key) := by
  refine Lockstep.bind (Store.lockstep_get? hR hkey) fun entry => ?_
  cases entry with
  | some blob => exact Lockstep.ofOutcome (PostingList.decode blob)
  | none => exact Lockstep.pure (⟨[]⟩ : PostingList)

/-- The values of an attribute are read from what stands below its prefixes. -/
theorem lockstep_values_of {name : String}
    (hfront : ∀ table front, table = .slotValue ∨ table = .slotPostings →
      Store.Key.attributePrefix ns table name = .ok front →
      ∀ key, front.isPrefixOf key = true → K key) :
    Lockstep R (Tables.values ns name) := by
  refine Lockstep.lift_bind fun valueFront hvalue => ?_
  refine Lockstep.lift_bind fun postingFront hposting => ?_
  refine Lockstep.bind (Store.lockstep_scan hR (hfront _ _ (.inr rfl) hposting)) fun postings => ?_
  exact Lockstep.bind (Store.lockstep_scan hR (hfront _ _ (.inl rfl) hvalue)) fun stored =>
    Lockstep.ofOutcome _

end Reading

section Queries

variable (hR : ∀ s t, R s t → AgreeOn ns.Owns s t)
include hR

/-- The entries of a table are read, and each of them by itself. -/
theorem lockstep_entries {α : Type} (table : Table) (read : Bytes × Bytes → Outcome α) :
    Lockstep R (do
      let entries ← Store.scan (tablePrefix ns table)
      entries.mapM fun e => Action.ofOutcome (read e) : Action Store (List α)) := by
  have hfront : ns.Owns (tablePrefix ns table) := ⟨[table.byte], rfl⟩
  exact Lockstep.bind (Store.lockstep_scan hR fun _ => hfront.of_isPrefixOf) fun entries =>
    Lockstep.mapM fun e _ => Lockstep.ofOutcome _

/-- The number of a shasum is read. -/
theorem lockstep_stubIndex? (shasum : String) : Lockstep R (Tables.stubIndex? ns shasum) :=
  lockstep_readNumber? hR ⟨_, rfl⟩

/-- The shasum of a number is read. -/
theorem lockstep_shasum (index : UInt32) : Lockstep R (Tables.shasum ns index) :=
  Lockstep.bind (Store.lockstep_get hR ⟨_, rfl⟩) fun _ => Lockstep.pure _

/-- The postings of a token are read. -/
theorem lockstep_tokenPostings (token : String) : Lockstep R (Tables.tokenPostings ns token) :=
  Lockstep.lift_bind fun _ hkey =>
    lockstep_readPostings hR (Store.eq_of_checkName hkey ▸ ⟨_, rfl⟩)

/-- All tokens are read. -/
theorem lockstep_tokens : Lockstep R (Tables.tokens ns) := lockstep_entries hR .token _

/-- The tokens of a stub are read. -/
theorem lockstep_tokensOf (stub : UInt32) : Lockstep R (Tables.tokensOf ns stub) := by
  have hfront : ns.Owns (tablePrefix ns .token) := ⟨_, rfl⟩
  refine Lockstep.bind (Store.lockstep_scan hR fun _ => hfront.of_isPrefixOf) fun entries => ?_
  exact Lockstep.bind (Lockstep.mapM fun e _ => Lockstep.ofOutcome _) fun _ => Lockstep.pure _

/-- The summary of a shasum is read. -/
theorem lockstep_summary? (shasum : String) : Lockstep R (Tables.summary? ns shasum) :=
  Store.lockstep_get? hR ⟨_, rfl⟩

/-- The values of an attribute are read. -/
theorem lockstep_values (name : String) : Lockstep R (Tables.values ns name) :=
  lockstep_values_of hR fun _ _ _ hfront _ =>
    Store.Namespace.Owns.of_isPrefixOf (Store.eq_of_checkName hfront ▸ ⟨_, rfl⟩)

/-- All attributes are read. -/
theorem lockstep_attributes : Lockstep R (Tables.attributes ns) := lockstep_entries hR .nextSlot _

end Queries

/-! ## Writing tables -/

section Writing

/-- Stores that are abreast agree on owned keys. -/
theorem agree_of_abreast (s t : Store) (h : Abreast m n s t) : AgreeOn Owned s t := h.agree

/-- Stores that are abreast agree on the keys of a namespace. -/
theorem agreeOn_of_abreast (s t : Store) (h : Abreast m n s t) : AgreeOn ns.Owns s t :=
  h.agree.on ns

/-- A shasum is given a number. -/
theorem lockstep_ensureStub (shasum : String) :
    Lockstep (Abreast m n) (Tables.ensureStub ns shasum) := by
  refine Lockstep.bind (lockstep_stubIndex? agreeOn_of_abreast shasum) fun known => ?_
  cases known with
  | some index => exact Lockstep.pure index
  | none =>
      have hcounter : Lockstep (Abreast m n) (Tables.readCounter (Store.Key.nextStub ns)) :=
        Lockstep.bind (lockstep_readNumber? agree_of_abreast ⟨ns, _, rfl⟩) fun _ => Lockstep.pure _
      refine Lockstep.bind hcounter fun index => ?_
      refine Lockstep.bind (Store.lockstep_set (Store.owned_tablePrefix ..) _) fun _ => ?_
      refine Lockstep.bind (Store.lockstep_set (Store.owned_tablePrefix ..) _) fun _ => ?_
      exact Lockstep.bind (Store.lockstep_set ⟨ns, _, rfl⟩ _) fun _ => Lockstep.pure index

/-- Postings are written under an owned key. -/
theorem lockstep_writePostings (hkey : Owned key) (postings : PostingList) :
    Lockstep (Abreast m n) (Tables.writePostings key postings) := by
  unfold Tables.writePostings
  split
  · exact Store.lockstep_delete hkey
  · exact Lockstep.lift_bind fun blob _ => Store.lockstep_set hkey blob

/-- A stub is posted under an owned key. -/
theorem lockstep_post (hkey : Owned key) (stub : UInt32) :
    Lockstep (Abreast m n) (do
      let (added, postings) := (← Tables.readPostings key).insert stub
      if added then Tables.writePostings key postings
      return added : Action Store Bool) := by
  refine Lockstep.bind (lockstep_readPostings agree_of_abreast hkey) fun postings => ?_
  dsimp only
  split
  · exact Lockstep.bind (lockstep_writePostings hkey _) fun _ => Lockstep.pure _
  · exact Lockstep.pure _

/-- A stub is posted under a token. -/
theorem lockstep_addToken (token : String) (stub : UInt32) :
    Lockstep (Abreast m n) (Tables.addToken ns token stub) :=
  Lockstep.lift_bind fun key hkey => lockstep_post (Store.keyed_token ns token key hkey) stub

/-- A value is given a slot. -/
theorem lockstep_ensureSlot (name : String) (value : Value) :
    Lockstep (Abreast m n) (Tables.ensureSlot ns name value) := by
  refine Lockstep.lift_bind fun slotKey hslotKey => ?_
  have hslot := Store.keyed_valueSlot ns name value.hash slotKey hslotKey
  refine Lockstep.bind (lockstep_readNumber? agree_of_abreast hslot) fun known => ?_
  cases known with
  | some slot => exact Lockstep.pure slot
  | none =>
      refine Lockstep.lift_bind fun counter hcounterKey => ?_
      have hcounter := Store.keyed_nextSlot ns name counter hcounterKey
      have hread : Lockstep (Abreast m n) (Tables.readCounter counter) :=
        Lockstep.bind (lockstep_readNumber? agree_of_abreast hcounter) fun _ => Lockstep.pure _
      refine Lockstep.bind hread fun slot => ?_
      refine Lockstep.bind (Store.lockstep_set hslot _) fun _ => ?_
      refine Lockstep.lift_bind fun valueKey hvalueKey => ?_
      have hvalue := Store.keyed_slotValue ns name slot valueKey hvalueKey
      refine Lockstep.bind (Store.lockstep_set hvalue _) fun _ => ?_
      exact Lockstep.bind (Store.lockstep_set hcounter _) fun _ => Lockstep.pure slot

/-- A stub is posted under a value. -/
theorem lockstep_addValue (name : String) (value : Value) (stub : UInt32) :
    Lockstep (Abreast m n) (Tables.addValue ns name value stub) := by
  refine Lockstep.bind (lockstep_ensureSlot name value) fun slot => ?_
  refine Lockstep.lift_bind fun key hkey => ?_
  exact lockstep_post (Store.keyed_slotPostings ns name slot key hkey) stub

end Writing

end SiteIndex.Posting
