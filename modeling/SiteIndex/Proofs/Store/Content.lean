import Mathlib.Tactic.Ring
import SiteIndex.Proofs.Action
import SiteIndex.Proofs.Store.OrderedMap
import SiteIndex.Store.Basic

/-!
# What a store holds

A store is seen as one ordered map, its `content`: the entries of its driver with the pending
writes of a buffer laid over them. What a buffer does to its content does not depend on which
batches the driver takes (`content_drain`, `content_apply`). A store is `Reliable` when its driver
takes writes and refuses no batch. Every operation on a reliable store is an operation on its
content (`Holds`), whatever the driver, the size of batches and the time of compactions.
-/

namespace SiteIndex.Store

variable {m : OrderedMap Bytes} {key : Bytes}

/-- A change as a change of look-ups. -/
theorem get?_apply (op : BatchOp) (other : Bytes) :
    (op.apply m).get? other =
      match op with
      | .set key value => if other = key then some value else m.get? other
      | .delete key => if other = key then none else m.get? other := by
  cases op with
  | set key value => exact OrderedMap.get?_insert ..
  | delete key => exact OrderedMap.get?_erase ..

/-- Deleting keys takes those keys away. -/
theorem get?_foldl_delete (keys : List Bytes) (m : OrderedMap Bytes) (other : Bytes) :
    ((keys.map BatchOp.delete).foldl BatchOp.apply m).get? other
      = if other ∈ keys then none else m.get? other := by
  induction keys generalizing m with
  | nil => rfl
  | cons key rest ih =>
      rw [List.map_cons, List.foldl_cons, ih, get?_apply]
      by_cases hkey : other = key <;> simp [hkey]

/-- Deleting every entry below a prefix takes the keys below it away. -/
theorem get?_deleteUnder (m : OrderedMap Bytes) (front other : Bytes) :
    (((m.under front).entries.map fun e => BatchOp.delete e.1).foldl BatchOp.apply m).get? other
      = if front.isPrefixOf other then none else m.get? other := by
  have hkeys : ((m.under front).entries.map fun e => BatchOp.delete e.1)
      = ((m.under front).entries.map (·.1)).map BatchOp.delete := by
    rw [List.map_map]
    rfl
  have hmem : other ∈ (m.under front).entries.map (·.1) ↔
      front.isPrefixOf other = true ∧ ∃ value, m.get? other = some value := by
    simp only [List.mem_map, Prod.exists, exists_and_right, exists_eq_right]
    simp only [← OrderedMap.get?_eq_some_iff, OrderedMap.under, OrderedMap.get?_filterKeys]
    by_cases hp : front.isPrefixOf other = true <;> simp [hp]
  rw [hkeys, get?_foldl_delete]
  by_cases hp : front.isPrefixOf other = true
  · rw [if_pos hp]
    split
    case isTrue => rfl
    case isFalse hnot =>
      rw [hmem, not_and] at hnot
      exact Option.eq_none_iff_forall_ne_some.2 fun value h => hnot hp ⟨value, h⟩
  · rw [if_neg hp, if_neg fun h => hp (hmem.1 h).1]

/-! ## Overlays -/

namespace Buffered

/-- Laying a pending write over a map changes the look-up of its key alone. -/
theorem get?_overlay (m : OrderedMap Bytes) (entry : Bytes × Option Bytes) (other : Bytes) :
    (overlay m entry).get? other = if other = entry.1 then entry.2 else m.get? other := by
  obtain ⟨key, value⟩ := entry
  cases value with
  | none => exact get?_apply (.delete key) other
  | some value => exact get?_apply (.set key value) other

/-- Writes laid over a map leave the keys that they do not write. -/
theorem get?_foldl_overlay_of_not_mem {entries : List (Bytes × Option Bytes)}
    (h : ∀ e ∈ entries, e.1 ≠ key) (m : OrderedMap Bytes) :
    (entries.foldl overlay m).get? key = m.get? key := by
  induction entries generalizing m with
  | nil => rfl
  | cons e rest ih =>
      rw [List.foldl_cons, ih fun e' he' => h e' (List.mem_cons_of_mem _ he'), get?_overlay,
        if_neg (h e (List.mem_cons_self ..)).symm]

/-- Writes of different keys laid over a map are all found. -/
theorem get?_foldl_overlay_of_mem {entries : List (Bytes × Option Bytes)}
    (h : OrderedMap.Ascending entries) {value : Option Bytes} (hmem : (key, value) ∈ entries)
    (m : OrderedMap Bytes) : (entries.foldl overlay m).get? key = value := by
  induction entries generalizing m with
  | nil => simp at hmem
  | cons e rest ih =>
      have hr := List.pairwise_cons.1 h
      rw [List.foldl_cons]
      rcases List.mem_cons.1 hmem with rfl | hmem
      · have hrest : ∀ e' ∈ rest, e'.1 ≠ key := by
          intro e' he' heq
          exact Bytes.Before.irrefl key (heq ▸ hr.1 e' he')
        rw [get?_foldl_overlay_of_not_mem hrest, get?_overlay, if_pos rfl]
      · exact ih hr.2 hmem _

/-- A look-up sees the pending writes first. -/
theorem get?_foldl_overlay (pending : OrderedMap (Option Bytes)) (m : OrderedMap Bytes)
    (key : Bytes) :
    (pending.entries.foldl overlay m).get? key = (pending.get? key).getD (m.get? key) := by
  cases h : pending.get? key with
  | some value =>
      exact get?_foldl_overlay_of_mem pending.sorted (OrderedMap.get?_eq_some_iff.1 h) m
  | none =>
      refine get?_foldl_overlay_of_not_mem (fun e he heq => ?_) m
      exact OrderedMap.get?_eq_none_iff.1 h e.2 (by rw [← heq]; exact he)

/-- The entries that a buffer shows: those of the driver under the pending writes. -/
def content (b : Buffered) : OrderedMap Bytes := b.pending.entries.foldl overlay b.driver.entries

/-- The pending writes as changes make the content out of the driver's entries. -/
theorem foldl_ops (b : Buffered) : b.ops.foldl BatchOp.apply b.driver.entries = b.content := by
  rw [ops, List.foldl_map]
  rfl

/-- Without pending writes a buffer shows the driver's entries. -/
theorem content_of_isEmpty {b : Buffered} (h : b.pending.isEmpty = true) :
    b.content = b.driver.entries := by
  rw [content, List.isEmpty_iff.1 h]
  rfl

/-- A further pending write is laid over the content. -/
theorem content_insert (b : Buffered) (key : Bytes) (value : Option Bytes) :
    ({ b with pending := b.pending.insert key value } : Buffered).content
      = overlay b.content (key, value) := by
  refine OrderedMap.ext_get? fun other => ?_
  rw [content, get?_foldl_overlay, OrderedMap.get?_insert, get?_overlay, content,
    get?_foldl_overlay]
  by_cases hk : other = key <;> simp [hk]

end Buffered

/-! ## Contents -/

/-- The entries that a store shows. -/
def content : Store → OrderedMap Bytes
  | plain d => d.entries
  | buffered b => b.content

/-- The driver takes writes and refuses no batch. -/
def Driver.Reliable (d : Driver) : Prop := d.readOnly = false ∧ ∀ n, d.refuses n = false

/-- The store ends in a reliable driver. -/
def Reliable (s : Store) : Prop := s.driver.Reliable

/-- A reliable store stands for the entries that it shows. -/
def Holds (s : Store) (m : OrderedMap Bytes) : Prop := s.Reliable ∧ s.content = m

/-- A new store is reliable and empty. -/
theorem holds_plain (backend : BackendKind) : Holds (.plain (.ofBackend backend false)) ∅ :=
  ⟨⟨rfl, fun _ => rfl⟩, rfl⟩

/-- A new store behind a write buffer is reliable and empty. -/
theorem holds_buffered (backend : BackendKind) (batchSize compactEvery : Nat) :
    Holds (.buffered (.make (.ofBackend backend false) batchSize compactEvery)) ∅ :=
  ⟨⟨rfl, fun _ => rfl⟩, rfl⟩

/-- Both ways of scanning give the entries below the prefix. -/
theorem Driver.scan_eq (d : Driver) (front : Bytes) : d.scan front = d.entries.under front := by
  unfold Driver.scan
  split
  · exact OrderedMap.scanWhile_eq ..
  all_goals exact OrderedMap.scanRange_eq ..

/-- A scan through a buffer gives the entries of its content below the prefix. -/
theorem Buffered.scan_eq (b : Buffered) (front : Bytes) :
    b.scan front = b.content.under front := by
  refine OrderedMap.ext_get? fun key => ?_
  rw [scan, OrderedMap.scanRange_eq, Driver.scan_eq, get?_foldl_overlay, content,
    OrderedMap.under, OrderedMap.under, OrderedMap.under, OrderedMap.get?_filterKeys,
    OrderedMap.get?_filterKeys, OrderedMap.get?_filterKeys, get?_foldl_overlay]
  by_cases h : front.isPrefixOf key = true <;> simp [h]

/-- A store shows below a prefix what its content has there. -/
theorem entriesFrom_eq (s : Store) (front : Bytes) :
    s.entriesFrom front = (s.content.under front).entries := by
  cases s with
  | plain d => exact congrArg OrderedMap.entries (Driver.scan_eq d front)
  | buffered b => exact congrArg OrderedMap.entries (Buffered.scan_eq b front)

/-- Reading a key looks it up in the content. -/
theorem read_eq (s : Store) (key : Bytes) :
    s.read key = match s.content.get? key with
      | some value => .ok value
      | none => .error (.missingKey key) := by
  cases s with
  | plain d => rfl
  | buffered b =>
      rw [read, Buffered.get, content, Buffered.content, Buffered.get?_foldl_overlay]
      cases b.pending.get? key with
      | none => rfl
      | some value => cases value <;> rfl

/-- A buffer gets the value that its content has under a key. -/
theorem Buffered.get_of_some {b : Buffered} {value : Bytes}
    (h : b.content.get? key = some value) : b.get key = .ok value := by
  have hread := read_eq (.buffered b) key
  rw [show (Store.buffered b).content.get? key = some value from h] at hread
  exact hread

/-- A buffer misses a key that its content does not have. -/
theorem Buffered.get_of_none {b : Buffered} (h : b.content.get? key = none) :
    b.get key = .error (.missingKey key) := by
  have hread := read_eq (.buffered b) key
  rw [show (Store.buffered b).content.get? key = none from h] at hread
  exact hread

/-! ## Changes -/

/-- A reliable driver makes a change. -/
theorem Driver.Reliable.apply {d : Driver} (h : d.Reliable) (op : BatchOp) :
    (d.apply op).1 = .ok () ∧ (d.apply op).2.Reliable ∧
      (d.apply op).2.entries = op.apply d.entries := by
  unfold Driver.apply
  rw [if_neg (by simp [h.1])]
  exact ⟨rfl, h, rfl⟩

/-- The driver takes the batch with a number. -/
def Driver.accepts (d : Driver) (number : Nat) : Bool := !d.refuses number && !d.readOnly

/-- A reliable driver takes every batch. -/
theorem Driver.Reliable.accepts {d : Driver} (h : d.Reliable) (number : Nat) :
    d.accepts number = true := by
  rw [Driver.accepts, h.1, h.2 number]
  rfl

/-- A driver makes all changes of a batch or only counts it. -/
theorem Driver.writeBatch_cases (d : Driver) (ops : List BatchOp) :
    (d.accepts d.batches = false ∧ ∃ failure,
      d.writeBatch ops = (.error failure, { d with batches := d.batches + 1 })) ∨
    (d.accepts d.batches = true ∧ d.writeBatch ops = (.ok (),
      { d with batches := d.batches + 1, entries := ops.foldl BatchOp.apply d.entries })) := by
  unfold Driver.writeBatch Driver.accepts
  cases hrefuses : d.refuses d.batches with
  | true => exact .inl ⟨rfl, _, rfl⟩
  | false =>
      cases hreadOnly : d.readOnly with
      | true => exact .inl ⟨rfl, _, rfl⟩
      | false => exact .inr ⟨rfl, rfl⟩

/-- A reliable driver makes all changes of a batch. -/
theorem Driver.Reliable.writeBatch {d : Driver} (h : d.Reliable) (ops : List BatchOp) :
    (d.writeBatch ops).1 = .ok () ∧ (d.writeBatch ops).2.Reliable ∧
      (d.writeBatch ops).2.entries = ops.foldl BatchOp.apply d.entries := by
  obtain ⟨hrefused, -⟩ | ⟨-, hwrite⟩ := d.writeBatch_cases ops
  · rw [h.accepts] at hrefused
    cases hrefused
  · rw [hwrite]
    exact ⟨rfl, h, rfl⟩

/-! ## Draining

What a drain does depends on whether the driver takes its next batch: `drain_cases`. The content
is the same afterwards in every case. -/

namespace Buffered

variable {b : Buffered}

/-- Compaction touches neither the entries of the driver nor its batches nor what is pending. -/
theorem compactIfDue_fields (b : Buffered) :
    b.compactIfDue.driver.entries = b.driver.entries ∧
      b.compactIfDue.driver.batches = b.driver.batches ∧
      b.compactIfDue.pending = b.pending ∧
      (b.compactIfDue.driver.Reliable ↔ b.driver.Reliable) := by
  unfold compactIfDue
  split <;> exact ⟨rfl, rfl, rfl, Iff.rfl⟩

/-- The buffer after the driver refused a batch. -/
def refused (b : Buffered) : Buffered :=
  { b with driver := { b.driver with batches := b.driver.batches + 1 } }

/-- The buffer after the driver took all that was pending. -/
def taken (b : Buffered) : Buffered :=
  compactIfDue
    { b with
      driver := { b.driver with batches := b.driver.batches + 1, entries := b.content }
      pending := ∅
      sinceCompaction := b.sinceCompaction + b.pending.size }

/-- A driver that took what was pending has the content, after one more batch. -/
theorem taken_fields (b : Buffered) :
    b.taken.driver.entries = b.content ∧ b.taken.driver.batches = b.driver.batches + 1 ∧
      b.taken.pending = ∅ ∧ (b.taken.driver.Reliable ↔ b.driver.Reliable) :=
  compactIfDue_fields _

/-- A drain has nothing to do, or the driver refuses the batch, or it takes it. -/
theorem drain_cases (b : Buffered) :
    (b.pending.isEmpty = true ∧ b.drain = (.ok (), b)) ∨
    (b.pending.isEmpty = false ∧ b.driver.accepts b.driver.batches = false ∧ ∃ failure,
      b.drain = (.error failure, b.refused)) ∨
    (b.pending.isEmpty = false ∧ b.driver.accepts b.driver.batches = true ∧
      b.drain = (.ok (), b.taken)) := by
  unfold drain
  cases hempty : b.pending.isEmpty with
  | true => exact .inl ⟨rfl, rfl⟩
  | false =>
      obtain ⟨hrefused, failure, hwrite⟩ | ⟨haccepted, hwrite⟩ := b.driver.writeBatch_cases b.ops
      · rw [hwrite]
        exact .inr (.inl ⟨rfl, hrefused, failure, rfl⟩)
      · rw [hwrite, foldl_ops]
        exact .inr (.inr ⟨rfl, haccepted, rfl⟩)

/-- What the driver took is what the buffer showed. -/
theorem content_taken (b : Buffered) : b.taken.content = b.content := by
  obtain ⟨hentries, -, hpending, -⟩ := b.taken_fields
  rw [content_of_isEmpty (by rw [hpending]; rfl), hentries]

/-- Draining leaves the content, whatever the driver does. -/
theorem content_drain (b : Buffered) : b.drain.2.content = b.content := by
  obtain ⟨-, hdrain⟩ | ⟨-, -, failure, hdrain⟩ | ⟨-, -, hdrain⟩ := b.drain_cases
  · rw [hdrain]
  · rw [hdrain]
    rfl
  · rw [hdrain]
    exact b.content_taken

/-! ## Changes of a buffer -/

/-- The buffer with a change pending. -/
def hold (b : Buffered) : BatchOp → Buffered
  | .set key value => { b with pending := b.pending.insert key (some value) }
  | .delete key => { b with pending := b.pending.insert key none }

/-- A pending change does not reach the driver. -/
@[simp] theorem driver_hold (b : Buffered) (op : BatchOp) : (b.hold op).driver = b.driver := by
  cases op <;> rfl

/-- A pending change is made to the content. -/
theorem content_hold (b : Buffered) (op : BatchOp) :
    (b.hold op).content = op.apply b.content := by
  cases op with
  | set key value => exact b.content_insert key (some value)
  | delete key => exact b.content_insert key none

/-- A change becomes pending, and a full buffer is drained. -/
theorem apply_eq (b : Buffered) (op : BatchOp) :
    b.apply op = if b.batchSize ≤ (b.hold op).pending.size then (b.hold op).drain
      else (.ok (), b.hold op) := by
  cases op <;> rfl

/-- A change is made to the content, whatever the driver does. -/
theorem content_apply (b : Buffered) (op : BatchOp) :
    (b.apply op).2.content = op.apply b.content := by
  rw [apply_eq]
  split
  case isTrue => exact (content_drain _).trans (b.content_hold op)
  case isFalse => exact b.content_hold op

/-! ## Buffers of reliable drivers -/

/-- Draining into a reliable driver succeeds. -/
theorem drain_reliable (h : b.driver.Reliable) :
    b.drain.1 = .ok () ∧ b.drain.2.driver.Reliable := by
  obtain ⟨-, hdrain⟩ | ⟨-, hrefused, -⟩ | ⟨-, -, hdrain⟩ := b.drain_cases
  · rw [hdrain]
    exact ⟨rfl, h⟩
  · rw [h.accepts] at hrefused
    cases hrefused
  · rw [hdrain]
    exact ⟨rfl, b.taken_fields.2.2.2.2 h⟩

/-- A buffer in front of a reliable driver makes a change. -/
theorem apply_content (h : b.driver.Reliable) (op : BatchOp) :
    (b.apply op).1 = .ok () ∧ (b.apply op).2.driver.Reliable ∧
      (b.apply op).2.content = op.apply b.content := by
  refine and_assoc.1 ⟨?_, b.content_apply op⟩
  rw [apply_eq]
  split
  case isTrue => exact drain_reliable (b := b.hold op) (by rwa [driver_hold])
  case isFalse => exact ⟨rfl, by rwa [driver_hold]⟩

/-- A buffer in front of a reliable driver makes all changes of a batch. -/
theorem writeBatch_content (h : b.driver.Reliable) (ops : List BatchOp) :
    (b.writeBatch ops).1 = .ok () ∧ (b.writeBatch ops).2.driver.Reliable ∧
      (b.writeBatch ops).2.content = ops.foldl BatchOp.apply b.content := by
  induction ops generalizing b with
  | nil => exact ⟨rfl, h, rfl⟩
  | cons op rest ih =>
      obtain ⟨hout, hrel, hcontent⟩ := apply_content h op
      unfold writeBatch
      generalize b.apply op = result at hout hrel hcontent ⊢
      obtain ⟨out, b'⟩ := result
      dsimp only at hout hrel hcontent
      subst hout
      rw [List.foldl_cons, ← hcontent]
      exact ih hrel

end Buffered

/-! ## Operations on the content -/

open SiteIndex.Action (Takes)

/-- A change goes through. -/
theorem takes_apply (op : BatchOp) : Takes Holds (apply op) m (.ok ()) (op.apply m) := by
  rintro s ⟨hrel, rfl⟩
  cases s with
  | plain d =>
      obtain ⟨hout, hrel', hentries⟩ := Driver.Reliable.apply hrel op
      exact ⟨hout, hrel', hentries⟩
  | buffered b =>
      obtain ⟨hout, hrel', hcontent⟩ := Buffered.apply_content hrel op
      exact ⟨hout, hrel', hcontent⟩

/-- A value is put under a key. -/
theorem takes_set (key value : Bytes) :
    Takes Holds (set key value) m (.ok ()) (m.insert key value) := takes_apply (.set key value)

/-- The entry under a key is taken away. -/
theorem takes_delete (key : Bytes) : Takes Holds (delete key) m (.ok ()) (m.erase key) :=
  takes_apply (.delete key)

/-- All changes of a batch go through. -/
theorem takes_writeBatch (ops : List BatchOp) :
    Takes Holds (writeBatch ops) m (.ok ()) (ops.foldl BatchOp.apply m) := by
  rintro s ⟨hrel, rfl⟩
  cases s with
  | plain d =>
      obtain ⟨hout, hrel', hentries⟩ := Driver.Reliable.writeBatch hrel ops
      exact ⟨hout, hrel', hentries⟩
  | buffered b =>
      obtain ⟨hout, hrel', hcontent⟩ := Buffered.writeBatch_content hrel ops
      exact ⟨hout, hrel', hcontent⟩

/-- A look-up answers from the content and leaves the store alone. -/
theorem run_get? (key : Bytes) (s : Store) :
    (get? key).run s = (.ok (s.content.get? key), s) := by
  rw [get?, Action.run, Action.ofFunction, read_eq]
  cases s.content.get? key <;> rfl

/-- A look-up answers from the content. -/
theorem takes_get? (key : Bytes) : Takes Holds (get? key) m (.ok (m.get? key)) m := by
  rintro s ⟨hrel, rfl⟩
  rw [run_get?]
  exact ⟨rfl, hrel, rfl⟩

/-- Getting a key that is there answers from the content. -/
theorem takes_get {key value : Bytes} (h : m.get? key = some value) :
    Takes Holds (get key) m (.ok value) m := by
  rintro s ⟨hrel, rfl⟩
  refine ⟨?_, hrel, rfl⟩
  change s.read key = _
  rw [read_eq, h]

/-- A scan gives the entries of the content below the prefix. -/
theorem takes_scan (front : Bytes) :
    Takes Holds (scan front) m (.ok (m.under front).entries) m := by
  rintro s ⟨hrel, rfl⟩
  exact ⟨congrArg Except.ok (entriesFrom_eq s front), hrel, rfl⟩

end SiteIndex.Store
