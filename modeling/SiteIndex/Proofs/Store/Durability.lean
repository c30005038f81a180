import SiteIndex.Proofs.Store.Buffering

/-!
# What the driver behind a write buffer has

A `Moment` is a buffer together with every change that was made to it since it was new, and with
how many of them there were when its driver last took a batch. A sequence of requests passes
through the moments of its `course`: one before each change, also inside a batch, and one after
each request. At all of them the driver has the entries that it started with after exactly those
changes that had been made by its last batch, and none of the later ones, although a batch holds
only the last write of each key and holds them in the order of the keys
(`durable_of_mem_course`). What carries this is that a driver that takes a batch has what the
buffer shows, and that nothing else touches its entries (`Settles`).
-/

namespace SiteIndex.Store

/-- On the way from one state of a driver to a later one it was asked for a batch that it takes. -/
def Driver.TookBatch (before after : Driver) : Prop :=
  ∃ number < after.batches, before.batches ≤ number ∧ before.accepts number = true

instance (before after : Driver) : Decidable (before.TookBatch after) :=
  inferInstanceAs (Decidable (∃ number < after.batches, _))

namespace Buffered

variable {b : Buffered}

/-! ## Drains -/

/-- From a buffer to a later one that shows the same: either the driver took no batch and has
what it had, or it took one and has everything. -/
inductive Settles (b after : Buffered) : Prop
  | untouched (hbatch : ¬ b.driver.TookBatch after.driver)
      (hentries : after.driver.entries = b.driver.entries) (hcontent : after.content = b.content)
  | written (hbatch : b.driver.TookBatch after.driver)
      (hentries : after.driver.entries = b.content) (hcontent : after.content = b.content)

/-- A driver that is asked for no batch takes none. -/
theorem settles_of_batches_eq {after : Buffered}
    (hbatches : after.driver.batches = b.driver.batches)
    (hentries : after.driver.entries = b.driver.entries) (hcontent : after.content = b.content) :
    b.Settles after := by
  refine .untouched (fun ⟨number, hlt, hle, _⟩ => ?_) hentries hcontent
  omega

/-- A buffer that is left alone. -/
theorem settles_refl (b : Buffered) : b.Settles b := settles_of_batches_eq rfl rfl rfl

/-- A drain leaves the driver alone or gives it everything. -/
theorem settles_drain (b : Buffered) : b.Settles b.drain.2 := by
  have hcontent := b.content_drain
  obtain ⟨-, hdrain⟩ | ⟨-, hrefused, failure, hdrain⟩ | ⟨-, haccepted, hdrain⟩ := b.drain_cases
  · rw [hdrain]
    exact b.settles_refl
  · rw [hdrain] at hcontent ⊢
    refine .untouched (fun ⟨number, hlt, hle, htaken⟩ => ?_) rfl hcontent
    -- The one batch that was asked for is the one that is refused.
    obtain rfl : number = b.driver.batches := Nat.le_antisymm (Nat.le_of_lt_succ hlt) hle
    rw [hrefused] at htaken
    cases htaken
  · rw [hdrain] at hcontent ⊢
    obtain ⟨hentries, hbatches, -, -⟩ := b.taken_fields
    exact .written ⟨b.driver.batches, by rw [hbatches]; exact Nat.lt_succ_self _, le_rfl, haccepted⟩
      hentries hcontent

/-- Compacting drains and does not touch entries. -/
theorem compact_fields (b : Buffered) :
    b.compact.1 = b.drain.1 ∧ b.compact.2.driver.entries = b.drain.2.driver.entries ∧
      b.compact.2.driver.batches = b.drain.2.driver.batches ∧
      b.compact.2.pending = b.drain.2.pending := by
  rw [compact]
  generalize b.drain = result
  obtain ⟨out, after⟩ := result
  cases out <;> exact ⟨rfl, rfl, rfl, rfl⟩

/-- Compacting leaves the entries of the driver alone or gives it everything. -/
theorem settles_compact (b : Buffered) : b.Settles b.compact.2 := by
  obtain ⟨-, hentries, hbatches, -⟩ := b.compact_fields
  have htook : b.driver.TookBatch b.compact.2.driver ↔ b.driver.TookBatch b.drain.2.driver := by
    rw [Driver.TookBatch, Driver.TookBatch, hbatches]
  cases b.settles_drain with
  | untouched hbatch hsame _ =>
      exact .untouched (fun h => hbatch (htook.1 h)) (hentries.trans hsame) b.content_compact
  | written hbatch hall _ => exact .written (htook.2 hbatch) (hentries.trans hall) b.content_compact

/-- A drain that fails leaves the entries of the driver and what is pending. -/
theorem drain_error {failure : Failure} (h : b.drain.1 = .error failure) :
    b.drain.2.driver.entries = b.driver.entries ∧ b.drain.2.pending = b.pending := by
  obtain ⟨-, hdrain⟩ | ⟨-, -, failure, hdrain⟩ | ⟨-, -, hdrain⟩ := b.drain_cases
  · rw [hdrain] at h
    cases h
  · rw [hdrain]
    exact ⟨rfl, rfl⟩
  · rw [hdrain] at h
    cases h

/-- A drain that succeeds gives the driver everything. -/
theorem drain_ok (h : b.drain.1 = .ok ()) : b.drain.2.driver.entries = b.content := by
  obtain ⟨hempty, hdrain⟩ | ⟨-, -, failure, hdrain⟩ | ⟨-, -, hdrain⟩ := b.drain_cases
  · rw [hdrain]
    exact (content_of_isEmpty hempty).symm
  · rw [hdrain] at h
    cases h
  · rw [hdrain]
    exact b.taken_fields.1

/-- A drain succeeds if nothing is pending or the driver takes its next batch. -/
theorem drain_eq_ok
    (h : b.pending.isEmpty = true ∨ b.driver.accepts b.driver.batches = true) :
    b.drain.1 = .ok () := by
  obtain ⟨-, hdrain⟩ | ⟨hempty, hrefused, -⟩ | ⟨-, -, hdrain⟩ := b.drain_cases
  · rw [hdrain]
  · simp [hempty, hrefused] at h
  · rw [hdrain]

/-- A change whose drain fails leaves the entries of the driver and stays pending. -/
theorem apply_error {op : BatchOp} {failure : Failure} (h : (b.apply op).1 = .error failure) :
    (b.apply op).2.driver.entries = b.driver.entries ∧
      (b.apply op).2.pending = (b.hold op).pending := by
  rw [apply_eq] at h ⊢
  split at h
  case isTrue hfull =>
    rw [if_pos hfull, ← b.driver_hold op]
    exact drain_error h
  case isFalse => cases h

/-- After a change becomes pending the buffer settles. -/
theorem settles_apply (b : Buffered) (op : BatchOp) : (b.hold op).Settles (b.apply op).2 := by
  rw [apply_eq]
  split
  case isTrue => exact (b.hold op).settles_drain
  case isFalse => exact (b.hold op).settles_refl

/-- After the changes of a request the buffer settles. -/
theorem settles_serve (b : Buffered) (r : Request) :
    ((r.changes b).foldl (fun b op => (b.apply op).2) b).Settles (b.serve r).2 := by
  cases r with
  | set key value => exact settles_refl _
  | delete key => exact settles_refl _
  | writeBatch ops =>
      show ((b.made ops).foldl _ b).Settles (b.writeBatch ops).2
      rw [b.writeBatch_eq_foldl ops]
      exact settles_refl _
  | flush => exact b.settles_drain
  | compact => exact b.settles_compact
  | get key => exact b.settles_refl
  | scan front => exact b.settles_refl

/-! ## Moments -/

/-- A buffer and what was done to it since it was new. -/
structure Moment where
  buffer : Buffered
  /-- The changes that were made, in their order. -/
  staged : List BatchOp := []
  /-- How many of them had been made when the driver last took a batch. -/
  written : Nat := 0

namespace Moment

/-- Goes on to a later buffer without a further change. -/
def follow (m : Moment) (after : Buffered) : Moment :=
  { m with
    buffer := after
    written := if m.buffer.driver.TookBatch after.driver then m.staged.length else m.written }

/-- A change has become pending. -/
def hold (m : Moment) (op : BatchOp) : Moment :=
  { m with buffer := m.buffer.hold op, staged := m.staged ++ [op] }

/-- Makes a change. -/
def change (m : Moment) (op : BatchOp) : Moment := (m.hold op).follow (m.buffer.apply op).2

/-- Does what is asked: makes the changes one after the other and then what is left to do. -/
def serve (m : Moment) (r : Request) : Moment :=
  ((r.changes m.buffer).foldl change m).follow (m.buffer.serve r).2

/-- The moments that a sequence of requests passes through. -/
def course (m : Moment) : List Request → List Moment
  | [] => [m]
  | r :: rest => (r.changes m.buffer).scanl change m ++ (m.serve r).course rest

/-- The driver, which started with the entries `initial`, has the changes up to its last batch,
and the buffer shows all of them. -/
structure Kept (initial : OrderedMap Bytes) (m : Moment) : Prop where
  le : m.written ≤ m.staged.length
  driver : m.buffer.driver.entries = (m.staged.take m.written).foldl BatchOp.apply initial
  content : m.buffer.content = m.staged.foldl BatchOp.apply initial

/-- The driver has the changes up to its last batch. A drain that fails, on whatever occasion,
leaves its entries and what is pending; one that succeeds, on whatever occasion, gives it all
changes. -/
structure Durable (initial : OrderedMap Bytes) (m : Moment) : Prop extends Kept initial m where
  flush_error : ∀ failure, m.buffer.flush.1 = .error failure →
    m.buffer.flush.2.driver.entries = m.buffer.driver.entries ∧
      m.buffer.flush.2.pending = m.buffer.pending
  compact_error : ∀ failure, m.buffer.compact.1 = .error failure →
    m.buffer.compact.2.driver.entries = m.buffer.driver.entries ∧
      m.buffer.compact.2.pending = m.buffer.pending
  change_error : ∀ op failure, (m.buffer.apply op).1 = .error failure →
    (m.buffer.apply op).2.driver.entries = m.buffer.driver.entries ∧
      (m.buffer.apply op).2.pending = (m.buffer.hold op).pending
  flush_ok : m.buffer.flush.1 = .ok () →
    m.buffer.flush.2.driver.entries = m.staged.foldl BatchOp.apply initial
  compact_ok : m.buffer.compact.1 = .ok () →
    m.buffer.compact.2.driver.entries = m.staged.foldl BatchOp.apply initial
  close_accepted :
    m.buffer.pending.isEmpty = true ∨
      m.buffer.driver.accepts m.buffer.driver.batches = true →
    m.buffer.close.entries = m.staged.foldl BatchOp.apply initial
  close_refused : ∀ failure, m.buffer.drain.1 = .error failure →
    m.buffer.close.entries = m.buffer.driver.entries

/-- The buffer of a moment is the one that its changes make. -/
theorem buffer_foldl_change (m : Moment) (ops : List BatchOp) :
    (ops.foldl change m).buffer = ops.foldl (fun b op => (b.apply op).2) m.buffer := by
  induction ops generalizing m with
  | nil => rfl
  | cons op rest ih => exact ih (m.change op)

variable {initial : OrderedMap Bytes} {m : Moment}

namespace Kept

/-- Settling keeps the record. -/
theorem follow (h : m.Kept initial) {after : Buffered} (hsettles : m.buffer.Settles after) :
    (m.follow after).Kept initial := by
  cases hsettles with
  | untouched hbatch hentries hcontent =>
      have hwritten : (m.follow after).written = m.written := if_neg hbatch
      refine ⟨hwritten ▸ h.le, ?_, hcontent.trans h.content⟩
      rw [hwritten]
      exact hentries.trans h.driver
  | written hbatch hentries hcontent =>
      have hwritten : (m.follow after).written = m.staged.length := if_pos hbatch
      refine ⟨hwritten.le, ?_, hcontent.trans h.content⟩
      rw [hwritten]
      show after.driver.entries = (m.staged.take m.staged.length).foldl _ _
      rw [List.take_length, hentries, h.content]

/-- A change that becomes pending is not among those that the driver has. -/
theorem hold (h : m.Kept initial) (op : BatchOp) : (m.hold op).Kept initial where
  le := by
    rw [Moment.hold, List.length_append]
    exact h.le.trans (Nat.le_add_right ..)
  driver := by
    show (m.buffer.hold op).driver.entries = ((m.staged ++ [op]).take m.written).foldl _ _
    rw [driver_hold, List.take_append_of_le_length h.le, h.driver]
  content := by
    show (m.buffer.hold op).content = (m.staged ++ [op]).foldl _ _
    rw [content_hold, h.content, List.foldl_append]
    rfl

/-- A change keeps the record. -/
theorem change (h : m.Kept initial) (op : BatchOp) : (m.change op).Kept initial :=
  (h.hold op).follow (m.buffer.settles_apply op)

/-- Changes keep the record at every moment between them. -/
theorem scanl_change (h : m.Kept initial) (ops : List BatchOp) :
    ∀ x ∈ ops.scanl Moment.change m, x.Kept initial := by
  induction ops generalizing m with
  | nil =>
      intro x hx
      obtain rfl := List.mem_singleton.1 hx
      exact h
  | cons op rest ih =>
      intro x hx
      rw [List.scanl_cons] at hx
      rcases List.mem_cons.1 hx with rfl | hx
      · exact h
      · exact ih (h.change op) x hx

/-- Changes keep the record. -/
theorem foldl_change (h : m.Kept initial) (ops : List BatchOp) :
    (ops.foldl Moment.change m).Kept initial := by
  induction ops generalizing m with
  | nil => exact h
  | cons op rest ih => exact ih (h.change op)

/-- A request keeps the record. -/
theorem serve (h : m.Kept initial) (r : Request) : (m.serve r).Kept initial := by
  refine (h.foldl_change (r.changes m.buffer)).follow ?_
  rw [buffer_foldl_change]
  exact m.buffer.settles_serve r

/-- Requests keep the record at every moment that they pass through. -/
theorem course (h : m.Kept initial) (requests : List Request) :
    ∀ x ∈ m.course requests, x.Kept initial := by
  induction requests generalizing m with
  | nil =>
      intro x hx
      obtain rfl := List.mem_singleton.1 hx
      exact h
  | cons r rest ih =>
      intro x hx
      rcases List.mem_append.1 hx with hx | hx
      · exact h.scanl_change _ x hx
      · exact ih (h.serve r) x hx

/-- What happens to the driver next. -/
theorem durable (h : m.Kept initial) : m.Durable initial where
  toKept := h
  flush_error _ hflush := drain_error hflush
  compact_error _ hcompact := by
    obtain ⟨hout, hentries, -, hpending⟩ := m.buffer.compact_fields
    obtain ⟨hentries', hpending'⟩ := drain_error (hout ▸ hcompact)
    exact ⟨hentries.trans hentries', hpending.trans hpending'⟩
  change_error _ _ hchange := apply_error hchange
  flush_ok hflush := (drain_ok hflush).trans h.content
  compact_ok hcompact := by
    obtain ⟨hout, hentries, -, -⟩ := m.buffer.compact_fields
    exact hentries.trans ((drain_ok (hout ▸ hcompact)).trans h.content)
  close_accepted haccepted := (drain_ok (drain_eq_ok haccepted)).trans h.content
  close_refused _ hdrain := (drain_error hdrain).1

end Kept

/-- In front of any driver, with any size of batches and any time of compactions, every moment of
every sequence of requests is durable. -/
theorem durable_of_mem_course (d : Driver) (batchSize compactEvery : Nat)
    (requests : List Request) :
    ∀ m ∈ Moment.course { buffer := .make d batchSize compactEvery } requests,
      m.Durable d.entries := by
  have hstart : Kept d.entries { buffer := .make d batchSize compactEvery } := ⟨le_rfl, rfl, rfl⟩
  exact fun m hm => (hstart.course requests m hm).durable

/-- After a refused batch a pending write is overwritten. The batch that is taken next holds the
later write alone, and the driver has the three changes up to it, but not the fourth. -/
theorem durable_of_mem_course_overwritten :
    let ms := Moment.course { buffer := .make hesitant 2 0 }
      [.set [97] [5], .writeBatch [.delete [97, 98], .set [98] [4]], .set [97] [6], .set [98] [7]]
    ∃ m ∈ ms, m.staged = [.set [97] [5], .delete [97, 98], .set [97] [6], .set [98] [7]] ∧
      m.written = 3 ∧ m.buffer.driver.entries.entries = [([97], [6])] ∧
      m.Durable hesitant.entries := by
  intro ms
  have hlast : ms[8] ∈ ms := List.getElem_mem _
  exact ⟨ms[8], hlast, rfl, rfl, rfl, durable_of_mem_course hesitant 2 0 _ _ hlast⟩

end Moment

end Buffered

end SiteIndex.Store
