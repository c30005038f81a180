import SiteIndex.Proofs.Store.Buffering

/-!
# What a write buffer holds back and when it compacts

The calls of a driver, batches and compactions, are read off its counts after each step of the
buffer in front of it. The `Ledger` of a buffer has all of them since the buffer was new, and every
`Turn` of a sequence of requests keeps to bounds on them (`bounded_of_mem_turns`): what is pending
is less than a batch after every single change and every flush that succeeds, what was written since
the last compaction is less than what makes one due, and only then a compaction is made that nobody
asked for. What carries this is that a step of the buffer `Advances` the account that is kept of the
driver's calls; the buffer's own count is the second part of that account.
-/

namespace SiteIndex.Store

/-! ## Calls of a driver -/

namespace Driver

/-- What a driver is asked for: to write a batch, or to reclaim space, either because the owner of
the store has `requested` it or because the buffer takes it to be due. -/
inductive Call where
  | batch (ops : List BatchOp)
  | compaction (requested : Bool)
  deriving DecidableEq, Repr

/-- Does what it is asked for. -/
def answer (d : Driver) : Call → Driver
  | .batch ops => (d.writeBatch ops).2
  | .compaction _ => d.compact

/-- Does what it is asked for, and keeps account of the mutations that were written since the last
compaction. A batch that is refused writes nothing. -/
def account : Driver × Nat → Call → Driver × Nat
  | (d, written), .batch ops =>
    match d.writeBatch ops with
    | (.ok (), d) => (d, written + ops.length)
    | (.error _, d) => (d, written)
  | (d, _), .compaction _ => (d.compact, 0)

/-- How many mutations the calls write after the last compaction among them. -/
def writtenSince (d : Driver) (calls : List Call) : Nat := (calls.foldl account (d, 0)).2

/-- The calls that lead from one state of a driver to a later one, as its counts tell them: batches
of the changes, and then compactions. -/
def callsTo (before after : Driver) (ops : List BatchOp) (requested : Bool) : List Call :=
  List.replicate (after.batches - before.batches) (.batch ops) ++
    List.replicate (after.compactions - before.compactions) (.compaction requested)

/-- Keeping account does not change what the driver does. -/
theorem fst_foldl_account (calls : List Call) (d : Driver) (written : Nat) :
    (calls.foldl account (d, written)).1 = calls.foldl answer d := by
  induction calls generalizing d written with
  | nil => rfl
  | cons call rest ih =>
      have hcall : (account (d, written) call).1 = d.answer call := by
        cases call with
        | batch ops =>
            rw [account, answer]
            generalize d.writeBatch ops = result
            obtain ⟨out, after⟩ := result
            cases out <;> rfl
        | compaction requested => rfl
      rw [List.foldl_cons, List.foldl_cons, ← hcall]
      exact ih ..

/-- A driver that was not asked for anything. -/
theorem callsTo_self (d : Driver) (ops : List BatchOp) (requested : Bool) :
    d.callsTo d ops requested = [] := by
  simp [callsTo]

/-- Compactions on either account are told apart. -/
theorem eq_of_compaction_mem_callsTo {before after : Driver} {ops : List BatchOp}
    {requested requested' : Bool}
    (h : .compaction requested' ∈ before.callsTo after ops requested) :
    requested' = requested := by
  rw [callsTo, List.mem_append, List.mem_replicate, List.mem_replicate] at h
  obtain ⟨-, h⟩ | ⟨-, h⟩ := h
  · cases h
  · exact (Call.compaction.inj h)

/-- A batch that is refused is counted. -/
theorem account_refused {d : Driver} (h : d.accepts d.batches = false) (ops : List BatchOp)
    (written : Nat) :
    account (d, written) (.batch ops) = ({ d with batches := d.batches + 1 }, written) := by
  obtain ⟨-, failure, hwrite⟩ | ⟨haccepted, -⟩ := d.writeBatch_cases ops
  · rw [account, hwrite]
  · rw [h] at haccepted
    cases haccepted

/-- A batch that is taken is counted, and its mutations are written. -/
theorem account_taken {d : Driver} (h : d.accepts d.batches = true) (ops : List BatchOp)
    (written : Nat) :
    account (d, written) (.batch ops)
      = ({ d with batches := d.batches + 1, entries := ops.foldl BatchOp.apply d.entries },
        written + ops.length) := by
  obtain ⟨hrefused, -⟩ | ⟨-, hwrite⟩ := d.writeBatch_cases ops
  · rw [h] at hrefused
    cases hrefused
  · rw [account, hwrite]

end Driver

namespace Buffered

open Driver (Call)

variable {b b' b'' : Buffered}

/-! ## Calls of a request -/

/-- What a drain asks of the driver. -/
def drainCalls (b : Buffered) : List Call := b.driver.callsTo b.drain.2.driver b.ops false

/-- What a change asks of the driver. A batch holds the change too. -/
def changeCalls (b : Buffered) (op : BatchOp) : List Call :=
  b.driver.callsTo (b.apply op).2.driver (b.hold op).ops false

/-- What changes ask of the driver one after the other. -/
def changesCalls (b : Buffered) : List BatchOp → List Call
  | [] => []
  | op :: rest => b.changeCalls op ++ (b.apply op).2.changesCalls rest

/-- What a request asks of the driver. A compaction is requested by what follows the drain. -/
def calls (b : Buffered) : Request → List Call
  | .set key value => b.changeCalls (.set key value)
  | .delete key => b.changeCalls (.delete key)
  | .writeBatch ops => b.changesCalls (b.made ops)
  | .flush => b.drainCalls
  | .compact => b.drainCalls ++ b.drain.2.driver.callsTo b.compact.2.driver [] true
  | .get _ | .scan _ => []

/-- The calls lead from one buffer to the next: the account that is kept of them has the driver and
the count of the next one, compactions that were not requested are due, and none that is due stays
out. -/
structure Advances (b : Buffered) (calls : List Call) (after : Buffered) : Prop where
  batchSize : after.batchSize = b.batchSize
  compactEvery : after.compactEvery = b.compactEvery
  account : calls.foldl Driver.account (b.driver, b.sinceCompaction)
    = (after.driver, after.sinceCompaction)
  due : ∀ front back, calls = front ++ .compaction false :: back → 0 < b.compactEvery ∧
    b.compactEvery ≤ (front.foldl Driver.account (b.driver, b.sinceCompaction)).2
  lt : 0 < b.compactEvery → b.sinceCompaction < b.compactEvery →
    after.sinceCompaction < b.compactEvery

namespace Advances

/-- Whatever is pending, without a call nothing advances. -/
theorem of_pending (b : Buffered) (pending : OrderedMap (Option Bytes)) :
    b.Advances [] { b with pending } where
  batchSize := rfl
  compactEvery := rfl
  account := rfl
  due := by simp
  lt _ h := h

/-- Calls after calls. -/
theorem trans {calls calls' : List Call} (h : b.Advances calls b') (h' : b'.Advances calls' b'') :
    b.Advances (calls ++ calls') b'' where
  batchSize := h'.batchSize.trans h.batchSize
  compactEvery := h'.compactEvery.trans h.compactEvery
  account := by rw [List.foldl_append, h.account, h'.account]
  due front back heq := by
    rcases List.append_eq_append_iff.1 heq with ⟨mid, rfl, hback⟩ | ⟨mid, hcalls, hback⟩
    · have hdue := h'.due mid back hback
      rw [h.compactEvery] at hdue
      rwa [List.foldl_append, h.account]
    · cases mid with
      | nil =>
          have hdue := h'.due [] back hback.symm
          rw [List.append_nil] at hcalls
          rw [h.compactEvery] at hdue
          rwa [← hcalls, h.account]
      | cons call mid =>
          obtain ⟨rfl, -⟩ := List.cons.inj hback
          exact h.due front mid hcalls
  lt hpos hlt := by
    have hlt' := h'.lt
    rw [h.compactEvery] at hlt'
    exact hlt' hpos (h.lt hpos hlt)

end Advances

/-- A buffer whose pending writes the driver has taken goes on with a compaction if one is due. -/
theorem advances_taken (h : b.driver.accepts b.driver.batches = true) :
    b.Advances (b.driver.callsTo b.taken.driver b.ops false) b.taken := by
  have hbatch := Driver.account_taken h b.ops b.sinceCompaction
  rw [foldl_ops, show b.ops.length = b.pending.size from List.length_map _] at hbatch
  unfold taken compactIfDue
  split
  case isTrue hdue =>
    have hcalls : b.driver.callsTo
        { b.driver with
          batches := b.driver.batches + 1
          entries := b.content
          compactions := b.driver.compactions + 1 } b.ops false
        = [.batch b.ops, .compaction false] := by simp [Driver.callsTo]
    refine hcalls ▸ ⟨rfl, rfl, ?_, fun front back heq => ?_, fun hpos _ => hpos⟩
    · rw [List.foldl_cons, hbatch]
      rfl
    · -- The compaction stands behind the batch alone.
      obtain rfl : front = [.batch b.ops] := by
        rcases List.cons_eq_append_iff.1 heq with ⟨rfl, hback⟩ | ⟨mid, rfl, hmid⟩
        · simp at hback
        · rcases List.cons_eq_append_iff.1 hmid with ⟨rfl, -⟩ | ⟨last, rfl, hlast⟩
          · rfl
          · simp at hlast
      rw [List.foldl_cons, hbatch]
      exact hdue
  case isFalse hdue =>
    have hcalls : b.driver.callsTo
        { b.driver with batches := b.driver.batches + 1, entries := b.content } b.ops false
        = [.batch b.ops] := by simp [Driver.callsTo]
    refine hcalls ▸ ⟨rfl, rfl, hbatch, by simp [List.cons_eq_append_iff], fun hpos _ => ?_⟩
    exact Nat.lt_of_not_le fun hle => hdue ⟨hpos, hle⟩

/-- What a drain asks of the driver in each of its cases. -/
theorem advances_drain (b : Buffered) : b.Advances b.drainCalls b.drain.2 := by
  rw [drainCalls]
  obtain ⟨-, hdrain⟩ | ⟨-, hrefused, failure, hdrain⟩ | ⟨-, haccepted, hdrain⟩ := b.drain_cases
  · rw [hdrain, Driver.callsTo_self]
    exact .of_pending b b.pending
  · have hcalls : b.driver.callsTo b.refused.driver b.ops false = [.batch b.ops] := by
      simp [Driver.callsTo, refused]
    rw [hdrain, hcalls]
    exact ⟨rfl, rfl, Driver.account_refused hrefused .., by simp [List.cons_eq_append_iff],
      fun _ h => h⟩
  · rw [hdrain]
    exact advances_taken haccepted

/-- A change becomes pending, and a full buffer is drained. -/
theorem advances_apply (b : Buffered) (op : BatchOp) :
    b.Advances (b.changeCalls op) (b.apply op).2 := by
  have hhold : b.Advances [] (b.hold op) := by cases op <;> exact .of_pending ..
  rw [changeCalls, apply_eq]
  split
  case isTrue =>
    have hdrain := hhold.trans (b.hold op).advances_drain
    rw [drainCalls, driver_hold] at hdrain
    exact hdrain
  case isFalse =>
    rw [driver_hold, Driver.callsTo_self]
    exact hhold

/-- Changes are made one after the other. -/
theorem advances_foldl_apply (b : Buffered) (ops : List BatchOp) :
    b.Advances (b.changesCalls ops) (ops.foldl (fun b op => (b.apply op).2) b) := by
  induction ops generalizing b with
  | nil => exact .of_pending b b.pending
  | cons op rest ih => exact (b.advances_apply op).trans (ih (b.apply op).2)

/-- A compaction that was requested follows a drain that succeeds. -/
theorem compact_cases (b : Buffered) :
    (∃ failure, b.compact = (.error failure, b.drain.2)) ∨ b.compact = (.ok (),
      { b.drain.2 with driver := b.drain.2.driver.compact, sinceCompaction := 0 }) := by
  rw [compact]
  generalize b.drain = result
  obtain ⟨out, after⟩ := result
  cases out with
  | ok _ => exact .inr rfl
  | error failure => exact .inl ⟨failure, rfl⟩

/-- Compacting drains, and compacts if that succeeds. -/
theorem advances_compact (b : Buffered) : b.Advances (b.calls .compact) b.compact.2 := by
  rw [calls]
  refine b.advances_drain.trans ?_
  obtain ⟨failure, hcompact⟩ | hcompact := b.compact_cases
  · rw [hcompact, Driver.callsTo_self]
    exact .of_pending b.drain.2 b.drain.2.pending
  · have hcalls : b.drain.2.driver.callsTo b.drain.2.driver.compact [] true
        = [.compaction true] := by simp [Driver.callsTo, Driver.compact]
    rw [hcompact, hcalls]
    exact ⟨rfl, rfl, rfl, by simp [List.cons_eq_append_iff], fun hpos _ => hpos⟩

/-- Every request advances the account. -/
theorem advances_serve (b : Buffered) (r : Request) : b.Advances (b.calls r) (b.serve r).2 := by
  cases r with
  | set key value => exact b.advances_apply (.set key value)
  | delete key => exact b.advances_apply (.delete key)
  | writeBatch ops =>
      show b.Advances (b.changesCalls (b.made ops)) (b.writeBatch ops).2
      rw [b.writeBatch_eq_foldl ops]
      exact b.advances_foldl_apply (b.made ops)
  | flush => exact b.advances_drain
  | compact => exact b.advances_compact
  | get key => exact .of_pending b b.pending
  | scan front => exact .of_pending b b.pending

/-! ## What is pending -/

/-- A drain that succeeds leaves nothing pending. -/
theorem pending_of_drain_ok (h : b.drain.1 = .ok ()) : b.drain.2.pending.size = 0 := by
  obtain ⟨hempty, hdrain⟩ | ⟨-, -, failure, hdrain⟩ | ⟨-, -, hdrain⟩ := b.drain_cases
  · rw [hdrain]
    exact congrArg List.length (List.isEmpty_iff.1 hempty)
  · rw [hdrain] at h
    cases h
  · rw [hdrain, b.taken_fields.2.2.1]
    rfl

/-- After a change that succeeds less is pending than makes a batch. -/
theorem pending_of_apply_ok (hpos : 0 < b.batchSize) (op : BatchOp)
    (h : (b.apply op).1 = .ok ()) : (b.apply op).2.pending.size < b.batchSize := by
  rw [apply_eq] at h ⊢
  split at h
  case isTrue hfull =>
    rw [if_pos hfull, pending_of_drain_ok h]
    exact hpos
  case isFalse hroom =>
    rw [if_neg hroom]
    exact Nat.lt_of_not_le hroom

/-- A single change, or a flush. -/
def Request.IsSingle : Request → Prop
  | .set _ _ | .delete _ | .flush => True
  | .writeBatch _ | .compact | .get _ | .scan _ => False

/-- After a single change or a flush that succeeds less is pending than makes a batch. -/
theorem pending_of_serve_ok (hpos : 0 < b.batchSize) {r : Request} (hr : r.IsSingle)
    (h : (b.serve r).1 = .done (.ok ())) : (b.serve r).2.pending.size < b.batchSize := by
  cases r with
  | set key value => exact pending_of_apply_ok hpos (.set key value) (Reply.done.inj h)
  | delete key => exact pending_of_apply_ok hpos (.delete key) (Reply.done.inj h)
  | flush =>
      show b.drain.2.pending.size < b.batchSize
      rw [pending_of_drain_ok (Reply.done.inj h)]
      exact hpos
  | writeBatch | compact | get | scan => exact hr.elim

/-! ## Requested compactions -/

/-- A drain asks for no compaction in the name of the owner. -/
theorem requested_not_mem_drainCalls (b : Buffered) : .compaction true ∉ b.drainCalls :=
  fun h => Bool.noConfusion (Driver.eq_of_compaction_mem_callsTo h)

/-- Changes ask for no compaction in the name of the owner. -/
theorem requested_not_mem_changesCalls (b : Buffered) (ops : List BatchOp) :
    .compaction true ∉ b.changesCalls ops := by
  induction ops generalizing b with
  | nil => exact List.not_mem_nil
  | cons op rest ih =>
      rw [changesCalls, List.mem_append, not_or]
      exact ⟨fun h => Bool.noConfusion (Driver.eq_of_compaction_mem_callsTo h), ih _⟩

/-- A request to compact has one compaction made if its drain succeeds, and no other request has
one made. -/
theorem count_requested (b : Buffered) (r : Request) :
    (b.calls r).count (.compaction true) ≤ 1 ∧
      (.compaction true ∈ b.calls r ↔ r = .compact ∧ (b.serve r).1 = .done (.ok ())) := by
  have hnone : .compaction true ∉ b.calls r → r ≠ .compact →
      (b.calls r).count (.compaction true) ≤ 1 ∧
        (.compaction true ∈ b.calls r ↔ r = .compact ∧ (b.serve r).1 = .done (.ok ())) := by
    intro hcalls hr
    exact ⟨by rw [List.count_eq_zero.2 hcalls]; omega, by simp [hcalls, hr]⟩
  cases r with
  | set key value =>
      refine hnone (fun h => ?_) (by simp)
      exact Bool.noConfusion (Driver.eq_of_compaction_mem_callsTo h)
  | delete key =>
      refine hnone (fun h => ?_) (by simp)
      exact Bool.noConfusion (Driver.eq_of_compaction_mem_callsTo h)
  | writeBatch ops => exact hnone (b.requested_not_mem_changesCalls _) (by simp)
  | flush => exact hnone b.requested_not_mem_drainCalls (by simp)
  | compact =>
      have hdrain := List.count_eq_zero.2 b.requested_not_mem_drainCalls
      rw [calls, List.count_append, hdrain, List.mem_append, serve, reporting]
      obtain ⟨failure, hcompact⟩ | hcompact := b.compact_cases
      · rw [hcompact, Driver.callsTo_self]
        simp [b.requested_not_mem_drainCalls]
      · rw [hcompact]
        simp [Driver.callsTo, Driver.compact]
  | get key => exact hnone List.not_mem_nil (by simp)
  | scan front => exact hnone List.not_mem_nil (by simp)

/-! ## Sequences of requests -/

/-- A buffer, and all that was asked of its driver since the buffer was new. -/
structure Ledger where
  buffer : Buffered
  calls : List Call := []

/-- A request, with the ledger that it finds. -/
structure Turn where
  ledger : Ledger
  request : Request

namespace Turn

/-- What is asked of the driver. -/
def calls (t : Turn) : List Call := t.ledger.buffer.calls t.request

/-- What the buffer replies. -/
def reply (t : Turn) : Reply := (t.ledger.buffer.serve t.request).1

/-- The ledger that the request leaves. -/
def after (t : Turn) : Ledger :=
  { buffer := (t.ledger.buffer.serve t.request).2, calls := t.ledger.calls ++ t.calls }

/-- The buffer of a driver that started as `d` keeps to its bounds. -/
structure Bounded (d : Driver) (batchSize compactEvery : Nat) (t : Turn) : Prop where
  /-- The ledger has what the driver was asked for. -/
  driver : t.after.calls.foldl Driver.answer d = t.after.buffer.driver
  /-- Less than a batch is pending after a single change or a flush that succeeds. -/
  pending : t.request.IsSingle → t.reply = .done (.ok ()) →
    t.after.buffer.pending.size < max 1 batchSize
  /-- Less was written since the last compaction than makes one due. -/
  written : 0 < compactEvery → d.writtenSince t.after.calls < compactEvery
  /-- A compaction that was not requested was due. -/
  due : ∀ front back, t.after.calls = front ++ .compaction false :: back →
    0 < compactEvery ∧ compactEvery ≤ d.writtenSince front
  /-- A compaction is requested by a request to compact that succeeds. -/
  requested : .compaction true ∈ t.calls ↔ t.request = .compact ∧ t.reply = .done (.ok ())
  once : t.calls.count (.compaction true) ≤ 1

end Turn

namespace Ledger

/-- Puts requests to a buffer one after the other. -/
def turns (l : Ledger) : List Request → List Turn
  | [] => []
  | r :: rest => ⟨l, r⟩ :: (Turn.after ⟨l, r⟩).turns rest

/-- All requests so far have advanced the account. -/
theorem advances_turns {start : Buffered} {l : Ledger} (h : start.Advances l.calls l.buffer)
    (requests : List Request) :
    ∀ t ∈ l.turns requests, start.Advances t.ledger.calls t.ledger.buffer := by
  induction requests generalizing l with
  | nil => simp [turns]
  | cons r rest ih =>
      intro t ht
      rcases List.mem_cons.1 ht with rfl | ht
      · exact h
      · exact ih (h.trans (l.buffer.advances_serve r)) t ht

/-- In front of any driver, with any size of batches and any time of compactions, every turn of
every sequence of requests is bounded. -/
theorem bounded_of_mem_turns (d : Driver) (batchSize compactEvery : Nat)
    (requests : List Request) :
    ∀ t ∈ turns { buffer := .make d batchSize compactEvery } requests,
      t.Bounded d batchSize compactEvery := by
  intro t ht
  have hstart := (Advances.of_pending (.make d batchSize compactEvery) ∅)
  have hbefore := advances_turns (l := { buffer := .make d batchSize compactEvery }) hstart requests
    t ht
  have hafter := hbefore.trans (t.ledger.buffer.advances_serve t.request)
  -- What the buffer counts is what the account of all calls so far ends with.
  have hwritten : d.writtenSince t.after.calls = t.after.buffer.sinceCompaction :=
    congrArg Prod.snd hafter.account
  obtain ⟨honce, hrequested⟩ := t.ledger.buffer.count_requested t.request
  refine ⟨?_, fun hsingle hok => ?_, fun hpos => ?_, hafter.due, hrequested, honce⟩
  · rw [← Driver.fst_foldl_account t.after.calls d 0]
    exact congrArg Prod.fst hafter.account
  · have hsize : t.ledger.buffer.batchSize = max batchSize 1 := hbefore.batchSize
    have hpending := pending_of_serve_ok (by omega) hsingle hok
    rw [hsize, Nat.max_comm] at hpending
    exact hpending
  · rw [hwritten]
    exact hafter.lt hpos hpos

/-- The first batch is refused, and a key of it is written again before the next one is taken. The
third mutation makes a compaction due, and another one is requested in the end. -/
theorem bounded_of_mem_turns_refused :
    let ts := turns { buffer := .make hesitant 2 3 }
      [.set [97] [5], .set [98] [6], .set [97] [7], .delete [99], .flush, .set [100] [8], .compact]
    ∃ t ∈ ts, t.request = .compact ∧
      t.after.calls = [.batch [.set [97] [5], .set [98] [6]], .batch [.set [97] [7], .set [98] [6]],
        .batch [.delete [99]], .compaction false, .batch [.set [100] [8]], .compaction true] ∧
      t.Bounded hesitant 2 3 := by
  intro ts
  have hlast : ts[6] ∈ ts := List.getElem_mem _
  exact ⟨ts[6], hlast, rfl, rfl, bounded_of_mem_turns hesitant 2 3 _ _ hlast⟩

end Ledger

end Buffered

end SiteIndex.Store
