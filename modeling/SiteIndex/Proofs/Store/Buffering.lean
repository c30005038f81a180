import Mathlib.Logic.Function.Basic
import SiteIndex.Proofs.Store.Content

/-!
# A write buffer is one map

A `Request` is anything that is asked of a write buffer. The buffer is held against a plain map,
a function that nothing happens to but the changes that are made: every get and every scan gives
what that map gives (`faithful_of_mem_exchanges`), whichever batches the driver refuses, whatever
the size of batches and whenever the driver is compacted. A change counts as made also when the
drain that it sets off fails, for then it is still pending.
-/

namespace SiteIndex.Store.Buffered

/-! ## Requests -/

/-- What is asked of a buffer. -/
inductive Request where
  | set (key value : Bytes)
  | delete (key : Bytes)
  | writeBatch (ops : List BatchOp)
  | flush
  | compact
  | get (key : Bytes)
  | scan (front : Bytes)
  deriving DecidableEq, Repr

/-- What a buffer replies. -/
inductive Reply where
  | done (outcome : Outcome Unit)
  | value (outcome : Outcome Bytes)
  | entries (found : List (Bytes × Bytes))

/-- The outcome of a write as a reply. -/
def reporting (result : Outcome Unit × Buffered) : Reply × Buffered :=
  (.done result.1, result.2)

/-- Does what is asked. -/
def serve (b : Buffered) : Request → Reply × Buffered
  | .set key value => reporting (b.apply (.set key value))
  | .delete key => reporting (b.apply (.delete key))
  | .writeBatch ops => reporting (b.writeBatch ops)
  | .flush => reporting b.flush
  | .compact => reporting b.compact
  | .get key => (.value (b.get key), b)
  | .scan front => (.entries (b.scan front).entries, b)

/-- The changes of a batch that are made: those before the first that fails, and that one. -/
def made (b : Buffered) : List BatchOp → List BatchOp
  | [] => []
  | op :: rest =>
    match b.apply op with
    | (.ok (), b) => op :: b.made rest
    | (.error _, _) => [op]

/-- The changes that a request makes. -/
def Request.changes (b : Buffered) : Request → List BatchOp
  | .set key value => [.set key value]
  | .delete key => [.delete key]
  | .writeBatch ops => b.made ops
  | .flush | .compact | .get _ | .scan _ => []

/-! ## Batches -/

variable {b : Buffered}

/-- A batch goes on after a change that goes through. -/
theorem writeBatch_cons_of_ok {op : BatchOp} (h : (b.apply op).1 = .ok ())
    (rest : List BatchOp) :
    b.writeBatch (op :: rest) = (b.apply op).2.writeBatch rest ∧
      b.made (op :: rest) = op :: (b.apply op).2.made rest := by
  rw [writeBatch, made]
  generalize b.apply op = result at h ⊢
  obtain ⟨out, after⟩ := result
  dsimp only at h
  subst h
  exact ⟨rfl, rfl⟩

/-- A batch ends with a change that fails. -/
theorem writeBatch_cons_of_error {op : BatchOp} {failure : Failure}
    (h : (b.apply op).1 = .error failure) (rest : List BatchOp) :
    b.writeBatch (op :: rest) = (.error failure, (b.apply op).2) ∧
      b.made (op :: rest) = [op] := by
  rw [writeBatch, made]
  generalize b.apply op = result at h ⊢
  obtain ⟨out, after⟩ := result
  dsimp only at h
  subst h
  exact ⟨rfl, rfl⟩

/-- The first of the changes fails whose drain fails: those before it go through one after the
other, it fails with what the batch reports, and those after it are not made. -/
def StopsAt (b : Buffered) (ops : List BatchOp) (failure : Failure) : Prop :=
  ∃ before op after, ops = before ++ op :: after ∧ b.made ops = before ++ [op] ∧
    (b.writeBatch before).1 = .ok () ∧
    ((b.writeBatch before).2.apply op).1 = .error failure

/-- A batch makes all its changes or stops at one that fails. -/
theorem writeBatch_cases (b : Buffered) (ops : List BatchOp) :
    ((b.writeBatch ops).1 = .ok () ∧ b.made ops = ops) ∨
      ∃ failure, (b.writeBatch ops).1 = .error failure ∧ b.StopsAt ops failure := by
  induction ops generalizing b with
  | nil => exact .inl ⟨rfl, rfl⟩
  | cons op rest ih =>
      cases happly : (b.apply op).1 with
      | error failure =>
          obtain ⟨hwrite, hmade⟩ := writeBatch_cons_of_error happly rest
          exact .inr ⟨failure, by rw [hwrite], [], op, rest, rfl, hmade, rfl, happly⟩
      | ok _ =>
          obtain ⟨hwrite, hmade⟩ := writeBatch_cons_of_ok happly rest
          rw [hwrite, hmade]
          obtain ⟨hout, hall⟩ | ⟨failure, hout, hstops⟩ := ih (b.apply op).2
          · exact .inl ⟨hout, by rw [hall]⟩
          · obtain ⟨before, last, after, hops, hmade', hbefore, hlast⟩ := hstops
            obtain ⟨hfront, -⟩ := writeBatch_cons_of_ok happly before
            refine .inr ⟨failure, hout, op :: before, last, after, by rw [hops]; rfl, ?_, ?_, ?_⟩
            · rw [hmade, hmade']
              rfl
            · rw [hfront]
              exact hbefore
            · rw [hfront]
              exact hlast

/-- A batch is its changes made one after the other. -/
theorem writeBatch_eq_foldl (b : Buffered) (ops : List BatchOp) :
    (b.writeBatch ops).2 = (b.made ops).foldl (fun b op => (b.apply op).2) b := by
  induction ops generalizing b with
  | nil => rfl
  | cons op rest ih =>
      cases happly : (b.apply op).1 with
      | error failure =>
          obtain ⟨hwrite, hmade⟩ := writeBatch_cons_of_error happly rest
          rw [hwrite, hmade]
          rfl
      | ok _ =>
          obtain ⟨hwrite, hmade⟩ := writeBatch_cons_of_ok happly rest
          rw [hwrite, hmade]
          exact ih (b.apply op).2

/-- Changes made one after the other are made to the content. -/
theorem content_foldl_apply (b : Buffered) (ops : List BatchOp) :
    (ops.foldl (fun b op => (b.apply op).2) b).content
      = ops.foldl BatchOp.apply b.content := by
  induction ops generalizing b with
  | nil => rfl
  | cons op rest ih =>
      rw [List.foldl_cons, List.foldl_cons, ih, content_apply]

/-- Compacting leaves the content, whatever the driver does. -/
theorem content_compact (b : Buffered) : b.compact.2.content = b.content := by
  rw [← b.content_drain, compact]
  generalize b.drain = result
  obtain ⟨out, after⟩ := result
  cases out <;> rfl

/-- A request makes its changes to the content, whatever the driver does. -/
theorem content_serve (b : Buffered) (r : Request) :
    (b.serve r).2.content = (r.changes b).foldl BatchOp.apply b.content := by
  cases r with
  | set key value => exact b.content_apply (.set key value)
  | delete key => exact b.content_apply (.delete key)
  | writeBatch ops =>
      refine (congrArg content (b.writeBatch_eq_foldl ops)).trans ?_
      exact b.content_foldl_apply (b.made ops)
  | flush => exact b.content_drain
  | compact => exact b.content_compact
  | get key => rfl
  | scan front => rfl

/-! ## The plain map -/

/-- A plain map: the value under each key. -/
abbrev Plain := Bytes → Option Bytes

namespace Plain

/-- Makes a change. -/
def change (m : Plain) : BatchOp → Plain
  | .set key value => Function.update m key (some value)
  | .delete key => Function.update m key none

/-- The replies that a plain map gives. A get finds exactly the values of the map and finds
nothing exactly where there is none; a scan lists the entries below the prefix once each, in the
order of the keys. The reply to a write only tells how it went. -/
def Gives (m : Plain) : Request → Reply → Prop
  | .get key, .value outcome =>
      (∀ value, outcome = .ok value ↔ m key = some value) ∧
        ((∃ failure, outcome = .error failure ∧ failure.isNotFound = true) ↔ m key = none)
  | .scan front, .entries found =>
      OrderedMap.Ascending found ∧
        ∀ key value, (key, value) ∈ found ↔ front.isPrefixOf key = true ∧ m key = some value
  | .get _, _ | .scan _, _ => False
  | _, .done _ => True
  | _, _ => False

/-- Changes of an ordered map are changes of its look-up function. -/
theorem foldl_change_get? (ops : List BatchOp) (m : OrderedMap Bytes) :
    ops.foldl change m.get? = (ops.foldl BatchOp.apply m).get? := by
  induction ops generalizing m with
  | nil => rfl
  | cons op rest ih =>
      have hop : change m.get? op = (op.apply m).get? := by
        funext other
        rw [get?_apply]
        cases op with
        | set key value => exact Function.update_apply m.get? key (some value) other
        | delete key => exact Function.update_apply m.get? key none other
      rw [List.foldl_cons, List.foldl_cons, hop, ih]

end Plain

/-- A buffer gives the replies of its content. -/
theorem gives_serve (b : Buffered) (r : Request) :
    Plain.Gives b.content.get? r (b.serve r).1 := by
  cases r with
  | get key =>
      show (∀ value, b.get key = .ok value ↔ b.content.get? key = some value) ∧
        ((∃ failure, b.get key = .error failure ∧ failure.isNotFound = true) ↔
          b.content.get? key = none)
      cases h : b.content.get? key with
      | none =>
          rw [get_of_none h]
          exact ⟨by simp, fun _ => rfl, fun _ => ⟨_, rfl, rfl⟩⟩
      | some value =>
          rw [get_of_some h]
          exact ⟨by simp, by simp⟩
  | scan front =>
      refine ⟨(b.scan front).sorted, fun key value => ?_⟩
      rw [← OrderedMap.get?_eq_some_iff, b.scan_eq, OrderedMap.under, OrderedMap.get?_filterKeys]
      by_cases hp : front.isPrefixOf key = true <;> simp [hp]
  | set key value => trivial
  | delete key => trivial
  | writeBatch ops => trivial
  | flush => trivial
  | compact => trivial

/-! ## Sequences of requests -/

/-- A request, with the buffer and the plain map that it finds. -/
structure Exchange where
  buffer : Buffered
  map : Plain
  request : Request

namespace Exchange

/-- What the buffer replies. -/
def reply (x : Exchange) : Reply := (x.buffer.serve x.request).1

/-- The changes that are made to the plain map. -/
def changes (x : Exchange) : List BatchOp := x.request.changes x.buffer

/-- The buffer replies what the plain map gives, and a batch makes all its changes or stops at the
first whose drain fails. -/
structure Faithful (x : Exchange) : Prop where
  gives : x.map.Gives x.request x.reply
  batch : ∀ ops, x.request = .writeBatch ops →
    (x.reply = .done (.ok ()) ∧ x.changes = ops) ∨
      ∃ failure, x.reply = .done (.error failure) ∧ x.buffer.StopsAt ops failure

end Exchange

/-- Puts requests to a buffer one after the other, and their changes to a plain map. -/
def exchanges (b : Buffered) (m : Plain) : List Request → List Exchange
  | [] => []
  | r :: rest =>
    ⟨b, m, r⟩ :: exchanges (b.serve r).2 ((r.changes b).foldl Plain.change m) rest

/-- An exchange of a buffer and its content is faithful. -/
theorem faithful_content (b : Buffered) (r : Request) :
    Exchange.Faithful ⟨b, b.content.get?, r⟩ where
  gives := b.gives_serve r
  batch := by
    rintro ops rfl
    obtain ⟨hout, hmade⟩ | ⟨failure, hout, hstops⟩ := b.writeBatch_cases ops
    · exact .inl ⟨congrArg Reply.done hout, hmade⟩
    · exact .inr ⟨failure, congrArg Reply.done hout, hstops⟩

/-- Requests to a buffer are exchanges of the plain map that starts as its content. -/
theorem faithful_run (b : Buffered) (requests : List Request) :
    ∀ x ∈ exchanges b b.content.get? requests, x.Faithful := by
  induction requests generalizing b with
  | nil => simp [exchanges]
  | cons r rest ih =>
      intro x hx
      rw [exchanges, Plain.foldl_change_get?, ← b.content_serve r] at hx
      rcases List.mem_cons.1 hx with rfl | hx
      · exact b.faithful_content r
      · exact ih (b.serve r).2 x hx

/-- In front of any driver, with any size of batches and any time of compactions, every request
of a sequence is answered as by a plain map that starts with the entries of the driver and has
had the changes of the requests before. -/
theorem faithful_of_mem_exchanges (d : Driver) (batchSize compactEvery : Nat)
    (requests : List Request) :
    ∀ x ∈ exchanges (.make d batchSize compactEvery) d.entries.get? requests, x.Faithful :=
  faithful_run (.make d batchSize compactEvery) requests

/-- A driver with two entries that refuses its first batch. -/
def hesitant : Driver :=
  { name := "hesitant"
    entries := (OrderedMap.empty.insert [97] [1]).insert [97, 98] [2]
    refuses := fun number => number = 0 }

/-- A deletion and the first change of a batch are pending when the driver refuses them. The rest
of the batch is not made, and the scan sees both through the entries of the driver. -/
theorem faithful_of_mem_exchanges_refused :
    let xs := exchanges (.make hesitant 2 0) hesitant.entries.get?
      [.delete [97], .writeBatch [.set [97, 99] [3], .set [98] [4]], .get [97], .scan [97]]
    xs.map Exchange.changes = [[.delete [97]], [.set [97, 99] [3]], [], []] ∧
      ∃ x ∈ xs, x.request = .scan [97] ∧
        x.reply = .entries [([97, 98], [2]), ([97, 99], [3])] ∧ x.Faithful := by
  intro xs
  have hlast : xs[3] ∈ xs := List.getElem_mem _
  exact ⟨rfl, xs[3], hlast, rfl, rfl, faithful_of_mem_exchanges hesitant 2 0 _ _ hlast⟩

end SiteIndex.Store.Buffered
