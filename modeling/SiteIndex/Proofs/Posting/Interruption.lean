import SiteIndex.Proofs.Posting.Coherence
import SiteIndex.Proofs.Store.Buffering

/-!
# Operations that are interrupted

An operation of the posting tables changes one cell after another; its `Op.plan` lists the changes.
Behind a write buffer each of them may be the one whose batch the driver refuses. The operation then
ends with the failure of the driver, that change is made like those before it, and the ones after it
are not. `Obeys` says this of an action and a plan, with one rule for each way of putting actions
together, and `Op.exists_runs` says it of every operation.
-/

namespace SiteIndex.Store

/-- A driver fails in this way when it does not take a batch. -/
def Refusal (failure : Failure) : Prop :=
  ∃ (d : Driver) (ops : List BatchOp), (d.writeBatch ops).1 = .error failure

namespace Buffered

variable {b : Buffered} {failure : Failure}

/-- A drain fails as the driver does. -/
theorem refusal_of_drain (h : b.drain.1 = .error failure) : Refusal failure := by
  unfold drain at h
  split at h
  · cases h
  · split at h
    case h_1 refused _ hwrite =>
      cases h
      exact ⟨b.driver, b.ops, congrArg Prod.fst hwrite⟩
    case h_2 => cases h

/-- A change fails as the driver does. -/
theorem refusal_of_apply {op : BatchOp} (h : (b.apply op).1 = .error failure) :
    Refusal failure := by
  rw [apply_eq] at h
  split at h
  · exact refusal_of_drain h
  · cases h

end Buffered

end SiteIndex.Store

namespace SiteIndex.Posting

open Store (Namespace OrderedMap Refusal)
open Store.Key (isName)
open SiteIndex.Action (Takes run_bind_of_ok run_bind_of_error)

/-! ## Plans -/

/-- A cell gets a new entry or loses the one that it has. -/
structure Edit where
  cell : Cell
  entry : Option cell.Entry

/-- The change as a change of a store. -/
def Edit.op (ns : Namespace) (x : Edit) : Store.BatchOp :=
  match x.entry with
  | some e => .set (x.cell.key ns) (x.cell.bytes e)
  | none => .delete (x.cell.key ns)

/-- A cell loses its entry. -/
def Edit.clearing (c : Cell) : Edit := ⟨c, none⟩

namespace Fields

variable (f : Fields)

/-- The fields after a change. -/
def change (x : Edit) : Fields := f.put x.cell x.entry

/-- The fields after several changes. -/
def after (xs : List Edit) : Fields := xs.foldl change f

/-- More changes come after those before them. -/
theorem after_append (xs ys : List Edit) : f.after (xs ++ ys) = (f.after xs).after ys :=
  List.foldl_append ..

/-- Other stubs under a heading; without stubs there is no entry. -/
def stubsChange (heading : Heading) (stubs : StubSet) : Edit :=
  ⟨.postings heading, if stubs = ∅ then none else some stubs⟩

/-- A new shasum gets its number, the number its shasum, and the counter goes on. -/
def ensureStubPlan (shasum : String) : List Edit :=
  match f (.stubIndex shasum) with
  | some _ => []
  | none =>
    [⟨.stubIndex shasum, some f.nextStub⟩, ⟨.stubShasum f.nextStub, some shasum⟩,
      ⟨.nextStub, some (f.nextStub + 1)⟩]

/-- A shasum loses its number and then the number its shasum. -/
def forgetStubPlan (shasum : String) : List Edit :=
  match f (.stubIndex shasum) with
  | none => []
  | some index => [.clearing (.stubIndex shasum), .clearing (.stubShasum index)]

/-- A stub is written to the postings of a heading if it is not there. -/
def postPlan (heading : Heading) (stub : UInt32) : List Edit :=
  if (f.stubs heading).contains stub then []
  else [stubsChange heading ((f.stubs heading).insert stub)]

/-- A stub is taken from the postings of a heading if it is there. -/
def unpostPlan (heading : Heading) (stub : UInt32) : List Edit :=
  if (f.stubs heading).contains stub then
    [stubsChange heading ((f.stubs heading).erase stub)]
  else []

/-- A new value gets its slot, the slot its value, and the counter goes on. -/
def ensureSlotPlan (name : Name) (value : Value) : List Edit :=
  match f (.valueSlot name value.hash) with
  | some _ => []
  | none =>
    [⟨.valueSlot name value.hash, some (f.nextSlot name)⟩,
      ⟨.slotValue name (f.nextSlot name), some value⟩,
      ⟨.nextSlot name, some (f.nextSlot name + 1)⟩]

/-- A value gets a slot if it has none, and then the stub is posted. -/
def addValuePlan (name : Name) (value : Value) (stub : UInt32) : List Edit :=
  f.ensureSlotPlan name value ++
    (f.ensureSlot name value).2.postPlan (.slot name (f.ensureSlot name value).1) stub

/-- A stub is taken from a value. With the last stub go the postings of the slot, its value and then
the slot of the value. -/
def removeValuePlan (name : Name) (value : Value) (stub : UInt32) : List Edit :=
  match f (.valueSlot name value.hash) with
  | none => []
  | some slot =>
    if (f.stubs (.slot name slot)).contains stub ∧ (f.stubs (.slot name slot)).erase stub = ∅ then
      [.clearing (.postings (.slot name slot)), .clearing (.slotValue name slot),
        .clearing (.valueSlot name value.hash)]
    else f.unpostPlan (.slot name slot) stub

/-- The whole plan numbers a shasum. -/
theorem after_ensureStubPlan (shasum : String) :
    f.after (f.ensureStubPlan shasum) = (f.ensureStub shasum).2 := by
  unfold ensureStubPlan ensureStub
  cases f (.stubIndex shasum) <;> rfl

/-- The whole plan forgets a shasum. -/
theorem after_forgetStubPlan (shasum : String) :
    f.after (f.forgetStubPlan shasum) = (f.forgetStub shasum).2 := by
  unfold forgetStubPlan forgetStub
  cases f (.stubIndex shasum) <;> rfl

/-- The whole plan posts a stub. -/
theorem after_postPlan (heading : Heading) (stub : UInt32) :
    f.after (f.postPlan heading stub) = (f.post heading stub).2 := by
  unfold postPlan post
  split <;> rfl

/-- The whole plan takes a stub away. -/
theorem after_unpostPlan (heading : Heading) (stub : UInt32) :
    f.after (f.unpostPlan heading stub) = (f.unpost heading stub).2 := by
  unfold unpostPlan unpost
  split <;> rfl

/-- The whole plan gives a value its slot. -/
theorem after_ensureSlotPlan (name : Name) (value : Value) :
    f.after (f.ensureSlotPlan name value) = (f.ensureSlot name value).2 := by
  unfold ensureSlotPlan ensureSlot
  cases f (.valueSlot name value.hash) <;> rfl

/-- The whole plan posts a stub under a value. -/
theorem after_addValuePlan (name : Name) (value : Value) (stub : UInt32) :
    f.after (f.addValuePlan name value stub) = (f.addValue name value stub).2 := by
  rw [addValuePlan, after_append, after_ensureSlotPlan, after_postPlan, addValue]

/-- The whole plan takes a stub away from a value. -/
theorem after_removeValuePlan (name : Name) (value : Value) (stub : UInt32) :
    f.after (f.removeValuePlan name value stub) = (f.removeValue name value stub).2 := by
  unfold removeValuePlan removeValue
  cases f (.valueSlot name value.hash) with
  | none => rfl
  | some slot =>
      dsimp only
      split
      · rfl
      · exact f.after_unpostPlan _ stub

end Fields

/-! ## Interruptions -/

/-- The store is a buffer, in front of whatever driver, that shows fields of the namespace; `t`
gives those of the other. -/
def Fronts (t : Namespace → Fields) (ns : Namespace) (s : Store) (f : Fields) : Prop :=
  ∃ b, s = .buffered b ∧ Stored b.content (Function.update t ns f)

/-- Behind every buffer the action either makes all changes and comes to the outcome, or the driver
refuses a batch on the way and its failure ends the action. At least one change has been made then,
and none comes after the one that met the refusal. -/
def Obeys {α : Type} (t : Namespace → Fields) (ns : Namespace) (x : Action Store α) (f : Fields)
    (xs : List Edit) (out : Outcome α) : Prop :=
  ∀ s, Fronts t ns s f → ∃ made ≤ xs.length,
    Fronts t ns (x.run s).2 (f.after (xs.take made)) ∧
      (((x.run s).1 = out ∧ made = xs.length) ∨
        (0 < made ∧ ∃ failure, Refusal failure ∧ (x.run s).1 = .error failure))

namespace Obeys

variable {α β : Type} {t : Namespace → Fields} {ns : Namespace} {f : Fields} {xs ys : List Edit}
  {x : Action Store α} {g : α → Action Store β}

/-- An action that leaves the fields alone has nothing to make. -/
theorem of_takes {out : Outcome α} (h : Takes (Fronts t ns) x f out f) : Obeys t ns x f [] out := by
  intro s hs
  obtain ⟨hout, hrest⟩ := h s hs
  exact ⟨0, Nat.le_refl 0, hrest, .inl ⟨hout, rfl⟩⟩

/-- A plain result. -/
theorem pure (a : α) : Obeys t ns (Pure.pure a) f [] (.ok a) := of_takes (Takes.pure a)

/-- The plan of an action that goes on is that of its parts, one after the other. -/
theorem bind {a : α} {out : Outcome β} (hx : Obeys t ns x f xs (.ok a))
    (hg : Obeys t ns (g a) (f.after xs) ys out) : Obeys t ns (x >>= g) f (xs ++ ys) out := by
  intro s hs
  obtain ⟨made, hmade, hrest, ⟨hout, rfl⟩ | ⟨hpos, failure, hrefusal, hout⟩⟩ := hx s hs
  · rw [List.take_length] at hrest
    rw [run_bind_of_ok hout]
    obtain ⟨more, hmore, hrest', hend⟩ := hg _ hrest
    refine ⟨xs.length + more, ?_, ?_, ?_⟩
    · rw [List.length_append]
      exact Nat.add_le_add_left hmore _
    · rwa [List.take_length_add_append, Fields.after_append]
    · obtain ⟨hout', rfl⟩ | ⟨hpos, hfailure⟩ := hend
      · exact .inl ⟨hout', List.length_append.symm⟩
      · exact .inr ⟨Nat.add_pos_right _ hpos, hfailure⟩
  · rw [run_bind_of_error hout]
    refine ⟨made, hmade.trans (by simp), ?_, .inr ⟨hpos, failure, hrefusal, rfl⟩⟩
    rwa [List.take_append_of_le_length hmade]

/-- What has nothing left to make after its first part has the plan of that part. -/
theorem bind_pure {a : α} {b : β} (hx : Obeys t ns x f xs (.ok a)) (hg : g a = Pure.pure b) :
    Obeys t ns (x >>= g) f xs (.ok b) := by
  have hbind : Obeys t ns (x >>= g) f (xs ++ []) (.ok b) := bind hx (hg ▸ pure b)
  rwa [List.append_nil] at hbind

/-- An outcome that goes well hands its value on. -/
theorem lift_bind {out : Outcome α} {a : α} {out' : Outcome β} (hout : out = .ok a)
    (hg : Obeys t ns (g a) f xs out') : Obeys t ns ((liftM out : Action Store α) >>= g) f xs out' :=
  bind (of_takes (hout ▸ Takes.lift out)) hg

/-- A look-up answers from the fields. -/
theorem takes_get? (c : Cell) :
    Takes (Fronts t ns) (Store.get? (c.key ns)) f (.ok ((f c).map c.bytes)) f := by
  rintro s ⟨b, rfl, hb⟩
  have hget := hb.get?_key ns c
  rw [Function.update_self] at hget
  rw [Store.run_get?, ← hget]
  exact ⟨rfl, b, rfl, hb⟩

/-- One change is made whether the driver takes the batch or not. -/
theorem change (x : Edit) : Obeys t ns (Store.apply (x.op ns)) f [x] (.ok ()) := by
  rintro s ⟨b, rfl, hb⟩
  have hstored : Stored (b.apply (x.op ns)).2.content (Function.update t ns (f.change x)) := by
    rw [b.content_apply]
    obtain ⟨c, entry⟩ := x
    cases entry with
    | some e => exact hb.insert c e
    | none => exact hb.erase c
  refine ⟨1, Nat.le_refl 1, ⟨_, rfl, hstored⟩, ?_⟩
  cases hout : (b.apply (x.op ns)).1 with
  | ok _ => exact .inl ⟨hout, rfl⟩
  | error failure =>
      exact .inr ⟨Nat.one_pos, failure, Store.Buffered.refusal_of_apply hout, hout⟩

/-- An entry is set, and then comes the rest. -/
theorem set_bind {g : Unit → Action Store β} {out : Outcome β} (c : Cell) (e : c.Entry)
    (hg : Obeys t ns (g ()) (f.put c (some e)) ys out) :
    Obeys t ns (Store.set (c.key ns) (c.bytes e) >>= g) f (⟨c, some e⟩ :: ys) out :=
  bind (change ⟨c, some e⟩) hg

/-- An entry is deleted, and then comes the rest. -/
theorem delete_bind {g : Unit → Action Store β} {out : Outcome β} (c : Cell)
    (hg : Obeys t ns (g ()) (f.put c none) ys out) :
    Obeys t ns (Store.delete (c.key ns) >>= g) f (.clearing c :: ys) out :=
  bind (change (.clearing c)) hg

/-- A batch goes on after its first change. -/
theorem run_writeBatch_cons (op : Store.BatchOp) (rest : List Store.BatchOp) (b : Store.Buffered) :
    (Store.writeBatch (op :: rest)).run (.buffered b)
      = (do Store.apply op; Store.writeBatch rest : Action Store Unit).run (.buffered b) := by
  cases hout : (b.apply op).1 with
  | ok _ =>
      have happly : ((Store.apply op).run (.buffered b)).1 = .ok () := hout
      rw [run_bind_of_ok happly]
      exact congrArg Store.withBuffered (Store.Buffered.writeBatch_cons_of_ok hout rest).1
  | error failure =>
      have happly : ((Store.apply op).run (.buffered b)).1 = .error failure := hout
      rw [run_bind_of_error happly]
      exact congrArg Store.withBuffered (Store.Buffered.writeBatch_cons_of_error hout rest).1

/-- A batch of changes is made one by one. -/
theorem writeBatch (xs : List Edit) :
    Obeys t ns (Store.writeBatch (xs.map (Edit.op ns))) f xs (.ok ()) := by
  induction xs generalizing f with
  | nil =>
      refine of_takes ?_
      rintro s ⟨b, rfl, hb⟩
      exact ⟨rfl, b, rfl, hb⟩
  | cons x rest ih =>
      have hboth : Obeys t ns
          (do Store.apply (x.op ns); Store.writeBatch (rest.map (Edit.op ns))) f (x :: rest)
          (.ok ()) := bind (change x) ih
      rintro s ⟨b, rfl, hb⟩
      rw [List.map_cons, run_writeBatch_cons]
      exact hboth _ ⟨b, rfl, hb⟩

end Obeys

/-! ## Plans of the operations -/

section Operations

variable {t : Namespace → Fields} {ns : Namespace} {f : Fields}

/-- A number is read. -/
theorem obeys_readNumber? {β : Type} {g : Option UInt32 → Action Store β} {xs : List Edit}
    {out : Outcome β} (c : Cell) (n : Option UInt32)
    (hn : (f c).map c.bytes = n.map Store.Key.encodeNumber) (hg : Obeys t ns (g n) f xs out) :
    Obeys t ns (Tables.readNumber? (c.key ns) >>= g) f xs out :=
  Obeys.bind (Obeys.of_takes (takes_readNumber? (hn ▸ Obeys.takes_get? c))) hg

/-- A counter is read. -/
theorem obeys_readCounter {β : Type} {g : UInt32 → Action Store β} {xs : List Edit}
    {out : Outcome β} (c : Cell) (n : Option UInt32)
    (hn : (f c).map c.bytes = n.map Store.Key.encodeNumber)
    (hg : Obeys t ns (g (n.getD 0)) f xs out) :
    Obeys t ns (Tables.readCounter (c.key ns) >>= g) f xs out :=
  Obeys.bind (Obeys.of_takes (takes_readCounter (hn ▸ Obeys.takes_get? c))) hg

/-- Postings are read. -/
theorem obeys_readPostings {β : Type} {g : PostingList → Action Store β} {xs : List Edit}
    {out : Outcome β} (heading : Heading)
    (hg : Obeys t ns (g ⟨(f.stubs heading).toList⟩) f xs out) :
    Obeys t ns (Tables.readPostings ((Cell.postings heading).key ns) >>= g) f xs out :=
  Obeys.bind (Obeys.of_takes (takes_readPostings_of_get? (Obeys.takes_get? (.postings heading)))) hg

/-- Postings are written in one change. -/
theorem obeys_writePostings (heading : Heading) (stubs : StubSet) :
    Obeys t ns (Tables.writePostings ((Cell.postings heading).key ns) ⟨stubs.toList⟩) f
      [Fields.stubsChange heading stubs] (.ok ()) := by
  unfold Tables.writePostings
  rw [isEmpty_toList, Fields.stubsChange]
  by_cases h : stubs = ∅
  · rw [decide_eq_true h, if_pos rfl, if_pos h]
    exact Obeys.change (.clearing (.postings heading))
  · rw [decide_eq_false h, if_neg Bool.false_ne_true, if_neg h]
    exact Obeys.lift_bind (PostingList.encode_toList stubs)
      (Obeys.change ⟨.postings heading, some stubs⟩)

/-- A stub is posted in one change or none. -/
theorem obeys_post (heading : Heading) (stub : UInt32) {x : PostingList → Action Store Bool}
    (hx : ∀ p, x p = do
      if (p.insert stub).1 then
        Tables.writePostings ((Cell.postings heading).key ns) (p.insert stub).2
      return (p.insert stub).1) :
    Obeys t ns (Tables.readPostings ((Cell.postings heading).key ns) >>= x) f
      (f.postPlan heading stub) (.ok (f.post heading stub).1) := by
  refine obeys_readPostings heading ?_
  rw [hx, PostingList.insert_toList, Fields.postPlan, Fields.post]
  cases h : (f.stubs heading).contains stub with
  | true => exact Obeys.pure false
  | false => exact Obeys.bind_pure (obeys_writePostings heading _) rfl

/-- A stub is taken away in one change or none. -/
theorem obeys_unpost (heading : Heading) (stub : UInt32) {x : PostingList → Action Store Bool}
    (hx : ∀ p, x p = do
      if (p.remove stub).1 then
        Tables.writePostings ((Cell.postings heading).key ns) (p.remove stub).2
      return (p.remove stub).1) :
    Obeys t ns (Tables.readPostings ((Cell.postings heading).key ns) >>= x) f
      (f.unpostPlan heading stub) (.ok (f.unpost heading stub).1) := by
  refine obeys_readPostings heading ?_
  rw [hx, PostingList.remove_toList, Fields.unpostPlan, Fields.unpost]
  cases h : (f.stubs heading).contains stub with
  | true => exact Obeys.bind_pure (obeys_writePostings heading _) rfl
  | false => exact Obeys.pure false

/-- A shasum is numbered by its plan. -/
theorem obeys_ensureStub (shasum : String) :
    Obeys t ns (Tables.ensureStub ns shasum) f (f.ensureStubPlan shasum)
      (.ok (f.ensureStub shasum).1) := by
  refine obeys_readNumber? (.stubIndex shasum) (f (.stubIndex shasum)) rfl ?_
  rw [Fields.ensureStubPlan, Fields.ensureStub]
  cases f (.stubIndex shasum) with
  | some index => exact Obeys.pure index
  | none =>
      refine obeys_readCounter .nextStub (f .nextStub) rfl ?_
      refine Obeys.set_bind (.stubIndex shasum) f.nextStub ?_
      refine Obeys.set_bind (.stubShasum f.nextStub) shasum ?_
      exact Obeys.set_bind .nextStub (f.nextStub + 1) (Obeys.pure f.nextStub)

/-- A shasum is forgotten by its plan. -/
theorem obeys_forgetStub (shasum : String) :
    Obeys t ns (Tables.forgetStub ns shasum) f (f.forgetStubPlan shasum)
      (.ok (f.forgetStub shasum).1) := by
  refine obeys_readNumber? (.stubIndex shasum) (f (.stubIndex shasum)) rfl ?_
  rw [Fields.forgetStubPlan, Fields.forgetStub]
  cases f (.stubIndex shasum) with
  | none => exact Obeys.pure none
  | some index =>
      refine Obeys.delete_bind (.stubIndex shasum) ?_
      exact Obeys.delete_bind (.stubShasum index) (Obeys.pure (some index))

/-- A value is given a slot by its plan. -/
theorem obeys_ensureSlot (name : Name) (value : Value) :
    Obeys t ns (Tables.ensureSlot ns name.1 value) f (f.ensureSlotPlan name value)
      (.ok (f.ensureSlot name value).1) := by
  refine Obeys.lift_bind (valueSlot_eq ns name value.hash) ?_
  refine obeys_readNumber? (.valueSlot name value.hash) (f (.valueSlot name value.hash)) rfl ?_
  rw [Fields.ensureSlotPlan, Fields.ensureSlot]
  cases f (.valueSlot name value.hash) with
  | some slot => exact Obeys.pure slot
  | none =>
      refine Obeys.lift_bind (nextSlot_eq ns name) ?_
      refine obeys_readCounter (.nextSlot name) (f (.nextSlot name)) rfl ?_
      refine Obeys.set_bind (.valueSlot name value.hash) (f.nextSlot name) ?_
      refine Obeys.lift_bind (slotValue_eq ns name (f.nextSlot name)) ?_
      refine Obeys.set_bind (.slotValue name (f.nextSlot name)) value ?_
      exact Obeys.set_bind (.nextSlot name) (f.nextSlot name + 1) (Obeys.pure (f.nextSlot name))

/-- A stub is posted under a value by its plan. -/
theorem obeys_addValue (name : Name) (value : Value) (stub : UInt32) :
    Obeys t ns (Tables.addValue ns name.1 value stub) f (f.addValuePlan name value stub)
      (.ok (f.addValue name value stub).1) := by
  refine Obeys.bind (obeys_ensureSlot name value) ?_
  rw [Fields.after_ensureSlotPlan]
  refine Obeys.lift_bind (slotPostings_eq ns name _) ?_
  exact obeys_post (.slot name _) stub fun _ => rfl

/-- A stub is taken away from a value by its plan. -/
theorem obeys_removeValue (name : Name) (value : Value) (stub : UInt32) :
    Obeys t ns (Tables.removeValue ns name.1 value stub) f (f.removeValuePlan name value stub)
      (.ok (f.removeValue name value stub).1) := by
  refine Obeys.lift_bind (valueSlot_eq ns name value.hash) ?_
  refine obeys_readNumber? (.valueSlot name value.hash) (f (.valueSlot name value.hash)) rfl ?_
  rw [Fields.removeValuePlan, Fields.removeValue]
  cases f (.valueSlot name value.hash) with
  | none => exact Obeys.pure false
  | some slot =>
      refine Obeys.lift_bind (slotPostings_eq ns name slot) ?_
      refine obeys_readPostings (.slot name slot) ?_
      rw [PostingList.remove_toList]
      dsimp only
      rw [Fields.unpostPlan, Fields.unpost]
      cases hmem : (f.stubs (.slot name slot)).contains stub with
      | false => exact Obeys.pure false
      | true =>
          rw [if_pos rfl, isEmpty_toList]
          by_cases hlast : (f.stubs (.slot name slot)).erase stub = ∅
          · rw [decide_eq_true hlast, if_pos rfl, if_pos ⟨rfl, hlast⟩, if_pos ⟨rfl, hlast⟩]
            refine Obeys.delete_bind (.postings (.slot name slot)) ?_
            refine Obeys.lift_bind (slotValue_eq ns name slot) ?_
            refine Obeys.delete_bind (.slotValue name slot) ?_
            exact Obeys.delete_bind (.valueSlot name value.hash) (Obeys.pure true)
          · have hmore : ¬ (true = true ∧ (f.stubs (.slot name slot)).erase stub = ∅) :=
              fun h => hlast h.2
            rw [decide_eq_false hlast, if_neg Bool.false_ne_true, if_neg hmore, if_neg hmore]
            exact Obeys.bind_pure (obeys_writePostings (.slot name slot) _) rfl

end Operations

/-! ## Clearing -/

/-- The cells of a namespace that have an entry, in the order of their keys. -/
structure Inventory (ns : Namespace) (f : Fields) (cells : List Cell) : Prop where
  ordered : cells.Pairwise fun c d => Bytes.Before (c.key ns) (d.key ns)
  mem_iff : ∀ c, c ∈ cells ↔ f c ≠ none

section Clearing

variable {m : OrderedMap Bytes} {t : Namespace → Fields} {ns : Namespace} {f : Fields}

/-- What a store has of a namespace are the entries of its cells. -/
theorem exists_inventory (hm : Stored m (Function.update t ns f)) :
    ∃ cells, Inventory ns f cells ∧
      (m.under (Store.Key.namespacePrefix ns)).entries.map (·.1) = cells.map (·.key ns) := by
  have hget : ∀ c : Cell, m.get? (c.key ns) = (f c).map c.bytes := by
    intro c
    rw [hm.get?_key, Function.update_self]
  have hscan : ∀ k v, (Store.Key.namespacePrefix ns).isPrefixOf k = true ∧ m.get? k = some v ↔
      ∃ (c : Cell) (entry : Bytes), (f c).map c.bytes = some entry ∧ k = c.key ns ∧ v = entry := by
    intro k v
    constructor
    · rintro ⟨hfront, hk⟩
      obtain ⟨ns', c, rfl⟩ := hm.only k v hk
      obtain rfl := Cell.namespacePrefix_isPrefixOf.1 hfront
      exact ⟨c, v, (hget c).symm.trans hk, rfl, rfl⟩
    · rintro ⟨c, entry, hentry, rfl, rfl⟩
      exact ⟨Cell.namespacePrefix_isPrefixOf.2 rfl, (hget c).trans hentry⟩
  obtain ⟨found, hentries, hmem, hascending⟩ := OrderedMap.exists_under
    (fun c : Cell => c.key ns) (fun entry : Bytes => entry) (fun c => (f c).map c.bytes)
    (fun c d hcd => (Cell.key_injective hcd).2) hscan
  refine ⟨found.map (·.1), ⟨List.pairwise_map.2 hascending, fun c => ?_⟩, ?_⟩
  · rw [List.mem_map]
    constructor
    · rintro ⟨⟨d, entry⟩, hp, rfl⟩ hnone
      have hentry := (hmem d entry).1 hp
      rw [hnone] at hentry
      cases hentry
    · intro hc
      obtain ⟨e, he⟩ := Option.ne_none_iff_exists'.1 hc
      exact ⟨(c, c.bytes e), (hmem c _).2 (by rw [he]; rfl), rfl⟩
  · rw [hentries, List.map_map, List.map_map]
    rfl

/-- A cell that is cleared is empty, and the others stay. -/
theorem Fields.after_clearing (f : Fields) (cells : List Cell) (c : Cell) :
    f.after (cells.map Edit.clearing) c = if c ∈ cells then none else f c := by
  induction cells generalizing f with
  | nil => simp [Fields.after]
  | cons d rest ih =>
      have hstep : f.after ((d :: rest).map Edit.clearing)
          = (f.put d none).after (rest.map Edit.clearing) := rfl
      rw [hstep, ih]
      by_cases hd : c = d
      · subst hd
        simp
      · simp [hd]

/-- Clearing all cells that have an entry leaves none. -/
theorem Inventory.after_clearing {cells : List Cell} (h : Inventory ns f cells) :
    f.after (cells.map Edit.clearing) = fun _ => none := by
  funext c
  rw [Fields.after_clearing]
  split
  case isTrue => rfl
  case isFalse hc => exact Classical.not_not.1 fun hne => hc ((h.mem_iff c).2 hne)

/-- A namespace is cleared cell by cell in the order of the keys. -/
theorem obeys_clear {cells : List Cell} (hm : Stored m (Function.update t ns f))
    (hkeys : (m.under (Store.Key.namespacePrefix ns)).entries.map (·.1) = cells.map (·.key ns)) :
    Obeys t ns (Tables.clear ns) f (cells.map Edit.clearing) (.ok cells.length) := by
  have hscan : Takes (Fronts t ns) (Store.scan (Store.Key.namespacePrefix ns)) f
      (.ok (m.under (Store.Key.namespacePrefix ns)).entries) f := by
    rintro s ⟨b, rfl, hb⟩
    obtain rfl := hb.unique hm
    exact ⟨congrArg Except.ok (Store.entriesFrom_eq (.buffered b) _), b, rfl, hb⟩
  have hops : (m.under (Store.Key.namespacePrefix ns)).entries.map (fun e => .delete e.1)
      = (cells.map Edit.clearing).map (Edit.op ns) := by
    have hdelete := congrArg (List.map Store.BatchOp.delete) hkeys
    rw [List.map_map, List.map_map] at hdelete
    rw [List.map_map]
    exact hdelete
  have hlength := congrArg List.length hkeys
  rw [List.length_map, List.length_map] at hlength
  refine Obeys.bind (Obeys.of_takes hscan) ?_
  rw [hops, hlength]
  exact Obeys.bind_pure (Obeys.writeBatch (cells.map Edit.clearing)) rfl

end Clearing

/-! ## Operations with their results -/

/-- What an operation or a query gives. -/
inductive Reply where
  | number (n : UInt32)
  | found (n : Option UInt32)
  | changed (yes : Bool)
  | count (n : Nat)
  | text (shasum : String)
  | postings (list : PostingList)
  | names (list : List String)
  | summary (bytes : Option Bytes)
  | values (list : List ValuePostings)
  deriving DecidableEq

namespace Op

/-- The operation on a store, with its result. -/
def result (ns : Namespace) : Op → Action Store Reply
  | ensureStub shasum => do return .number (← Tables.ensureStub ns shasum)
  | forgetStub shasum => do return .found (← Tables.forgetStub ns shasum)
  | addValue name value stub => do return .changed (← Tables.addValue ns name value stub)
  | removeValue name value stub => do return .changed (← Tables.removeValue ns name value stub)
  | addToken token stub => do return .changed (← Tables.addToken ns token stub)
  | removeToken token stub => do return .changed (← Tables.removeToken ns token stub)
  | clear => do return .count (← Tables.clear ns)

/-- The changes that an operation makes, one after the other, when it finds the fields and these
cells have an entry. A name that no key can hold is refused before the first change. -/
def plan (f : Fields) (cells : List Cell) : Op → List Edit
  | ensureStub shasum => f.ensureStubPlan shasum
  | forgetStub shasum => f.forgetStubPlan shasum
  | addValue name value stub =>
    if h : isName name = true then f.addValuePlan ⟨name, h⟩ value stub else []
  | removeValue name value stub =>
    if h : isName name = true then f.removeValuePlan ⟨name, h⟩ value stub else []
  | addToken token stub =>
    if h : isName token = true then f.postPlan (.token ⟨token, h⟩) stub else []
  | removeToken token stub =>
    if h : isName token = true then f.unpostPlan (.token ⟨token, h⟩) stub else []
  | clear => cells.map .clearing

end Op

/-- An action on the tables that makes the changes and comes to the outcome when the store refuses
nothing, and may be interrupted behind a buffer. -/
structure Runs {α : Type} (t : Namespace → Fields) (ns : Namespace) (x : Action Store α)
    (f : Fields) (xs : List Edit) (out : Outcome α) : Prop where
  completes : Takes (Shows t ns) x f out (f.after xs)
  obeys : Obeys t ns x f xs out

namespace Runs

variable {α β : Type} {t : Namespace → Fields} {ns : Namespace} {f : Fields} {xs : List Edit}
  {x : Action Store α}

/-- A result in another form. -/
theorem map {a : α} (h : Runs t ns x f xs (.ok a)) (g : α → β) :
    Runs t ns (do return g (← x)) f xs (.ok (g a)) where
  completes := Takes.bind h.completes (Takes.pure (g a))
  obeys := Obeys.bind_pure h.obeys rfl

/-- An action on a name that a key can hold has its plan. Any other name is refused before the first
change. -/
theorem of_name {name : String} {x : Action Store Bool} (plan : Name → List Edit)
    (hname : ∀ text : Name, text.1 = name → ∃ yes, Runs t ns x f (plan text) (.ok yes))
    (hother : ¬ isName name = true → ∀ R : Store → Fields → Prop,
      Takes R x f (.error (.invalidName name)) f) :
    ∃ out, Runs t ns (do return Reply.changed (← x)) f
      (if h : isName name = true then plan ⟨name, h⟩ else []) out := by
  by_cases h : isName name = true
  · obtain ⟨yes, hruns⟩ := hname ⟨name, h⟩ rfl
    rw [dif_pos h]
    exact ⟨_, hruns.map Reply.changed⟩
  · rw [dif_neg h]
    exact ⟨_, Takes.bind_error (hother h (Shows t ns)),
      Obeys.of_takes (Takes.bind_error (hother h (Fronts t ns)))⟩

end Runs

section Operations

variable {t : Namespace → Fields} {ns : Namespace} {f : Fields}

/-- A shasum is numbered. -/
theorem runs_ensureStub (shasum : String) :
    Runs t ns (Tables.ensureStub ns shasum) f (f.ensureStubPlan shasum)
      (.ok (f.ensureStub shasum).1) where
  completes := f.after_ensureStubPlan shasum ▸ takes_ensureStub shasum
  obeys := obeys_ensureStub shasum

/-- A shasum is forgotten. -/
theorem runs_forgetStub (shasum : String) :
    Runs t ns (Tables.forgetStub ns shasum) f (f.forgetStubPlan shasum)
      (.ok (f.forgetStub shasum).1) where
  completes := f.after_forgetStubPlan shasum ▸ takes_forgetStub shasum
  obeys := obeys_forgetStub shasum

/-- A stub is posted under a value. -/
theorem runs_addValue (name : Name) (value : Value) (stub : UInt32) :
    Runs t ns (Tables.addValue ns name.1 value stub) f (f.addValuePlan name value stub)
      (.ok (f.addValue name value stub).1) where
  completes := f.after_addValuePlan name value stub ▸ takes_addValue name value stub
  obeys := obeys_addValue name value stub

/-- A stub is taken away from a value. -/
theorem runs_removeValue (name : Name) (value : Value) (stub : UInt32) :
    Runs t ns (Tables.removeValue ns name.1 value stub) f (f.removeValuePlan name value stub)
      (.ok (f.removeValue name value stub).1) where
  completes := f.after_removeValuePlan name value stub ▸ takes_removeValue name value stub
  obeys := obeys_removeValue name value stub

/-- A stub is posted under a token. -/
theorem runs_addToken (text : Name) (stub : UInt32) :
    Runs t ns (Tables.addToken ns text.1 stub) f (f.postPlan (.token text) stub)
      (.ok (f.post (.token text) stub).1) where
  completes := f.after_postPlan (.token text) stub ▸ takes_addToken text stub
  obeys := Obeys.lift_bind (token_eq ns text) (obeys_post (.token text) stub fun _ => rfl)

/-- A stub is taken away from a token. -/
theorem runs_removeToken (text : Name) (stub : UInt32) :
    Runs t ns (Tables.removeToken ns text.1 stub) f (f.unpostPlan (.token text) stub)
      (.ok (f.unpost (.token text) stub).1) where
  completes := f.after_unpostPlan (.token text) stub ▸ takes_removeToken text stub
  obeys := Obeys.lift_bind (token_eq ns text) (obeys_unpost (.token text) stub fun _ => rfl)

/-- A namespace is cleared. -/
theorem runs_clear {m : OrderedMap Bytes} {cells : List Cell}
    (hm : Stored m (Function.update t ns f)) (hcells : Inventory ns f cells)
    (hkeys : (m.under (Store.Key.namespacePrefix ns)).entries.map (·.1) = cells.map (·.key ns)) :
    Runs t ns (Tables.clear ns) f (cells.map .clearing) (.ok cells.length) where
  completes := by
    have hlength := congrArg List.length hkeys
    rw [List.length_map, List.length_map] at hlength
    rw [hcells.after_clearing, ← hlength]
    exact takes_clear_of_stored hm
  obeys := obeys_clear hm hkeys

/-- Every operation runs by its plan. -/
theorem Op.exists_runs {s : Store} (hs : Fronts t ns s f) :
    ∃ cells, Inventory ns f cells ∧
      ∀ op : Op, ∃ out, Runs t ns (op.result ns) f (op.plan f cells) out := by
  obtain ⟨b, -, hb⟩ := hs
  obtain ⟨cells, hcells, hkeys⟩ := exists_inventory hb
  refine ⟨cells, hcells, fun op => ?_⟩
  cases op with
  | ensureStub shasum => exact ⟨_, (runs_ensureStub shasum).map Reply.number⟩
  | forgetStub shasum => exact ⟨_, (runs_forgetStub shasum).map Reply.found⟩
  | addValue name value stub =>
      refine Runs.of_name (fun text => f.addValuePlan text value stub) (fun text h => ?_)
        fun h _ => takes_addValue_invalid h value stub
      exact ⟨_, h ▸ runs_addValue text value stub⟩
  | removeValue name value stub =>
      refine Runs.of_name (fun text => f.removeValuePlan text value stub) (fun text h => ?_)
        fun h _ => takes_removeValue_invalid h value stub
      exact ⟨_, h ▸ runs_removeValue text value stub⟩
  | addToken token stub =>
      refine Runs.of_name (fun text => f.postPlan (.token text) stub) (fun text h => ?_)
        fun h _ => takes_addToken_invalid h stub
      exact ⟨_, h ▸ runs_addToken text stub⟩
  | removeToken token stub =>
      refine Runs.of_name (fun text => f.unpostPlan (.token text) stub) (fun text h => ?_)
        fun h _ => takes_removeToken_invalid h stub
      exact ⟨_, h ▸ runs_removeToken text stub⟩
  | clear => exact ⟨_, (runs_clear hb hcells hkeys).map Reply.count⟩

end Operations

end SiteIndex.Posting
