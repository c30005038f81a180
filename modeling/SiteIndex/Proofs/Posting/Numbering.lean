import SiteIndex.Proofs.Posting.History
import SiteIndex.Proofs.Posting.Interruption

/-!
# Numbers after an interruption

Interrupted operations leave tables that are not coherent. What they leave of the numbers is
`Apart`: the numbers that stand in the tables are below their counter, and each stands once. No
cut through a plan breaks this, unless the operation took a number and was ended before its counter
went on (`Apart.op`). A namespace may be cleared in part, because the keys of its counters come
after those of the numbers.
-/

namespace SiteIndex.Posting

open Store (Namespace)
open Store.Key (isName)

/-! ## Cells with numbers -/

/-- The counter whose numbers a cell holds. -/
def Cell.counter : Cell → Option Counter
  | .stubIndex _ => some .stubs
  | .valueSlot name _ => some (.slots name)
  | _ => none

/-- The cell that a counter stands in. -/
def Counter.cell : Counter → Cell
  | stubs => .nextStub
  | slots name => .nextSlot name

variable {f g : Fields} {c d : Cell} {k : Counter} {x : Edit} {xs : List Edit}

/-- Numbers are held for shasums and for values. -/
theorem Cell.counter_eq_some : c.counter = some k ↔
    (∃ shasum, c = .stubIndex shasum ∧ k = .stubs) ∨
      ∃ name hash, c = .valueSlot name hash ∧ k = .slots name := by
  constructor
  · intro hc
    cases c with
    | stubIndex shasum => exact .inl ⟨shasum, rfl, (Option.some.inj hc).symm⟩
    | valueSlot name hash => exact .inr ⟨name, hash, rfl, (Option.some.inj hc).symm⟩
    | _ => cases hc
  · rintro (⟨shasum, rfl, rfl⟩ | ⟨name, hash, rfl, rfl⟩) <;> rfl

/-- A counter is not itself a number that was handed out. -/
theorem Counter.counter_cell (k : Counter) : k.cell.counter = none := by
  cases k <;> rfl

/-- Counters stand in different cells. -/
theorem Counter.cell_injective {k l : Counter} (h : k.cell = l.cell) : k = l := by
  cases k <;> cases l <;> first | rfl | cases h
  rfl

/-- A cell with a number of a counter is not the cell of any. -/
theorem Counter.cell_ne (hc : c.counter = some k) (l : Counter) : l.cell ≠ c := by
  rintro rfl
  rw [l.counter_cell] at hc
  cases hc

/-- The key of a counter comes after those of its numbers. -/
theorem Cell.before_counter (hc : c.counter = some k) (ns : Namespace) :
    Bytes.Before (c.key ns) (k.cell.key ns) := by
  have hbefore : ∀ d : Cell, c.table.byte < d.table.byte → Bytes.Before (c.key ns) (d.key ns) :=
    fun d h => Bytes.before_cons_iff.2 (.inr ⟨rfl, Bytes.before_cons_iff.2 (.inl h)⟩)
  obtain ⟨shasum, rfl, rfl⟩ | ⟨name, hash, rfl, rfl⟩ := Cell.counter_eq_some.1 hc
  · have hbyte : Store.Table.stubIndex.byte < Store.Table.nextStub.byte := by decide
    exact hbefore .nextStub hbyte
  · have hbyte : Store.Table.valueSlot.byte < Store.Table.nextSlot.byte := by decide
    exact hbefore (.nextSlot name) hbyte

namespace Fields

/-- The number of another cell than the one that changes. -/
theorem number_change_of_ne (h : c ≠ x.cell) : (f.change x).number c = f.number c := by
  rw [number, change, put_of_ne f h, number]

/-- The number of another cell than those that change. -/
theorem number_after_of_ne (h : ∀ x ∈ xs, c ≠ x.cell) : (f.after xs).number c = f.number c := by
  induction xs generalizing f with
  | nil => rfl
  | cons x rest ih =>
      obtain ⟨hx, hrest⟩ := List.forall_mem_cons.1 h
      exact (ih hrest).trans (number_change_of_ne hx)

/-- A counter stays when another cell changes. -/
theorem next_change_of_ne (h : k.cell ≠ x.cell) : k.next (f.change x) = k.next f := by
  cases k with
  | stubs => exact congrArg (Option.getD · 0) (f.put_of_ne h x.entry)
  | slots name => exact congrArg (Option.getD · 0) (f.put_of_ne h x.entry)

/-- A counter stays when other cells change. -/
theorem next_after_of_ne (h : ∀ x ∈ xs, k.cell ≠ x.cell) : k.next (f.after xs) = k.next f := by
  induction xs generalizing f with
  | nil => rfl
  | cons x rest ih =>
      obtain ⟨hx, hrest⟩ := List.forall_mem_cons.1 h
      exact (ih hrest).trans (next_change_of_ne hx)

end Fields

/-! ## Numbers that stand once -/

/-- The numbers that stand in the tables have been handed out, and each stands in one cell. -/
structure Apart (f : Fields) : Prop where
  lt : ∀ c k n, Cell.counter c = some k → f.number c = some n → n < k.next f
  unique : ∀ c d k n, Cell.counter c = some k → Cell.counter d = some k →
    f.number c = some n → f.number d = some n → c = d

/-- A change that neither moves a counter nor puts a number into a cell. -/
structure Edit.Quiet (x : Edit) : Prop where
  counter : ∀ k : Counter, k.cell ≠ x.cell
  number : x.cell.counter = none ∨ x.entry = none

/-- The numbers of coherent tables. -/
theorem Coherent.apart (h : Coherent f) : Apart f where
  lt c k n hc hn := by
    obtain ⟨shasum, rfl, rfl⟩ | ⟨name, hash, rfl, rfl⟩ := Cell.counter_eq_some.1 hc
    · rw [Fields.number_stubIndex] at hn
      exact h.stub_lt shasum n hn
    · rw [Fields.number_valueSlot] at hn
      obtain ⟨value, hvalue, -⟩ := (h.valueSlot_iff name hash n).1 hn
      exact h.slot_lt name n value hvalue
  unique c d k n hc hd hn hn' := by
    obtain ⟨shasum, rfl, rfl⟩ | ⟨name, hash, rfl, rfl⟩ := Cell.counter_eq_some.1 hc
    · obtain ⟨other, rfl, -⟩ | ⟨_, _, rfl, hk⟩ := Cell.counter_eq_some.1 hd
      · rw [Fields.number_stubIndex, h.stub_inverse] at hn hn'
        rw [Option.some.inj (hn.symm.trans hn')]
      · cases hk
    · obtain ⟨_, rfl, hk⟩ | ⟨_, other, rfl, hk⟩ := Cell.counter_eq_some.1 hd
      · cases hk
      · cases hk
        rw [Fields.number_valueSlot, h.valueSlot_iff] at hn hn'
        obtain ⟨value, hvalue, rfl⟩ := hn
        obtain ⟨value', hvalue', rfl⟩ := hn'
        rw [Option.some.inj (hvalue.symm.trans hvalue')]

namespace Apart

/-- Numbers may go as long as the counters of those that stay do not go back. -/
theorem mono (h : Apart f) (hg : ∀ c k n, Cell.counter c = some k → g.number c = some n →
    f.number c = some n ∧ k.next f ≤ k.next g) : Apart g where
  lt c k n hc hn := UInt32.lt_of_lt_of_le (h.lt c k n hc (hg c k n hc hn).1) (hg c k n hc hn).2
  unique c d k n hc hd hn hn' :=
    h.unique c d k n hc hd (hg c k n hc hn).1 (hg d k n hd hn').1

/-- A quiet change. -/
theorem change (h : Apart f) (hx : x.Quiet) : Apart (f.change x) := by
  refine h.mono fun c k n hc hn => ⟨?_, ?_⟩
  · by_cases hcell : c = x.cell
    · subst hcell
      obtain hnone | hnone := hx.number
      · rw [hnone] at hc
        cases hc
      · rw [Fields.number, Fields.change, hnone, Fields.put_self] at hn
        cases hn
    · rwa [Fields.number_change_of_ne hcell] at hn
  · exact UInt32.le_of_eq (Fields.next_change_of_ne (hx.counter k)).symm

/-- Quiet changes. -/
theorem after (h : Apart f) (hxs : ∀ x ∈ xs, x.Quiet) : Apart (f.after xs) := by
  induction xs generalizing f with
  | nil => exact h
  | cons x rest ih =>
      obtain ⟨hx, hrest⟩ := List.forall_mem_cons.1 hxs
      exact ih (h.change hx) hrest

/-- The next number is put into a cell and its counter goes on. -/
theorem draw (h : Apart f) (hc : c.counter = some k) (hnew : g.number c = some (k.next f))
    (hothers : ∀ d l, d ≠ c → Cell.counter d = some l → g.number d = f.number d)
    (hnext : (k.next g).toNat = (k.next f).toNat + 1)
    (hcounters : ∀ l : Counter, l ≠ k → l.next g = l.next f) : Apart g where
  lt d l n hd hn := by
    by_cases hdc : d = c
    · subst hdc
      obtain rfl := Option.some.inj (hc.symm.trans hd)
      obtain rfl := Option.some.inj (hnew.symm.trans hn)
      rw [UInt32.lt_iff_toNat_lt, hnext]
      exact Nat.lt_succ_self _
    · rw [hothers d l hdc hd] at hn
      have hlt := h.lt d l n hd hn
      by_cases hl : l = k
      · subst hl
        rw [UInt32.lt_iff_toNat_lt] at hlt ⊢
        rw [hnext]
        exact Nat.lt_succ_of_lt hlt
      · rwa [hcounters l hl]
  unique d e l n hd he hn hn' := by
    -- The number of another cell is below the one that was put into the cell.
    have hfresh : ∀ e, e ≠ c → Cell.counter e = some k → g.number e ≠ some (k.next f) := by
      intro e hec he hn
      rw [hothers e k hec he] at hn
      exact UInt32.lt_irrefl _ (h.lt e k _ he hn)
    by_cases hdc : d = c <;> by_cases hec : e = c
    · rw [hdc, hec]
    · subst hdc
      obtain rfl := Option.some.inj (hc.symm.trans hd)
      obtain rfl := Option.some.inj (hnew.symm.trans hn)
      exact absurd hn' (hfresh e hec he)
    · subst hec
      obtain rfl := Option.some.inj (hc.symm.trans he)
      obtain rfl := Option.some.inj (hnew.symm.trans hn')
      exact absurd hn (hfresh d hdc hd)
    · rw [hothers d l hdc hd] at hn
      rw [hothers e l hec he] at hn'
      exact h.unique d e l n hd he hn hn'

end Apart

/-! ## Plans that take a number -/

/-- The first of the changes puts the next number of the counter into the cell, and the third moves
the counter. -/
structure Draws (f : Fields) (k : Counter) (c : Cell) (x₁ x₂ x₃ : Edit) : Prop where
  counter : c.counter = some k
  first : x₁.cell = c
  number : (f.change x₁).number c = some (k.next f)
  quiet : x₂.Quiet
  plain : x₂.cell.counter = none
  last : x₃.cell = k.cell

namespace Draws

variable {x₁ x₂ x₃ : Edit} {rest : List Edit} {made : Nat}

/-- No other number changes. -/
theorem number_of_ne (h : Draws f k c x₁ x₂ x₃) {l : Counter} (hd : d.counter = some l)
    (hdc : d ≠ c) : (f.after [x₁, x₂, x₃]).number d = f.number d := by
  refine Fields.number_after_of_ne ?_
  rw [List.forall_mem_cons, List.forall_mem_cons, List.forall_mem_singleton, h.first, h.last]
  refine ⟨hdc, fun heq => ?_, (Counter.cell_ne hd k).symm⟩
  rw [heq, h.plain] at hd
  cases hd

/-- The number stays in the cell. -/
theorem number_self (h : Draws f k c x₁ x₂ x₃) :
    (f.after [x₁, x₂, x₃]).number c = some (k.next f) := by
  have hothers : ∀ x ∈ [x₂, x₃], c ≠ x.cell := by
    rw [List.forall_mem_cons, List.forall_mem_singleton, h.last]
    refine ⟨fun heq => ?_, (Counter.cell_ne h.counter k).symm⟩
    have hcounter := h.counter
    rw [heq, h.plain] at hcounter
    cases hcounter
  rw [← h.number]
  exact Fields.number_after_of_ne hothers

/-- No other counter moves. -/
theorem next_of_ne (h : Draws f k c x₁ x₂ x₃) {l : Counter} (hl : l ≠ k) :
    l.next (f.after [x₁, x₂, x₃]) = l.next f := by
  refine Fields.next_after_of_ne ?_
  rw [List.forall_mem_cons, List.forall_mem_cons, List.forall_mem_singleton, h.first, h.last]
  refine ⟨Counter.cell_ne h.counter l, h.quiet.counter l, fun heq => hl ?_⟩
  exact Counter.cell_injective heq

/-- The counter does not move before the third change. -/
theorem next_take (h : Draws f k c x₁ x₂ x₃) (hmade : made ≤ 2) :
    k.next (f.after ((x₁ :: x₂ :: x₃ :: rest).take made)) = k.next f := by
  show k.next (f.after (([x₁, x₂] ++ x₃ :: rest).take made)) = k.next f
  rw [List.take_append_of_le_length hmade]
  refine Fields.next_after_of_ne fun x hx => ?_
  have hboth : ∀ x ∈ [x₁, x₂], k.cell ≠ x.cell := by
    rw [List.forall_mem_cons, List.forall_mem_singleton, h.first]
    exact ⟨Counter.cell_ne h.counter k, h.quiet.counter k⟩
  exact hboth x (List.mem_of_mem_take hx)

/-- A plan that takes a number may be cut anywhere once the counter has gone on. -/
theorem apart_take (h : Draws f k c x₁ x₂ x₃) (hf : Apart f) (hrest : ∀ x ∈ rest, x.Quiet)
    (hmade : (k.next (f.after ((x₁ :: x₂ :: x₃ :: rest).take made))).toNat
      = (k.next f).toNat + 1) :
    Apart (f.after ((x₁ :: x₂ :: x₃ :: rest).take made)) := by
  rcases Nat.lt_or_ge made 3 with hlt | hge
  · rw [h.next_take (Nat.le_of_lt_succ hlt)] at hmade
    omega
  · obtain ⟨more, rfl⟩ := Nat.exists_eq_add_of_le' hge
    have hquiet : ∀ x ∈ rest.take more, x.Quiet := fun x hx => hrest x (List.mem_of_mem_take hx)
    have hsplit : f.after ((x₁ :: x₂ :: x₃ :: rest).take (more + 3))
        = (f.after [x₁, x₂, x₃]).after (rest.take more) := f.after_append [x₁, x₂, x₃] _
    rw [hsplit, Fields.next_after_of_ne fun x hx => (hquiet x hx).counter k] at hmade
    rw [hsplit]
    refine Apart.after ?_ hquiet
    exact hf.draw h.counter h.number_self (fun d l hdc hd => h.number_of_ne hd hdc) hmade
      fun l hl => h.next_of_ne hl

end Draws

/-! ## Plans of the operations -/

/-- A cell that is not that of a counter may be cleared. -/
theorem Edit.quiet_clearing (h : ∀ k : Counter, k.cell ≠ c) : (Edit.clearing c).Quiet :=
  ⟨h, .inr rfl⟩

/-- Postings may change. -/
theorem Edit.quiet_stubs (heading : Heading) (stubs : StubSet) :
    (Fields.stubsChange heading stubs).Quiet :=
  ⟨fun k => by cases k <;> exact nofun, .inl rfl⟩

namespace Fields

variable (f : Fields)

/-- Forgetting a shasum is quiet. -/
theorem quiet_forgetStubPlan (shasum : String) : ∀ x ∈ f.forgetStubPlan shasum, x.Quiet := by
  unfold forgetStubPlan
  cases f (.stubIndex shasum) with
  | none => exact nofun
  | some index =>
      rw [List.forall_mem_cons, List.forall_mem_singleton]
      exact ⟨Edit.quiet_clearing fun k => by cases k <;> exact nofun,
        Edit.quiet_clearing fun k => by cases k <;> exact nofun⟩

/-- Posting is quiet. -/
theorem quiet_postPlan (heading : Heading) (stub : UInt32) :
    ∀ x ∈ f.postPlan heading stub, x.Quiet := by
  unfold postPlan
  split
  · exact nofun
  · exact List.forall_mem_singleton.2 (Edit.quiet_stubs heading _)

/-- Taking a stub away is quiet. -/
theorem quiet_unpostPlan (heading : Heading) (stub : UInt32) :
    ∀ x ∈ f.unpostPlan heading stub, x.Quiet := by
  unfold unpostPlan
  split
  · exact List.forall_mem_singleton.2 (Edit.quiet_stubs heading _)
  · exact nofun

/-- Taking a stub away from a value is quiet. -/
theorem quiet_removeValuePlan (name : Name) (value : Value) (stub : UInt32) :
    ∀ x ∈ f.removeValuePlan name value stub, x.Quiet := by
  unfold removeValuePlan
  cases f (.valueSlot name value.hash) with
  | none => exact nofun
  | some slot =>
      dsimp only
      split
      · rw [List.forall_mem_cons, List.forall_mem_cons, List.forall_mem_singleton]
        exact ⟨Edit.quiet_clearing fun k => by cases k <;> exact nofun,
          Edit.quiet_clearing fun k => by cases k <;> exact nofun,
          Edit.quiet_clearing fun k => by cases k <;> exact nofun⟩
      · exact f.quiet_unpostPlan _ stub

/-- A new shasum takes a number. -/
theorem draws_stub (shasum : String) :
    Draws f .stubs (.stubIndex shasum) ⟨.stubIndex shasum, some f.nextStub⟩
      ⟨.stubShasum f.nextStub, some shasum⟩ ⟨.nextStub, some (f.nextStub + 1)⟩ where
  counter := rfl
  first := rfl
  number := by
    rw [number_stubIndex]
    exact f.put_self _ _
  quiet := ⟨fun k => by cases k <;> exact nofun, .inl rfl⟩
  plain := rfl
  last := rfl

/-- A new value takes a slot. -/
theorem draws_slot (name : Name) (value : Value) :
    Draws f (.slots name) (.valueSlot name value.hash)
      ⟨.valueSlot name value.hash, some (f.nextSlot name)⟩
      ⟨.slotValue name (f.nextSlot name), some value⟩
      ⟨.nextSlot name, some (f.nextSlot name + 1)⟩ where
  counter := rfl
  first := rfl
  number := by
    rw [number_valueSlot]
    exact f.put_self _ _
  quiet := ⟨fun k => by cases k <;> exact nofun, .inl rfl⟩
  plain := rfl
  last := rfl

end Fields

/-- Of a list in order, what stands before a member stands in every front that has the member. -/
theorem mem_take_of_ordered {α : Type} {r : α → α → Prop} {items : List α} {a b : α} {n : Nat}
    (hr : ∀ a b, r a b → ¬ r b a) (hitems : items.Pairwise r) (ha : a ∈ items)
    (hb : b ∈ items.take n) (hab : r a b) : a ∈ items.take n := by
  rw [← List.take_append_drop n items, List.mem_append] at ha
  rw [← List.take_append_drop n items, List.pairwise_append] at hitems
  exact ha.resolve_right fun hdrop => hr a b hab (hitems.2.2 b hb a hdrop)

/-- A namespace may be cleared in part: the numbers of a counter go before the counter. -/
theorem Inventory.apart_take {ns : Namespace} {cells : List Cell} (h : Inventory ns f cells)
    (hf : Apart f) (made : Nat) :
    Apart (f.after ((cells.map Edit.clearing).take made)) := by
  rw [← List.map_take]
  refine hf.mono fun c k n hc hn => ?_
  rw [Fields.number, Fields.after_clearing] at hn
  split at hn
  case isTrue => cases hn
  case isFalse hkept =>
    have hcells : c ∈ cells := by
      refine (h.mem_iff c).2 fun hnone => ?_
      rw [hnone] at hn
      cases hn
    have hcounter : k.cell ∉ cells.take made := fun hmem => hkept
      (mem_take_of_ordered (fun _ _ hab => Bytes.Before.asymm hab) h.ordered hcells hmem
        (Cell.before_counter hc ns))
    have hstays : k.next (f.after ((cells.take made).map Edit.clearing)) = k.next f := by
      refine Fields.next_after_of_ne fun x hx heq => hcounter ?_
      obtain ⟨d, hd, rfl⟩ := List.mem_map.1 hx
      exact heq ▸ hd
    exact ⟨hn, UInt32.le_of_eq hstays.symm⟩

namespace Apart

/-- Quiet changes, up to any of them. -/
theorem take (h : Apart f) (hxs : ∀ x ∈ xs, x.Quiet) (made : Nat) :
    Apart (f.after (xs.take made)) := h.after fun x hx => hxs x (List.mem_of_mem_take hx)

/-- Numbering a shasum may be cut short before it begins and once the counter has gone on. -/
theorem ensureStubPlan (h : Apart f) (shasum : String) (made : Nat)
    (hdraws : f (.stubIndex shasum) = none →
      (Counter.stubs.next (f.after ((f.ensureStubPlan shasum).take made))).toNat
        = (Counter.stubs.next f).toNat + 1) :
    Apart (f.after ((f.ensureStubPlan shasum).take made)) := by
  unfold Fields.ensureStubPlan at hdraws ⊢
  cases hindex : f (.stubIndex shasum) with
  | some index => exact h.take (List.forall_mem_nil _) made
  | none =>
      rw [hindex] at hdraws
      exact (f.draws_stub shasum).apart_take h (List.forall_mem_nil _) (hdraws rfl)

/-- Posting under a value may be cut short unless it took a slot and the counter has not gone on. -/
theorem addValuePlan (h : Apart f) (name : Name) (value : Value) (stub : UInt32) (made : Nat)
    (hdraws : f (.valueSlot name value.hash) = none →
      ((Counter.slots name).next (f.after ((f.addValuePlan name value stub).take made))).toNat
        = ((Counter.slots name).next f).toNat + 1) :
    Apart (f.after ((f.addValuePlan name value stub).take made)) := by
  have hpost := (f.ensureSlot name value).2.quiet_postPlan
    (.slot name (f.ensureSlot name value).1) stub
  unfold Fields.addValuePlan Fields.ensureSlotPlan at hdraws ⊢
  cases hslot : f (.valueSlot name value.hash) with
  | some slot => exact h.take hpost made
  | none =>
      rw [hslot] at hdraws
      exact (f.draws_slot name value).apart_take h hpost (hdraws rfl)

/-- A name that no key can hold has no plan at all. -/
theorem quiet_of_name {name : String} {plan : Name → List Edit}
    (hplan : ∀ text, ∀ x ∈ plan text, x.Quiet) :
    ∀ x ∈ if h : isName name = true then plan ⟨name, h⟩ else [], x.Quiet := by
  split
  case isTrue h => exact hplan ⟨name, h⟩
  case isFalse => exact List.forall_mem_nil _

/-- An operation that is cut short keeps the numbers apart, unless it took one and its counter has
not gone on. -/
theorem op {ns : Namespace} {cells : List Cell} (h : Apart f) (hcells : Inventory ns f cells)
    (op : Op) (made : Nat)
    (hdraws : ∀ k c, op.draws = some (k, c) → f c = none →
      (k.next (f.after ((op.plan f cells).take made))).toNat = (k.next f).toNat + 1) :
    Apart (f.after ((op.plan f cells).take made)) := by
  cases op with
  | ensureStub shasum => exact h.ensureStubPlan shasum made (hdraws _ _ rfl)
  | forgetStub shasum => exact h.take (f.quiet_forgetStubPlan shasum) made
  | addValue name value stub =>
      by_cases hname : isName name = true
      · have hplan : (Op.addValue name value stub).plan f cells
            = f.addValuePlan ⟨name, hname⟩ value stub := dif_pos hname
        rw [hplan] at hdraws ⊢
        exact h.addValuePlan ⟨name, hname⟩ value stub made (hdraws _ _ (dif_pos hname))
      · have hplan : (Op.addValue name value stub).plan f cells = [] := dif_neg hname
        rw [hplan]
        exact h.take (List.forall_mem_nil _) made
  | removeValue name value stub =>
      exact h.take (quiet_of_name fun text => f.quiet_removeValuePlan text value stub) made
  | addToken token stub =>
      exact h.take (quiet_of_name fun text => f.quiet_postPlan (.token text) stub) made
  | removeToken token stub =>
      exact h.take (quiet_of_name fun text => f.quiet_unpostPlan (.token text) stub) made
  | clear => exact hcells.apart_take h made

end Apart

end SiteIndex.Posting
