import SiteIndex.Proofs.Posting.Lockstep
import SiteIndex.Proofs.Posting.Numbering

/-!
# Calls of the tables behind a buffer

The tables of a namespace are called one time after another, behind a write buffer whose driver may
refuse any of its batches. Each call is a `Turn`. Whatever the driver does, every turn is `Fair`:
the call ends as on a store that refuses nothing and shows the same, or with the failure of the
driver after some first part of its plan, at least one change of it, and the next call finds just
that (`exists_course`). So a call with a single change is as if it had completed even if it fails. A
call with several may be left half made, as nothing is taken back.
-/

namespace SiteIndex.Posting

open Store (AgreeOn Namespace OrderedMap Refusal)
open SiteIndex.Action (Takes)

/-! ## Calls -/

/-- What is asked of the tables without changing them. -/
inductive TableQuery where
  | stubIndex (shasum : String)
  | stubShasum (index : UInt32)
  | tokenPostings (token : String)
  | tokens
  | tokensOf (stub : UInt32)
  | summary (shasum : String)
  | values (name : String)
  | attributes
  deriving DecidableEq

/-- The query on a store. -/
def TableQuery.result (ns : Namespace) : TableQuery → Action Store Reply
  | stubIndex shasum => do return .found (← Tables.stubIndex? ns shasum)
  | stubShasum index => do return .text (← Tables.shasum ns index)
  | tokenPostings token => do return .postings (← Tables.tokenPostings ns token)
  | tokens => do return .names (← Tables.tokens ns)
  | tokensOf stub => do return .names (← Tables.tokensOf ns stub)
  | summary shasum => do return .summary (← Tables.summary? ns shasum)
  | values name => do return .values (← Tables.values ns name)
  | attributes => do return .names (← Tables.attributes ns)

/-- An operation or a query. -/
inductive TableCall where
  | perform (op : Op)
  | ask (query : TableQuery)
  deriving DecidableEq

namespace TableCall

/-- The call on a store. -/
def result (ns : Namespace) : TableCall → Action Store Reply
  | perform op => op.result ns
  | ask query => query.result ns

/-- The changes that a call makes, one after the other. -/
def plan (f : Fields) (cells : List Cell) : TableCall → List Edit
  | perform op => op.plan f cells
  | ask _ => []

/-- The counter that a call draws from and the cell that the number is put into, if that is
empty. -/
def draws : TableCall → Option (Counter × Cell)
  | perform op => op.draws
  | ask _ => none

end TableCall

section Queries

variable {R : Store → Store → Prop} {t : Namespace → Fields} {ns : Namespace} {f : Fields}
  {s : Store}

/-- Stores that agree on the namespace answer a query alike. -/
theorem TableQuery.lockstep_result (hR : ∀ s t, R s t → AgreeOn ns.Owns s t) (q : TableQuery) :
    Lockstep R (q.result ns) := by
  cases q with
  | stubIndex shasum =>
      exact Lockstep.bind (lockstep_stubIndex? hR shasum) fun _ => Lockstep.pure _
  | stubShasum index => exact Lockstep.bind (lockstep_shasum hR index) fun _ => Lockstep.pure _
  | tokenPostings token =>
      exact Lockstep.bind (lockstep_tokenPostings hR token) fun _ => Lockstep.pure _
  | tokens => exact Lockstep.bind (lockstep_tokens hR) fun _ => Lockstep.pure _
  | tokensOf stub => exact Lockstep.bind (lockstep_tokensOf hR stub) fun _ => Lockstep.pure _
  | summary shasum => exact Lockstep.bind (lockstep_summary? hR shasum) fun _ => Lockstep.pure _
  | values name => exact Lockstep.bind (lockstep_values hR name) fun _ => Lockstep.pure _
  | attributes => exact Lockstep.bind (lockstep_attributes hR) fun _ => Lockstep.pure _

/-- A query leaves the store alone, and all stores with the same content answer it alike. -/
theorem TableQuery.run_result {s' : Store} (h : s'.content = s.content) (q : TableQuery)
    (ns : Namespace) :
    ((q.result ns).run s').1 = ((q.result ns).run s).1 ∧ ((q.result ns).run s').2 = s' := by
  have hR : ∀ a b, a = s' ∧ b = s → AgreeOn ns.Owns a b := by
    rintro a b ⟨rfl, rfl⟩ key -
    rw [h]
  have hlockstep : Lockstep (fun a b => a = s' ∧ b = s) (q.result ns) := q.lockstep_result hR
  obtain ⟨hout, hleft, -⟩ := hlockstep s' s ⟨rfl, rfl⟩
  exact ⟨hout, hleft⟩

/-- A query has no plan. -/
theorem TableQuery.runs (hs : Fronts t ns s f) (q : TableQuery) :
    Runs t ns (q.result ns) f [] ((q.result ns).run s).1 := by
  obtain ⟨b, rfl, hb⟩ := hs
  constructor
  case completes =>
    rintro s' ⟨m, ⟨hreliable, rfl⟩, hm⟩
    have hcontent : s'.content = (Store.buffered b).content := hm.unique hb
    obtain ⟨hout, hrest⟩ := q.run_result hcontent ns
    rw [hrest]
    exact ⟨hout, _, ⟨hreliable, rfl⟩, hm⟩
  case obeys =>
    refine Obeys.of_takes ?_
    rintro s' ⟨b', rfl, hb'⟩
    have hcontent : (Store.buffered b').content = (Store.buffered b).content := hb'.unique hb
    obtain ⟨hout, hrest⟩ := q.run_result hcontent ns
    rw [hrest]
    exact ⟨hout, b', rfl, hb'⟩

end Queries

/-! ## Turns -/

/-- A call, what it found and what came of it. -/
structure Turn where
  call : TableCall
  /-- What the tables held before the call. -/
  fields : Fields
  /-- The cells that had an entry. -/
  cells : List Cell
  /-- How many changes of the plan were made. -/
  made : Nat
  outcome : Outcome Reply

namespace Turn

/-- The changes that the call is to make. -/
def plan (x : Turn) : List Edit := x.call.plan x.fields x.cells

/-- What the tables hold after the call. -/
def after (x : Turn) : Fields := x.fields.after (x.plan.take x.made)

/-- The call either ended as on a store that refuses nothing or was interrupted by the driver, after
one change or more. -/
structure Fair (t : Namespace → Fields) (ns : Namespace) (x : Turn) : Prop where
  inventory : Inventory ns x.fields x.cells
  made_le : x.made ≤ x.plan.length
  ends : ∃ out, Takes (Shows t ns) (x.call.result ns) x.fields out (x.fields.after x.plan) ∧
    ((x.outcome = out ∧ x.made = x.plan.length) ∨
      (0 < x.made ∧ ∃ failure, Refusal failure ∧ x.outcome = .error failure))

/-- If the call took a number, its counter has gone on and has not run over. -/
def Counted (x : Turn) : Prop :=
  ∀ k c, x.call.draws = some (k, c) → x.fields c = none →
    (k.next x.after).toNat = (k.next x.fields).toNat + 1

end Turn

/-- Calls that are put to a store one after the other, each of them with what it really found and
what really came of it. -/
inductive Course (t : Namespace → Fields) (ns : Namespace) : Store → Fields → List Turn → Prop
  | stop {s : Store} {f : Fields} (hfronts : Fronts t ns s f) : Course t ns s f []
  | turn {s : Store} {x : Turn} {rest : List Turn} (hfronts : Fronts t ns s x.fields)
      (houtcome : ((x.call.result ns).run s).1 = x.outcome)
      (hrest : Course t ns ((x.call.result ns).run s).2 x.after rest) :
      Course t ns s x.fields (x :: rest)

/-- No two shasums have one number, and no two values of an attribute one slot. -/
structure Unshared (f : Fields) : Prop where
  stubs : ∀ a b index, f (.stubIndex a) = some index → f (.stubIndex b) = some index → a = b
  slots : ∀ name a b slot,
    f (.valueSlot name a) = some slot → f (.valueSlot name b) = some slot → a = b

/-- Numbers that stand once are not shared. -/
theorem Apart.unshared {f : Fields} (h : Apart f) : Unshared f where
  stubs a b index ha hb := by
    rw [← f.number_stubIndex] at ha hb
    cases h.unique (.stubIndex a) (.stubIndex b) .stubs index rfl rfl ha hb
    rfl
  slots name a b slot ha hb := by
    rw [← f.number_valueSlot] at ha hb
    cases h.unique (.valueSlot name a) (.valueSlot name b) (.slots name) slot rfl rfl ha hb
    rfl

section Turns

variable {t : Namespace → Fields} {ns : Namespace} {f : Fields} {s : Store}

/-- A call takes a fair turn. -/
theorem exists_turn (hs : Fronts t ns s f) (call : TableCall) :
    ∃ x : Turn, x.call = call ∧ x.fields = f ∧ ((call.result ns).run s).1 = x.outcome ∧
      Fronts t ns ((call.result ns).run s).2 x.after ∧ x.Fair t ns := by
  obtain ⟨cells, hcells, hops⟩ := Op.exists_runs hs
  have hcall : ∃ out, Runs t ns (call.result ns) f (call.plan f cells) out := by
    cases call with
    | perform op => exact hops op
    | ask query => exact ⟨_, query.runs hs⟩
  obtain ⟨out, hruns⟩ := hcall
  obtain ⟨made, hmade, hrest, hend⟩ := hruns.obeys s hs
  exact ⟨⟨call, f, cells, made, ((call.result ns).run s).1⟩, rfl, rfl, rfl, hrest, hcells, hmade,
    out, hruns.completes, hend⟩

/-- A turn keeps the numbers apart, unless it took one and its counter has not gone on. -/
theorem Turn.Fair.apart {x : Turn} (h : x.Fair t ns) (hfields : Apart x.fields)
    (hcounted : x.Counted) : Apart x.after := by
  obtain ⟨call, fields, cells, made, outcome⟩ := x
  cases call with
  | perform op => exact hfields.op h.inventory op made hcounted
  | ask query => exact hfields.take (List.forall_mem_nil _) made

/-- Turns keep the numbers apart up to the first that took one and whose counter has not gone
on. -/
theorem Course.apart {turns : List Turn} (h : Course t ns s f turns)
    (hfair : ∀ x ∈ turns, x.Fair t ns) (hf : Apart f) (hcounted : ∀ x ∈ turns, x.Counted) :
    ∀ x ∈ turns, Apart x.after := by
  induction h with
  | stop => exact List.forall_mem_nil _
  | turn _ _ _ ih =>
      obtain ⟨hfairFirst, hfairRest⟩ := List.forall_mem_cons.1 hfair
      obtain ⟨hcountedFirst, hcountedRest⟩ := List.forall_mem_cons.1 hcounted
      have hfirst := hfairFirst.apart hf hcountedFirst
      exact List.forall_mem_cons.2 ⟨hfirst, ih hfairRest hfirst hcountedRest⟩

/-- Calls take fair turns, one after the other. -/
theorem exists_fair_turns (hs : Fronts t ns s f) (calls : List TableCall) :
    ∃ turns, turns.map Turn.call = calls ∧ Course t ns s f turns ∧ ∀ x ∈ turns, x.Fair t ns := by
  induction calls generalizing s f with
  | nil => exact ⟨[], rfl, .stop hs, List.forall_mem_nil _⟩
  | cons call rest ih =>
      obtain ⟨x, rfl, rfl, houtcome, hafter, hfair⟩ := exists_turn hs call
      obtain ⟨turns, rfl, hcourse, hturns⟩ := ih hafter
      exact ⟨x :: turns, rfl, .turn hs houtcome hcourse, List.forall_mem_cons.2 ⟨hfair, hturns⟩⟩

/-- Behind a buffer in front of any driver, every sequence of calls takes fair turns. If the tables
were coherent and every call that took a number got as far as its counter, then at no time two
shasums have one number or two values one slot, whichever calls fail and wherever they are
interrupted. -/
theorem exists_course (hs : Fronts t ns s f) (hcoherent : Coherent f) (calls : List TableCall) :
    ∃ turns, turns.map Turn.call = calls ∧ Course t ns s f turns ∧ (∀ x ∈ turns, x.Fair t ns) ∧
      ((∀ x ∈ turns, x.Counted) → ∀ x ∈ turns, Unshared x.after) := by
  obtain ⟨turns, hcalls, hcourse, hfair⟩ := exists_fair_turns hs calls
  refine ⟨turns, hcalls, hcourse, hfair, fun hcounted x hx => ?_⟩
  exact (hcourse.apart hfair hcoherent.apart hcounted x hx).unshared

end Turns

/-- A new store with batches of one change, whose driver refuses those with the given numbers. -/
def hesitating (refused : List Nat) : Store :=
  .buffered (.make
    { Store.Driver.ofBackend .sqlite false with refuses := fun number => number ∈ refused } 1 0)

/-- The tables of a new store are empty. -/
theorem fronts_hesitating (refused : List Nat) :
    Fronts (fun _ _ => none) .context (hesitating refused) fun _ => none := by
  refine ⟨_, rfl, ?_⟩
  rw [Function.update_eq_self]
  exact Stored.empty

/-- A stub is posted, the tables are cleared and asked for the stub. The driver refuses both
writes. -/
theorem exists_course_refused :
    let calls : List TableCall :=
      [.perform (.addToken "home" 0), .perform .clear, .ask (.tokenPostings "home")]
    ((TableCall.result .context (.perform (.addToken "home" 0))).run (hesitating [0, 1])).1
        = .error (.reported .backend "disk full") ∧
      ∃ turns, turns.map Turn.call = calls ∧
        Course (fun _ _ => none) .context (hesitating [0, 1]) (fun _ => none) turns ∧
        (∀ x ∈ turns, x.Fair (fun _ _ => none) .context) ∧ ∀ x ∈ turns, Unshared x.after := by
  intro calls
  obtain ⟨turns, hcalls, hcourse, hfair, hunshared⟩ :=
    exists_course (fronts_hesitating [0, 1]) Coherent.empty calls
  have hdraws : ∀ call ∈ calls, call.draws = none := by decide
  have hcounted : ∀ x ∈ turns, x.Counted := by
    intro x hx k c hdraw
    rw [hdraws x.call (hcalls ▸ List.mem_map_of_mem hx)] at hdraw
    cases hdraw
  exact ⟨rfl, turns, hcalls, hcourse, hfair, hunshared hcounted⟩

/-- A shasum whose numbering is interrupted may be left with its number before the counter has gone
on. The next shasum then gets the number as well, as it would neither on the tables as they were,
whether the batch is still refused or not, nor after the whole operation. A shasum that is forgotten
in part has no number, but the number still has the shasum, while before the operation both have
each other and after the whole of it neither has. -/
theorem interrupted_half_made :
    let ensureA : Action Store UInt32 := Tables.ensureStub .context "a"
    let forgetA : Action Store (Option UInt32) := Tables.forgetStub .context "a"
    let numbers : Action Store (UInt32 × UInt32) := do
      return (← Tables.ensureStub .context "a", ← Tables.ensureStub .context "b")
    let inverse : Action Store (Option UInt32 × String) := do
      return (← Tables.stubIndex? .context "a", ← Tables.shasum .context 0)
    let named (refused : List Nat) : Store := (ensureA.run (hesitating refused)).2
    (∃ f, Coherent f ∧ ∀ refused, Fronts (fun _ _ => none) .context (hesitating refused) f) ∧
      (ensureA.run (hesitating [0])).1 = .error (.reported .backend "disk full") ∧
      (numbers.run (named [0])).1.toOption = some (0, 0) ∧
      (numbers.run (hesitating [0])).1.toOption = none ∧
      (numbers.run (hesitating [])).1.toOption = some (0, 1) ∧
      (numbers.run (named [])).1.toOption = some (0, 1) ∧
      (forgetA.run (named [3])).1 = .error (.reported .backend "disk full") ∧
      (inverse.run (forgetA.run (named [3])).2).1.toOption = some (none, "a") ∧
      (inverse.run (named [])).1.toOption = some (some 0, "a") ∧
      (inverse.run (forgetA.run (named [])).2).1.toOption = none := by
  have hstart : ∃ f, Coherent f ∧
      ∀ refused, Fronts (fun _ _ => none) .context (hesitating refused) f :=
    ⟨_, Coherent.empty, fronts_hesitating⟩
  exact ⟨hstart, rfl, by decide +kernel, by decide +kernel, by decide +kernel, by decide +kernel,
    rfl, by decide +kernel, by decide +kernel, by decide +kernel⟩

end SiteIndex.Posting
