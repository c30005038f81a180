import Mathlib.Data.List.Forall2
import Mathlib.Data.List.Nodup
import SiteIndex.Precache
import SiteIndex.Proofs.Action

/-!
# The calls of a run

A run is watched by having every provider and the index note their calls (`Provider.noted`,
`Target.noted`), so that the log is made by the run itself and nothing else in it changes. What it
says is that the calls of a `plan` are made in order up to the first that fails (`Performs`), that
the providers which have started are shut down after that, the last one first, and that the index is
counted if nothing has failed (`Lifecycle`). Actions that note a plan are put together like their
plans are (`Notes`). The providers and the index may do and fail at whatever they like, so that the
choice of failures is any.
-/

namespace SiteIndex.Precache

variable {σ α β : Type}

/-! ## Calls that are noted -/

/-- The calls of a run; a provider is known by its place in the list. -/
inductive Call where
  | startup (place : Nat)
  | clear
  | provide (place : Nat)
  | flush
  | compact
  | shutdown (place : Nat)
  | keywords
  | attributes
  deriving DecidableEq, Repr

/-- A call that was made, and why it failed if it did. -/
structure Event where
  call : Call
  failure : Option Failure
  deriving DecidableEq, Repr

/-- Why an outcome is a failure. -/
def failureOf : Outcome α → Option Failure
  | .ok _ => none
  | .error failure => some failure

/-- Notes a call of an action behind those before it. -/
def noted (call : Call) (action : Action σ α) : Action (σ × List Event) α :=
  .ofFunction fun (s, log) =>
    let (outcome, after) := action.run s
    (outcome, after, log ++ [⟨call, failureOf outcome⟩])

/-- A call that is noted does what it does otherwise. -/
theorem run_noted {action : Action σ α} {s : σ} {outcome : Outcome α}
    (h : (action.run s).1 = outcome) (call : Call) (log : List Event) :
    (noted call action).run (s, log)
      = (outcome, (action.run s).2, log ++ [⟨call, failureOf outcome⟩]) := by
  subst h
  rfl

/-- The provider at a place, noting its calls. -/
def Provider.noted (provider : Provider σ) (place : Nat) : Provider (σ × List Event) where
  startup := Precache.noted (.startup place) provider.startup
  provide := Precache.noted (.provide place) provider.provide
  shutdown := Precache.noted (.shutdown place) provider.shutdown

/-- The index, noting its calls. -/
def Target.noted (target : Target σ) : Target (σ × List Event) where
  clear := Precache.noted .clear target.clear
  flush := Precache.noted .flush target.flush
  compact := Precache.noted .compact target.compact
  keywords := Precache.noted .keywords target.keywords
  attributes := Precache.noted .attributes target.attributes

/-- Providers with their places, noting their calls. -/
def notedAll (placed : List (Provider σ × Nat)) : List (Provider (σ × List Event)) :=
  placed.map fun (provider, place) => provider.noted place

/-- The providers without their places. -/
def unplaced (placed : List (Provider σ × Nat)) : List (Provider σ) := placed.map (·.1)

/-- The places of providers. -/
def places (placed : List (Provider σ × Nat)) : List Nat := placed.map (·.2)

/-- What a run of which all calls are noted comes to, with the state and the log that it leaves. -/
def traced (target : Target σ) (providers : List (Provider σ)) (s : σ) :
    Outcome Report × σ × List Event :=
  (fillAndCount target.noted (notedAll providers.zipIdx)).run (s, [])

/-- The place of a provider that is started. -/
def Call.startup? : Call → Option Nat
  | .startup place => some place
  | _ => none

/-- The place of a provider that is shut down. -/
def Call.shutdown? : Call → Option Nat
  | .shutdown place => some place
  | _ => none

/-- The place of a provider that has started. -/
def Event.started? : Event → Option Nat
  | ⟨call, none⟩ => call.startup?
  | ⟨_, some _⟩ => none

/-- The providers that have started, the first one first. -/
def startedIn (log : List Event) : List Nat := log.filterMap Event.started?

/-- The providers that were shut down in that order, whatever came of it. -/
def stoppedIn (log : List Event) : List Nat := log.filterMap (·.call.shutdown?)

theorem startedIn_append (front back : List Event) :
    startedIn (front ++ back) = startedIn front ++ startedIn back :=
  List.filterMap_append

/-- Nothing has started in calls that are no startups. -/
theorem startedIn_eq_nil {events : List Event} (h : ∀ event ∈ events, event.call.startup? = none) :
    startedIn events = [] := by
  refine List.filterMap_eq_nil_iff.2 fun event hevent => ?_
  obtain ⟨call, failure⟩ := event
  cases failure with
  | none => exact h _ hevent
  | some failure => rfl

/-! ## Plans -/

/-- A list in two parts is cut in the first one before an element that is not in the second one. -/
theorem exists_eq_append_of_not_mem {front back main later : List α} {a : α}
    (h : main ++ later = front ++ a :: back) (ha : a ∉ later) :
    ∃ middle, main = front ++ a :: middle := by
  obtain ⟨more, rfl, hlater⟩ | ⟨more, rfl, hmore⟩ := List.append_eq_append_iff.1 h
  · exact absurd (hlater ▸ List.mem_append_right more (List.mem_cons_self ..)) ha
  · cases more with
    | nil =>
        rw [List.nil_append] at hmore
        exact absurd (hmore ▸ List.mem_cons_self ..) ha
    | cons next middle =>
        obtain ⟨rfl, -⟩ := List.cons.inj hmore
        exact ⟨middle, rfl⟩

/-- A list in two parts is cut in the second one before an element that is not in the first one. -/
theorem exists_append_eq_of_not_mem {front back main later : List α} {a : α}
    (h : main ++ later = front ++ a :: back) (ha : a ∉ main) :
    ∃ middle, front = main ++ middle ∧ later = middle ++ a :: back := by
  obtain ⟨middle, hfront, hlater⟩ | ⟨more, rfl, hmore⟩ := List.append_eq_append_iff.1 h
  · exact ⟨middle, hfront, hlater⟩
  · cases more with
    | nil => exact ⟨[], by rw [List.append_nil, List.append_nil], hmore.symm⟩
    | cons next middle =>
        obtain ⟨rfl, -⟩ := List.cons.inj hmore
        exact absurd (List.mem_append_right front (List.mem_cons_self ..)) ha

/-- The calls of a plan are made in order up to the first that fails, which gives the ending. -/
inductive Performs : List Call → List Event → Option Failure → Prop
  | nil : Performs [] [] none
  | failed (call : Call) (rest : List Call) (failure : Failure) :
      Performs (call :: rest) [⟨call, some failure⟩] (some failure)
  | done (call : Call) {rest : List Call} {events : List Event} {ending : Option Failure} :
      Performs rest events ending → Performs (call :: rest) (⟨call, none⟩ :: events) ending

/-- A call that went well. -/
def Event.ofCall (call : Call) : Event := ⟨call, none⟩

namespace Performs

variable {plan more : List Call} {events later : List Event} {ending : Option Failure}
  {failure : Failure}

/-- After a plan that went well another one is performed. -/
theorem append_ok (h : Performs plan events none) (h' : Performs more later ending) :
    Performs (plan ++ more) (events ++ later) ending := by
  generalize hnone : (none : Option Failure) = first at h
  induction h with
  | nil => exact h'
  | failed call rest failure => cases hnone
  | done call _ ih => exact .done call (ih hnone)

/-- After a failure nothing more is performed. -/
theorem append_failed (h : Performs plan events (some failure)) (more : List Call) :
    Performs (plan ++ more) events (some failure) := by
  generalize hsome : some failure = first at h
  induction h with
  | nil => cases hsome
  | failed call rest failure => exact .failed call (rest ++ more) failure
  | done call _ ih => exact .done call (ih hsome)

/-- The calls are the first ones of the plan. -/
theorem calls_prefix (h : Performs plan events ending) : events.map (·.call) <+: plan := by
  induction h with
  | nil => exact List.prefix_rfl
  | failed call rest failure => exact ⟨rest, rfl⟩
  | done call _ ih => exact List.prefix_cons_inj call |>.2 ih

theorem mem_plan (h : Performs plan events ending) {event : Event} (hevent : event ∈ events) :
    event.call ∈ plan :=
  h.calls_prefix.subset (List.mem_map_of_mem hevent)

/-- A plan that went well has been performed to its end. -/
theorem events_eq (h : Performs plan events none) : events = plan.map .ofCall := by
  generalize hnone : (none : Option Failure) = first at h
  induction h with
  | nil => rfl
  | failed call rest failure => cases hnone
  | done call _ ih => exact congrArg _ (ih hnone)

/-- The ending is the only failure. -/
theorem findSome?_failure (h : Performs plan events ending) :
    events.findSome? (·.failure) = ending := by
  induction h with
  | nil => rfl
  | failed call rest failure => rfl
  | done call _ ih => exact ih

/-- Before a call of a plan all calls in front of it have gone well. -/
theorem before (h : Performs plan events ending) {front back : List Event} {event : Event}
    (hevents : events = front ++ event :: back) :
    ∃ done rest, plan = done ++ event.call :: rest ∧ front = done.map .ofCall := by
  induction h generalizing front with
  | nil => simp at hevents
  | failed call rest failure =>
      cases front with
      | nil =>
          obtain ⟨rfl, -⟩ := List.cons.inj hevents
          exact ⟨[], rest, rfl, rfl⟩
      | cons first front => simp at hevents
  | done call _ ih =>
      rename_i rest _ _ _
      cases front with
      | nil =>
          obtain ⟨rfl, -⟩ := List.cons.inj hevents
          exact ⟨[], rest, rfl, rfl⟩
      | cons first front =>
          obtain ⟨rfl, htail⟩ := List.cons.inj hevents
          obtain ⟨done, rest', rfl, rfl⟩ := ih htail
          exact ⟨call :: done, rest', rfl, rfl⟩

/-- What comes first in a plan has gone well before any call that comes later. -/
theorem went_well {first second : List Call} (h : Performs (first ++ second) events ending)
    {front back : List Event} {event : Event} (hevents : events = front ++ event :: back)
    (hlater : event.call ∉ first) {call : Call} (hcall : call ∈ first) : .ofCall call ∈ front := by
  obtain ⟨done, rest, hplan, rfl⟩ := h.before hevents
  obtain ⟨middle, rfl, -⟩ := exists_append_eq_of_not_mem hplan hlater
  exact List.mem_map_of_mem (List.mem_append_left middle hcall)

/-- The providers that have started are the first ones of the plan. -/
theorem startedIn_prefix (h : Performs plan events ending) :
    startedIn events <+: plan.filterMap Call.startup? := by
  induction h with
  | nil => exact List.prefix_rfl
  | failed call rest failure => exact List.nil_prefix
  | done call _ ih =>
      cases call with
      | startup place => exact List.prefix_cons_inj place |>.2 ih
      | _ => exact ih

end Performs

/-! ## Actions that note a plan -/

/-- The action does what the other one does, and notes the calls of a plan that it performs. -/
def Notes (plan : List Call) (x : Action (σ × List Event) α) (y : Action σ α) : Prop :=
  ∀ s log, ∃ events, x.run (s, log) = ((y.run s).1, (y.run s).2, log ++ events) ∧
    Performs plan events (failureOf (y.run s).1)

namespace Notes

/-- A single call. -/
theorem noted (call : Call) (y : Action σ α) : Notes [call] (Precache.noted call y) y := by
  intro s log
  refine ⟨[⟨call, failureOf (y.run s).1⟩], run_noted rfl call log, ?_⟩
  generalize (y.run s).1 = outcome
  cases outcome with
  | ok a => exact .done call .nil
  | error failure => exact .failed call [] failure

/-- A plain result notes nothing. -/
theorem pure (a : α) : Notes [] (Pure.pure a : Action (σ × List Event) α) (Pure.pure a) :=
  fun _ log => ⟨[], by rw [List.append_nil]; rfl, .nil⟩

/-- One action after the other notes one plan after the other. -/
theorem bind {plan more : List Call} {x : Action (σ × List Event) α} {y : Action σ α}
    {f : α → Action (σ × List Event) β} {g : α → Action σ β} (hx : Notes plan x y)
    (hf : ∀ a, Notes more (f a) (g a)) : Notes (plan ++ more) (x >>= f) (y >>= g) := by
  intro s log
  obtain ⟨events, hrun, hperforms⟩ := hx s log
  cases hout : (y.run s).1 with
  | ok a =>
      obtain ⟨later, hrun', hperforms'⟩ := hf a (y.run s).2 (log ++ events)
      have hok : (x.run (s, log)).1 = .ok a := by rw [hrun, hout]
      rw [hout] at hperforms
      rw [Action.run_bind_of_ok hok, Action.run_bind_of_ok hout, hrun, hrun', List.append_assoc]
      exact ⟨events ++ later, rfl, hperforms.append_ok hperforms'⟩
  | error failure =>
      have herror : (x.run (s, log)).1 = .error failure := by rw [hrun, hout]
      rw [hout] at hperforms
      rw [Action.run_bind_of_error herror, Action.run_bind_of_error hout, hrun]
      exact ⟨events, rfl, hperforms.append_failed more⟩

end Notes

/-- Providers note that they hand over their pages. -/
theorem notes_drain (placed : List (Provider σ × Nat)) (report : Report) :
    Notes ((places placed).map .provide) (drain (notedAll placed) report)
      (drain (unplaced placed) report) := by
  induction placed generalizing report with
  | nil => exact .pure report
  | cons p rest ih => exact (Notes.noted (.provide p.2) p.1.provide).bind fun _ => ih _

/-- The calls that fill an index with the pages of the providers at these places. -/
def refilling (places : List Nat) : List Call :=
  [.clear] ++ (places.map .provide ++ [.flush, .compact])

/-- Nothing is started to fill an index. -/
theorem startup?_of_mem_refilling {places : List Nat} {call : Call}
    (h : call ∈ refilling places) : call.startup? = none := by
  cases call with
  | startup place => simp [refilling] at h
  | _ => rfl

/-- An index is emptied, filled and written out. -/
theorem notes_refill (target : Target σ) (placed : List (Provider σ × Nat)) :
    Notes (refilling (places placed)) (refill target.noted (notedAll placed))
      (refill target (unplaced placed)) :=
  (Notes.noted .clear target.clear).bind fun _ => (notes_drain placed {}).bind fun report =>
    (Notes.noted .flush target.flush).bind fun _ =>
      (Notes.noted .compact target.compact).bind fun _ => .pure report

/-- An index is counted. -/
theorem notes_count (target : Target σ) (report : Report) :
    Notes [.keywords, .attributes]
      (do return { report with
        keywords := ← target.noted.keywords, attributes := ← target.noted.attributes })
      (do return { report with
        keywords := ← target.keywords, attributes := ← target.attributes }) :=
  (Notes.noted .keywords target.keywords).bind fun _ =>
    (Notes.noted .attributes target.attributes).bind fun _ => .pure _

/-! ## Starting and shutting down -/

/-- A provider that has started is one more of those to shut down. -/
theorem run_startAll_cons_ok {provider : Provider σ} {s : σ}
    (h : (provider.startup.run s).1 = .ok ()) (started rest : List (Provider σ)) :
    (startAll started (provider :: rest)).run s
      = (startAll (provider :: started) rest).run (provider.startup.run s).2 := by
  have hrun : StateT.run (ExceptT.run provider.startup) s = (.ok (), (provider.startup.run s).2) :=
    Prod.ext h rfl
  show StateT.run (ExceptT.run provider.startup >>= _) s = _
  rw [StateT.run_bind, hrun]
  rfl

/-- A provider that does not start ends the starting. -/
theorem run_startAll_cons_error {provider : Provider σ} {s : σ} {failure : Failure}
    (h : (provider.startup.run s).1 = .error failure) (started rest : List (Provider σ)) :
    (startAll started (provider :: rest)).run s
      = ((started, .error failure), (provider.startup.run s).2) := by
  have hrun : StateT.run (ExceptT.run provider.startup) s
      = (.error failure, (provider.startup.run s).2) := Prod.ext h rfl
  show StateT.run (ExceptT.run provider.startup >>= _) s = _
  rw [StateT.run_bind, hrun]
  rfl

/-- Providers note their startups up to the first that fails; those that have started are given,
the last one first. -/
theorem exists_startAll (started rest : List (Provider σ × Nat)) (s : σ) (log : List Event) :
    ∃ events now outcome after,
      (startAll (notedAll started) (notedAll rest)).run (s, log)
        = ((notedAll now, outcome), after, log ++ events) ∧
      (startAll (unplaced started) (unplaced rest)).run s = ((unplaced now, outcome), after) ∧
      Performs ((places rest).map .startup) events (failureOf outcome) ∧
      places now = (startedIn events).reverse ++ places started := by
  -- A provider that starts is one of those that have started for the rest of them.
  induction rest generalizing started s log with
  | nil => exact ⟨[], started, .ok (), s, by rw [List.append_nil]; rfl, rfl, .nil, rfl⟩
  | cons p rest ih =>
      cases hstart : (p.1.startup.run s).1 with
      | ok =>
          have hrun := run_noted hstart (.startup p.2) log
          obtain ⟨events, now, outcome, after, hnoted, hplain, hperforms, hnow⟩ :=
            ih (p :: started) (p.1.startup.run s).2 (log ++ [⟨.startup p.2, none⟩])
          refine ⟨⟨.startup p.2, none⟩ :: events, now, outcome, after, ?_,
            (run_startAll_cons_ok hstart _ _).trans hplain, .done (.startup p.2) hperforms, ?_⟩
          · have hok : ((p.1.noted p.2).startup.run (s, log)).1 = .ok () := congrArg Prod.fst hrun
            have hfirst := run_startAll_cons_ok hok (notedAll started) (notedAll rest)
            rw [show (p.1.noted p.2).startup.run (s, log) = _ from hrun] at hfirst
            rw [List.append_cons]
            exact hfirst.trans hnoted
          · rw [hnow]
            simp [startedIn, Event.started?, Call.startup?, places]
      | error failure =>
          have hrun := run_noted hstart (.startup p.2) log
          have herror : ((p.1.noted p.2).startup.run (s, log)).1 = .error failure :=
            congrArg Prod.fst hrun
          have hfirst := run_startAll_cons_error herror (notedAll started) (notedAll rest)
          rw [show (p.1.noted p.2).startup.run (s, log) = _ from hrun] at hfirst
          exact ⟨[⟨.startup p.2, some failure⟩], started, .error failure, (p.1.startup.run s).2,
            hfirst, run_startAll_cons_error hstart _ _, .failed _ _ failure, rfl⟩

/-- Providers note that they are shut down. -/
theorem exists_stopAll (placed : List (Provider σ × Nat)) (s : σ) (log : List Event) :
    ∃ events, (stopAll (notedAll placed)).run (s, log)
        = ((), ((stopAll (unplaced placed)).run s).2, log ++ events) ∧
      events.map (·.call) = (places placed).map .shutdown := by
  induction placed generalizing s log with
  | nil => exact ⟨[], by rw [List.append_nil]; rfl, rfl⟩
  | cons p rest ih =>
      obtain ⟨events, hrun, hcalls⟩ := ih (p.1.shutdown.run s).2
        (log ++ [⟨.shutdown p.2, failureOf (p.1.shutdown.run s).1⟩])
      refine ⟨⟨.shutdown p.2, failureOf (p.1.shutdown.run s).1⟩ :: events, ?_, ?_⟩
      · rw [List.append_cons]
        exact hrun
      · rw [List.map_cons, hcalls]
        rfl

/-! ## Filling and counting -/

/-- The calls that start the providers at these places and fill an index with their pages. -/
def plan (places : List Nat) : List Call := places.map .startup ++ refilling places

/-- Once all providers have started, the index is filled, and then they are shut down. -/
theorem run_fill_of_ok (target : Target σ) {providers started : List (Provider σ)} {s s' : σ}
    (h : (startAll [] providers).run s = ((started, .ok ()), s')) :
    (fill target providers).run s = (((refill target providers).run s').1,
      ((stopAll started).run ((refill target providers).run s').2).2) := by
  show StateT.run (startAll [] providers >>= _) s = _
  rw [StateT.run_bind, h]
  rfl

/-- If a provider does not start, those before it are shut down, and nothing else is done. -/
theorem run_fill_of_error (target : Target σ) {providers started : List (Provider σ)} {s s' : σ}
    {failure : Failure} (h : (startAll [] providers).run s = ((started, .error failure), s')) :
    (fill target providers).run s = (.error failure, ((stopAll started).run s').2) := by
  show StateT.run (startAll [] providers >>= _) s = _
  rw [StateT.run_bind, h]
  rfl

/-- A filling notes the calls of its plan, and after them the shutdowns of the providers that have
started. -/
theorem exists_filled (target : Target σ) (placed : List (Provider σ × Nat)) (s : σ)
    (log : List Event) :
    ∃ main stops,
      (fill target.noted (notedAll placed)).run (s, log)
        = (((fill target (unplaced placed)).run s).1, ((fill target (unplaced placed)).run s).2,
          log ++ (main ++ stops)) ∧
      Performs (plan (places placed)) main
        (failureOf ((fill target (unplaced placed)).run s).1) ∧
      stops.map (·.call) = (startedIn main).reverse.map .shutdown := by
  obtain ⟨events, now, outcome, after, hnoted, hplain, hperforms, hnow⟩ :=
    exists_startAll [] placed s log
  rw [show places ([] : List (Provider σ × Nat)) = [] from rfl, List.append_nil] at hnow
  cases outcome with
  | ok =>
      obtain ⟨later, hrefill, hrefilled⟩ := notes_refill target placed after (log ++ events)
      obtain ⟨stops, hstop, hcalls⟩ :=
        exists_stopAll now ((refill target (unplaced placed)).run after).2 (log ++ events ++ later)
      -- Nothing starts while the index is filled, so the first part has all that started.
      have hlater : startedIn later = [] := startedIn_eq_nil fun event hevent =>
        startup?_of_mem_refilling (hrefilled.mem_plan hevent)
      rw [run_fill_of_ok target hplain, run_fill_of_ok target.noted hnoted]
      refine ⟨events ++ later, stops, ?_, hperforms.append_ok hrefilled, ?_⟩
      · rw [hrefill, hstop, List.append_assoc, List.append_assoc, List.append_assoc]
      · rw [hcalls, hnow, startedIn_append, hlater, List.append_nil]
  | error failure =>
      obtain ⟨stops, hstop, hcalls⟩ := exists_stopAll now after (log ++ events)
      rw [run_fill_of_error target hplain, run_fill_of_error target.noted hnoted]
      refine ⟨events, stops, ?_, hperforms.append_failed _, hnow ▸ hcalls⟩
      rw [hstop, List.append_assoc]

/-- The calls that count an index; nothing is counted after a failure. -/
def counting : Option Failure → List Call
  | none => [.keywords, .attributes]
  | some _ => []

/-- The log of a run has three parts: the calls of its plan, the shutdowns of the providers that
have started, and the counting. -/
structure Phases (n : Nat) (main stops counts : List Event) (filled counted : Option Failure) :
    Prop where
  planned : Performs (plan (List.range n)) main filled
  cleanup : stops.map (·.call) = (startedIn main).reverse.map .shutdown
  afterwards : Performs (counting filled) counts counted

/-- A run does what it does without its notes, and notes its three parts. -/
theorem exists_phases (target : Target σ) (providers : List (Provider σ)) (s : σ) :
    ∃ main stops counts filled counted,
      traced target providers s
        = (((fillAndCount target providers).run s).1, ((fillAndCount target providers).run s).2,
          main ++ stops ++ counts) ∧
      failureOf ((fillAndCount target providers).run s).1 = filled.or counted ∧
      Phases providers.length main stops counts filled counted := by
  obtain ⟨main, stops, hrun, hmain, hstops⟩ := exists_filled target providers.zipIdx s []
  have hunplaced : unplaced providers.zipIdx = providers := List.zipIdx_map_fst 0 providers
  have hplaces : places providers.zipIdx = List.range providers.length := by
    rw [places, List.zipIdx_map_snd, List.range_eq_range']
  rw [hunplaced, List.nil_append] at hrun
  rw [hunplaced, hplaces] at hmain
  cases hout : ((fill target providers).run s).1 with
  | ok report =>
      rw [hout] at hmain
      obtain ⟨counts, hcount, hcounts⟩ :=
        notes_count target report ((fill target providers).run s).2 (main ++ stops)
      have hok : ((fill target.noted (notedAll providers.zipIdx)).run (s, [])).1 = .ok report := by
        rw [hrun, hout]
      refine ⟨main, stops, counts, none, _, ?_, ?_, hmain, hstops, hcounts⟩
      · rw [traced, fillAndCount, fillAndCount, Action.run_bind_of_ok hok,
          Action.run_bind_of_ok hout, hrun]
        exact hcount
      · rw [fillAndCount, Action.run_bind_of_ok hout, Option.none_or]
  | error failure =>
      rw [hout] at hmain
      have herror : ((fill target.noted (notedAll providers.zipIdx)).run (s, [])).1
          = .error failure := by rw [hrun, hout]
      refine ⟨main, stops, [], some failure, none, ?_, ?_, hmain, hstops, .nil⟩
      · rw [traced, fillAndCount, fillAndCount, Action.run_bind_of_error herror,
          Action.run_bind_of_error hout, hrun, List.append_nil]
      · rw [fillAndCount, Action.run_bind_of_error hout]
        rfl

/-! ## The order of the calls -/

/-- What a call is there for. -/
inductive Call.Purpose where
  | fill
  | stop
  | count
  deriving DecidableEq, Repr

def Call.purpose : Call → Call.Purpose
  | .startup _ | .clear | .provide _ | .flush | .compact => .fill
  | .shutdown _ => .stop
  | .keywords | .attributes => .count

/-- The calls of a log that serve a purpose, with what came of them. -/
def callsFor (purpose : Call.Purpose) (log : List Event) : List Event :=
  log.filter (·.call.purpose = purpose)

theorem callsFor_append (purpose : Call.Purpose) (front back : List Event) :
    callsFor purpose (front ++ back) = callsFor purpose front ++ callsFor purpose back :=
  List.filter_append front back

theorem callsFor_of_forall {purpose : Call.Purpose} {events : List Event}
    (h : ∀ event ∈ events, event.call.purpose = purpose) : callsFor purpose events = events :=
  List.filter_eq_self.2 fun event hevent => decide_eq_true (h event hevent)

theorem callsFor_of_ne {purpose other : Call.Purpose} {events : List Event}
    (h : ∀ event ∈ events, event.call.purpose = other) (hne : other ≠ purpose) :
    callsFor purpose events = [] :=
  List.filter_eq_nil_iff.2 fun event hevent => by
    rw [h event hevent, decide_eq_true_eq]
    exact hne

/-- Providers start to fill the index. -/
theorem startedIn_callsFor (log : List Event) : startedIn (callsFor .fill log) = startedIn log := by
  rw [startedIn, startedIn, callsFor, List.filterMap_filter]
  congr 1
  funext event
  obtain ⟨call, failure⟩ := event
  cases call <;> cases failure <;> rfl

theorem stoppedIn_callsFor (log : List Event) : stoppedIn (callsFor .stop log) = stoppedIn log := by
  rw [stoppedIn, stoppedIn, callsFor, List.filterMap_filter]
  congr 1
  funext event
  obtain ⟨call, failure⟩ := event
  cases call <;> rfl

namespace Phases

variable {n : Nat} {main stops counts : List Event} {filled counted : Option Failure}

theorem purpose_of_mem_main (h : Phases n main stops counts filled counted) {event : Event}
    (hevent : event ∈ main) : event.call.purpose = .fill := by
  have hmem := h.planned.mem_plan hevent
  generalize event.call = call at hmem
  cases call with
  | shutdown | keywords | attributes => simp [plan, refilling] at hmem
  | _ => rfl

theorem purpose_of_mem_stops (h : Phases n main stops counts filled counted) {event : Event}
    (hevent : event ∈ stops) : event.call.purpose = .stop := by
  have hmem := h.cleanup ▸ List.mem_map_of_mem (f := Event.call) hevent
  obtain ⟨place, -, hplace⟩ := List.mem_map.1 hmem
  rw [← hplace]
  rfl

theorem purpose_of_mem_counts (h : Phases n main stops counts filled counted) {event : Event}
    (hevent : event ∈ counts) : event.call.purpose = .count := by
  have hmem := h.afterwards.mem_plan hevent
  generalize event.call = call at hmem
  cases filled with
  | none =>
      obtain rfl | rfl : call = .keywords ∨ call = .attributes := by simpa [counting] using hmem
      · rfl
      · rfl
  | some failure => cases hmem

/-- Calls that fill the index are made in the first part. -/
theorem exists_main (h : Phases n main stops counts filled counted) {front back : List Event}
    {event : Event} (hlog : main ++ stops ++ counts = front ++ event :: back)
    (hevent : event.call.purpose = .fill) : ∃ middle, main = front ++ event :: middle := by
  rw [List.append_assoc] at hlog
  refine exists_eq_append_of_not_mem hlog fun hmem => ?_
  obtain hmem | hmem := List.mem_append.1 hmem
  · cases hevent.symm.trans (h.purpose_of_mem_stops hmem)
  · cases hevent.symm.trans (h.purpose_of_mem_counts hmem)

/-- What fills the index goes well only after what comes before it in the plan. -/
theorem went_well (h : Phases n main stops counts filled counted) {first second : List Call}
    (hplan : plan (List.range n) = first ++ second) {front back : List Event} {event : Event}
    (hlog : main ++ stops ++ counts = front ++ event :: back)
    (hevent : event.call.purpose = .fill) (hlater : event.call ∉ first) {call : Call}
    (hcall : call ∈ first) : .ofCall call ∈ front := by
  obtain ⟨middle, hmain⟩ := h.exists_main hlog hevent
  exact (hplan ▸ h.planned).went_well hmain hlater hcall

theorem callsFor_fill (h : Phases n main stops counts filled counted) :
    callsFor .fill (main ++ stops ++ counts) = main := by
  rw [callsFor_append, callsFor_append, callsFor_of_forall fun _ => h.purpose_of_mem_main,
    callsFor_of_ne (fun _ => h.purpose_of_mem_stops) (by decide),
    callsFor_of_ne (fun _ => h.purpose_of_mem_counts) (by decide), List.append_nil, List.append_nil]

theorem callsFor_stop (h : Phases n main stops counts filled counted) :
    callsFor .stop (main ++ stops ++ counts) = stops := by
  rw [callsFor_append, callsFor_append, callsFor_of_forall fun _ => h.purpose_of_mem_stops,
    callsFor_of_ne (fun _ => h.purpose_of_mem_main) (by decide),
    callsFor_of_ne (fun _ => h.purpose_of_mem_counts) (by decide), List.nil_append, List.append_nil]

theorem callsFor_count (h : Phases n main stops counts filled counted) :
    callsFor .count (main ++ stops ++ counts) = counts := by
  rw [callsFor_append, callsFor_append, callsFor_of_forall fun _ => h.purpose_of_mem_counts,
    callsFor_of_ne (fun _ => h.purpose_of_mem_main) (by decide),
    callsFor_of_ne (fun _ => h.purpose_of_mem_stops) (by decide), List.nil_append, List.nil_append]

theorem startedIn_eq (h : Phases n main stops counts filled counted) :
    startedIn (main ++ stops ++ counts) = startedIn main := by
  rw [← startedIn_callsFor, h.callsFor_fill]

/-- Those that have started are shut down, the last one first. -/
theorem stoppedIn_eq (h : Phases n main stops counts filled counted) :
    stoppedIn (main ++ stops ++ counts) = (startedIn main).reverse := by
  have hplaces : stoppedIn stops = (stops.map (·.call)).filterMap Call.shutdown? := by
    rw [List.filterMap_map]
    rfl
  rw [← stoppedIn_callsFor, h.callsFor_stop, hplaces, h.cleanup, List.filterMap_map]
  exact List.filterMap_some ..

/-- Those that have started are different ones. -/
theorem nodup_startedIn (h : Phases n main stops counts filled counted) :
    (startedIn main).Nodup := by
  have hplan : (plan (List.range n)).filterMap Call.startup? = List.range n := by
    have hothers : (refilling (List.range n)).filterMap Call.startup? = [] :=
      List.filterMap_eq_nil_iff.2 fun call => startup?_of_mem_refilling
    rw [plan, List.filterMap_append, hothers, List.append_nil, List.filterMap_map]
    exact List.filterMap_some ..
  exact (hplan ▸ h.planned.startedIn_prefix).sublist.nodup List.nodup_range

end Phases

/-! ## What comes of shutdowns -/

/-- The providers differ at most in what comes of their shutdowns. -/
structure Provider.Alike (p q : Provider σ) : Prop where
  startup : p.startup = q.startup
  provide : p.provide = q.provide
  shutdown : ∀ s, (p.shutdown.run s).2 = (q.shutdown.run s).2

section Alike

variable {providers others : List (Provider σ)}

/-- Such providers start alike. -/
theorem exists_startAll_alike {started started' : List (Provider σ)}
    (hstarted : List.Forall₂ Provider.Alike started started')
    (h : List.Forall₂ Provider.Alike providers others) (s : σ) :
    ∃ now now' outcome after, (startAll started providers).run s = ((now, outcome), after) ∧
      (startAll started' others).run s = ((now', outcome), after) ∧
      List.Forall₂ Provider.Alike now now' := by
  induction h generalizing started started' s with
  | nil => exact ⟨started, started', .ok (), s, rfl, rfl, hstarted⟩
  | cons hfirst hrest ih =>
      rename_i p q rest rest'
      cases hstart : (p.startup.run s).1 with
      | ok =>
          have hstart' : (q.startup.run s).1 = .ok () := hfirst.startup ▸ hstart
          obtain ⟨now, now', outcome, after, hrun, hrun', hnow⟩ :=
            ih (.cons hfirst hstarted) (p.startup.run s).2
          refine ⟨now, now', outcome, after, (run_startAll_cons_ok hstart _ _).trans hrun, ?_, hnow⟩
          rw [run_startAll_cons_ok hstart', ← hfirst.startup]
          exact hrun'
      | error failure =>
          have hstart' : (q.startup.run s).1 = .error failure := hfirst.startup ▸ hstart
          refine ⟨started, started', .error failure, (p.startup.run s).2,
            run_startAll_cons_error hstart _ _, ?_, hstarted⟩
          rw [run_startAll_cons_error hstart', ← hfirst.startup]

/-- Such providers hand over the same pages. -/
theorem drain_congr (h : List.Forall₂ Provider.Alike providers others) (report : Report) :
    drain providers report = drain others report := by
  induction h generalizing report with
  | nil => rfl
  | cons hfirst _ ih =>
      rw [drain, drain, hfirst.provide]
      exact congrArg _ (funext fun _ => ih _)

/-- Shutting such providers down leaves the same. -/
theorem run_stopAll_congr (h : List.Forall₂ Provider.Alike providers others) (s : σ) :
    (stopAll providers).run s = (stopAll others).run s := by
  induction h generalizing s with
  | nil => rfl
  | cons hfirst _ ih =>
      rename_i p q rest rest' _
      show (stopAll rest).run (p.shutdown.run s).2 = (stopAll rest').run (q.shutdown.run s).2
      rw [hfirst.shutdown]
      exact ih _

/-- What comes of shutdowns does not show in a run. -/
theorem fillAndCount_congr (target : Target σ) (h : List.Forall₂ Provider.Alike providers others) :
    fillAndCount target providers = fillAndCount target others := by
  have hrefill : refill target providers = refill target others := by
    rw [refill, refill, funext (drain_congr h)]
  have hfill : fill target providers = fill target others := by
    funext s
    obtain ⟨now, now', outcome, after, hrun, hrun', hnow⟩ := exists_startAll_alike .nil h s
    cases outcome with
    | ok =>
        refine (run_fill_of_ok target hrun).trans (Eq.trans ?_ (run_fill_of_ok target hrun').symm)
        rw [hrefill, run_stopAll_congr hnow]
    | error failure =>
        refine (run_fill_of_error target hrun).trans
          (Eq.trans ?_ (run_fill_of_error target hrun').symm)
        rw [run_stopAll_congr hnow]
  rw [fillAndCount, fillAndCount, hfill]

end Alike

/-! ## The lifecycle of providers -/

/-- What the log of a run with `n` providers says, if the run has come to this outcome. -/
structure Lifecycle (n : Nat) (log : List Event) (outcome : Outcome Report) : Prop where
  /-- What fills the index is done in the order of the plan, and each call at most once. -/
  ordered : (callsFor .fill log).map (·.call) <+: plan (List.range n)
  /-- The providers that are shut down are those that have started, the last one first. -/
  stopped : stoppedIn log = (startedIn log).reverse
  once : (stoppedIn log).Nodup
  /-- Nothing is done for the index any more once a provider was shut down. -/
  behind : ∀ front event back place, log = front ++ event :: back →
    event.call = .shutdown place → callsFor .fill back = []
  /-- Pages are handed over once all providers have started and the index is empty. -/
  provided : ∀ front event back place, log = front ++ event :: back →
    event.call = .provide place →
      (∀ other < n, .ofCall (.startup other) ∈ front) ∧ .ofCall .clear ∈ front
  flushed : ∀ front event back, log = front ++ event :: back → event.call = .flush →
    ∀ place < n, .ofCall (.provide place) ∈ front
  compacted : ∀ front event back, log = front ++ event :: back → event.call = .compact →
    .ofCall .flush ∈ front
  /-- The first failure on the way to a filled index is what the run comes to. -/
  first : ∀ failure, (callsFor .fill log).findSome? (·.failure) = some failure →
    outcome = .error failure
  /-- A run fails with that failure, or with one of the counting; shutdowns do not count. -/
  told : failureOf outcome = ((callsFor .fill log).findSome? (·.failure)).or
    ((callsFor .count log).findSome? (·.failure))
  /-- Behind a report there is an index that was filled, flushed and compacted. -/
  persisted : ∀ report, outcome = .ok report →
    callsFor .fill log = (plan (List.range n)).map .ofCall

/-- A run with these three parts keeps the lifecycle. -/
theorem Phases.lifecycle {n : Nat} {main stops counts : List Event}
    {filled counted : Option Failure} {outcome : Outcome Report}
    (h : Phases n main stops counts filled counted) (hout : failureOf outcome = filled.or counted) :
    Lifecycle n (main ++ stops ++ counts) outcome where
  ordered := by
    rw [h.callsFor_fill]
    exact h.planned.calls_prefix
  stopped := by rw [h.stoppedIn_eq, h.startedIn_eq]
  once := by
    rw [h.stoppedIn_eq]
    exact List.nodup_reverse.2 h.nodup_startedIn
  behind front event back place hlog hcall := by
    have hmain : event ∉ main := fun hmem => by
      have hpurpose := h.purpose_of_mem_main hmem
      rw [hcall] at hpurpose
      cases hpurpose
    rw [List.append_assoc] at hlog
    obtain ⟨middle, -, hlater⟩ := exists_append_eq_of_not_mem hlog hmain
    have hnone : callsFor .fill (stops ++ counts) = [] := by
      rw [callsFor_append, callsFor_of_ne (fun _ => h.purpose_of_mem_stops) (by decide),
        callsFor_of_ne (fun _ => h.purpose_of_mem_counts) (by decide), List.append_nil]
    rw [hlater, List.append_cons, callsFor_append] at hnone
    exact (List.append_eq_nil_iff.1 hnone).2
  provided front event back place hlog hcall := by
    -- The plan is cut where pages are handed over; all in front of that has gone well.
    have hplan : plan (List.range n) = ((List.range n).map .startup ++ [.clear])
        ++ ((List.range n).map .provide ++ [.flush, .compact]) := by simp [plan, refilling]
    have hbefore : ∀ call ∈ (List.range n).map .startup ++ [.clear], .ofCall call ∈ front :=
      fun call => h.went_well hplan hlog (by rw [hcall]; rfl) (by simp [hcall])
    exact ⟨fun other hother => hbefore _ (by simpa using hother), hbefore _ (by simp)⟩
  flushed front event back hlog hcall place hplace := by
    have hplan : plan (List.range n) = ((List.range n).map .startup ++ [.clear]
        ++ (List.range n).map .provide) ++ [.flush, .compact] := by simp [plan, refilling]
    exact h.went_well hplan hlog (by rw [hcall]; rfl) (by simp [hcall]) (by simpa using hplace)
  compacted front event back hlog hcall := by
    have hplan : plan (List.range n) = ((List.range n).map .startup ++ [.clear]
        ++ (List.range n).map .provide ++ [.flush]) ++ [.compact] := by simp [plan, refilling]
    exact h.went_well hplan hlog (by rw [hcall]; rfl) (by simp [hcall]) (by simp)
  first failure hfirst := by
    rw [h.callsFor_fill, h.planned.findSome?_failure] at hfirst
    rw [hfirst] at hout
    cases outcome with
    | ok report => cases hout
    | error other => cases hout; rfl
  told := by
    rw [h.callsFor_fill, h.callsFor_count, h.planned.findSome?_failure,
      h.afterwards.findSome?_failure, hout]
  persisted report hok := by
    have hfilled : filled = none := by
      rw [hok] at hout
      exact (Option.or_eq_none_iff.1 hout.symm).1
    rw [h.callsFor_fill]
    exact (hfilled ▸ h.planned).events_eq

/-- A run keeps the lifecycle of its providers, whatever the calls of the providers and of the index
do and whichever of them fail; its notes change nothing, and what comes of the shutdowns does not
show. This holds of a run over any state, and so of one that opens an engine and closes it. -/
theorem keeps_lifecycle :
    (∀ (σ : Type) (target : Target σ) (providers : List (Provider σ)) (s : σ),
      let told := traced target providers s
      (fillAndCount target providers).run s = (told.1, told.2.1) ∧
        Lifecycle providers.length told.2.2 told.1 ∧
        ∀ others, List.Forall₂ Provider.Alike providers others →
          (fillAndCount target others).run s = (told.1, told.2.1)) ∧
    ∀ (τ : Type) (config : Config) (stored : Store.OrderedMap Bytes) (engine : Engine)
      (providers : List (Provider (Engine × τ))) (rest : τ),
      Engine.ofConfig (configOf config) stored = .ok engine →
        let told := traced engineTarget providers (engine, rest)
        run config stored providers rest = (told.1, told.2.1.2, told.2.1.1.close) ∧
          Lifecycle providers.length told.2.2 told.1 ∧
          ∀ others, List.Forall₂ Provider.Alike providers others →
            run config stored others rest = run config stored providers rest := by
  have hall : ∀ (σ : Type) (target : Target σ) (providers : List (Provider σ)) (s : σ),
      let told := traced target providers s
      (fillAndCount target providers).run s = (told.1, told.2.1) ∧
        Lifecycle providers.length told.2.2 told.1 := by
    intro σ target providers s
    obtain ⟨main, stops, counts, filled, counted, htraced, hout, hphases⟩ :=
      exists_phases target providers s
    rw [htraced]
    exact ⟨rfl, hphases.lifecycle hout⟩
  refine ⟨fun σ target providers s => ?_, fun τ config stored engine providers rest hopen => ?_⟩
  · obtain ⟨hrun, hlifecycle⟩ := hall σ target providers s
    refine ⟨hrun, hlifecycle, fun others halike => ?_⟩
    rw [← fillAndCount_congr target halike]
    exact hrun
  · obtain ⟨hrun, hlifecycle⟩ := hall _ engineTarget providers (engine, rest)
    refine ⟨?_, hlifecycle, fun others halike => ?_⟩
    · rw [run, hopen]
      exact congrArg (fun result => (result.1, result.2.2, result.2.1.close)) hrun
    · rw [run, run, fillAndCount_congr engineTarget halike]

/-- Three providers: the pages of the second one and the shutdown of the first one fail. -/
def faltering (lost stuck : Failure) : List (Provider σ) :=
  [{ startup := return (), provide := return {}, shutdown := .ofOutcome (.error stuck) },
    { startup := return (), provide := .ofOutcome (.error lost), shutdown := return () },
    { startup := return (), provide := return {}, shutdown := return () }]

/-- Without pages from the second provider nothing is written out; all three are shut down, and the
run comes to the failure of the pages, also if no shutdown fails. A run of an engine does so too. -/
theorem keeps_lifecycle_faltering :
    let lost : Failure := .reported .io "no pages"
    let stuck : Failure := .reported .io "still busy"
    let target : Target Unit := ⟨return (), return (), return (), return 0, return 0⟩
    let steady : List (Provider Unit) := (faltering lost stuck).map fun provider =>
      { provider with shutdown := return () }
    let told := traced target (faltering lost stuck) ()
    told = (.error lost, (), [⟨.startup 0, none⟩, ⟨.startup 1, none⟩, ⟨.startup 2, none⟩,
        ⟨.clear, none⟩, ⟨.provide 0, none⟩, ⟨.provide 1, some lost⟩, ⟨.shutdown 2, none⟩,
        ⟨.shutdown 1, none⟩, ⟨.shutdown 0, some stuck⟩]) ∧
      Lifecycle 3 told.2.2 told.1 ∧ ((fillAndCount target steady).run ()).1 = .error lost ∧
      (run {} ∅ (faltering lost stuck) ()).1 = .error lost := by
  intro lost stuck target steady told
  have hsteady : List.Forall₂ Provider.Alike (faltering lost stuck) steady :=
    .cons ⟨rfl, rfl, fun _ => rfl⟩ (.cons ⟨rfl, rfl, fun _ => rfl⟩
      (.cons ⟨rfl, rfl, fun _ => rfl⟩ .nil))
  obtain ⟨-, hlifecycle, halike⟩ := keeps_lifecycle.1 Unit target (faltering lost stuck) ()
  obtain ⟨hrun, -⟩ := keeps_lifecycle.2 Unit {} ∅ _ (faltering lost stuck) () rfl
  refine ⟨rfl, hlifecycle, congrArg Prod.fst (halike steady hsteady), ?_⟩
  rw [hrun]
  rfl

end SiteIndex.Precache
