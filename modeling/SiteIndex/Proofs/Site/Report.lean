import Mathlib.Algebra.Ring.Nat
import Mathlib.Data.List.Induction
import SiteIndex.Proofs.Site.Rebuild

/-!
# What a rebuild counts

A rebuild goes on when something fails, so that an indexer is asked for everything, whatever it
answers (`answers`). Each file that is taken up ends as an accepted page or as a fault, and the only
other faults are those of removals that fail (`tally_rebuild`). After a rebuild that reports success
the pages it has made are counted as indexed (`indexed_of_success`).
-/

namespace SiteIndex.Site

open Page (Stub)

variable {σ α : Type}

/-! ## Answers -/

/-- Asks for one item after the other, whatever fails. -/
def askEach (ask : α → Action σ Unit) (items : List α) : StateM σ (List (Outcome Unit)) :=
  items.mapM fun item => (ask item).run

/-- The last of several items is asked for after the others. -/
theorem run_askEach_concat (ask : α → Action σ Unit) (front : List α) (item : α) (s : σ) :
    (askEach ask (front ++ [item])).run s
      = (((askEach ask front).run s).1 ++ [((ask item).run ((askEach ask front).run s).2).1],
        ((ask item).run ((askEach ask front).run s).2).2) := by
  rw [askEach, List.mapM_append, List.mapM_cons, List.mapM_nil]
  rfl

/-- What each request keeps is kept by all of them, whatever fails. -/
theorem keeps_askEach {P : σ → Prop} {ask : α → Action σ Unit} {items : List α}
    (h : ∀ item ∈ items, Action.Keeps P (ask item)) {s : σ} (hs : P s) :
    P ((askEach ask items).run s).2 := by
  induction items using List.reverseRecOn with
  | nil => exact hs
  | append_singleton front item ih =>
      rw [List.forall_mem_append, List.forall_mem_singleton] at h
      rw [run_askEach_concat]
      exact h.2 _ (ih h.1)

/-- What an indexer that is alone answers in a rebuild: to the pages that are made, and then to the
removal of those that are gone. -/
def answers (site : Site) (indexer : Indexer σ) (previous : Catalog) :
    StateM σ (List (Outcome Unit) × List (Outcome Unit)) := do
  let made := site.made previous.stubs
  let added ← askEach (fun entry => indexer.add entry.1 entry.2) made
  let removed ← askEach indexer.remove (gone previous.stubs (Catalog.ofPages made).stubs)
  return (added, removed)

/-- The number of requests that failed. -/
def failures (outcomes : List (Outcome Unit)) : Nat := outcomes.countP (!·.isOk)

/-- One more request that fails counts. -/
theorem failures_concat (outcomes : List (Outcome Unit)) (outcome : Outcome Unit) :
    failures (outcomes ++ [outcome]) = failures outcomes + if outcome.isOk then 0 else 1 := by
  rw [failures, List.countP_append, List.countP_singleton, failures]
  cases outcome.isOk <;> rfl

/-! ## Files -/

namespace Visit

/-- The number of files that a visit announces. -/
def count : Visit → Nat
  | files count => count
  | fault _ _ _ | entry _ _ => 0

/-- Something is taken up, be it in vain. -/
def isTaking : Visit → Bool
  | files _ => false
  | fault _ _ _ | entry _ _ => true

end Visit

section Files

variable {indexers : List (Indexer σ)}

/-- Requests change nothing of a report but its faults. -/
theorem exists_faults_askAll (stub : Stub) (ask : Indexer σ → Action σ Unit) (report : Report)
    (s : σ) : ∃ faults, ((askAll stub ask indexers report).run s).run.1.2
      = { report with faults := faults } := by
  induction indexers generalizing report s with
  | nil => exact ⟨report.faults, rfl⟩
  | cons indexer rest ih =>
      cases h : (ask indexer).run s with
      | mk outcome s' => cases outcome with
        | ok =>
            obtain ⟨faults, hfaults⟩ := ih report s'
            exact ⟨faults, (congrArg (·.run.1.2) (run_askAll_of_ok h)).trans hfaults⟩
        | error failure =>
            obtain ⟨faults, hfaults⟩ := ih (report.addFault stub.mount stub.source failure) s'
            exact ⟨faults, (congrArg (·.run.1.2) (run_askAll_of_error h)).trans hfaults⟩

/-- Requests leave the number of files as it is. -/
theorem files_askAll (stub : Stub) (ask : Indexer σ → Action σ Unit) (report : Report) (s : σ) :
    ((askAll stub ask indexers report).run s).run.1.2.files = report.files := by
  obtain ⟨faults, hfaults⟩ : ∃ faults, ((askAll stub ask indexers report).run s).run.1.2
      = { report with faults := faults } := exists_faults_askAll stub ask report s
  rw [hfaults]

/-- Only the announcement of files is counted. -/
theorem files_perform (visit : Visit) (p : Progress) (s : σ) :
    ((visit.perform indexers p).run s).run.1.report.files = p.report.files + visit.count := by
  cases visit with
  | fault mount path failure => rfl
  | files count => rfl
  | entry stub page =>
      have hfiles : (((Visit.entry stub page).perform indexers p).run s).run.1.report.files
          = ((askAll stub (·.add stub page) indexers p.report).run s).run.1.2.files := by
        show (if _ then _ else _ : Report).files = _
        split <;> rfl
      rw [hfiles, files_askAll]
      rfl

/-- Removals leave the number of files as it is. -/
theorem files_dismissed (p : Progress) (stubs : List Stub) (s : σ) :
    ((stubs.foldlM (dismiss indexers) p).run s).run.1.report.files = p.report.files := by
  refine foldlM_induction (f := dismiss indexers)
    (motive := fun _ q _ => q.report.files = p.report.files) ?_ rfl stubs
  intro _ stub q s h
  exact (files_askAll stub (·.remove stub)
    { q.report with removed := q.report.removed + 1 } s).trans h

/-- Visits count no page as removed. -/
theorem removed_perform (visit : Visit) (p : Progress) (s : σ) :
    ((visit.perform indexers p).run s).run.1.report.removed = p.report.removed := by
  cases visit with
  | fault mount path failure => rfl
  | files count => rfl
  | entry stub page =>
      obtain ⟨faults, hfaults⟩ :
          ∃ faults, ((askAll stub (·.add stub page) indexers p.report).run s).run.1.2
            = { p.report with faults := faults } :=
        exists_faults_askAll stub (·.add stub page) p.report s
      have hremoved : (((Visit.entry stub page).perform indexers p).run s).run.1.report.removed
          = ((askAll stub (·.add stub page) indexers p.report).run s).run.1.2.removed := by
        show (if _ then _ else _ : Report).removed = _
        split <;> rfl
      rw [hremoved, hfaults]

/-- Removals are counted, and the pages accepted before stay as many. -/
theorem counts_dismissed (p : Progress) (stubs : List Stub) (s : σ) :
    let report := ((stubs.foldlM (dismiss indexers) p).run s).run.1.report
    report.removed = p.report.removed + stubs.length ∧ report.indexed = p.report.indexed := by
  refine foldlM_induction (f := dismiss indexers) (motive := fun front q _ =>
    q.report.removed = p.report.removed + front.length ∧ q.report.indexed = p.report.indexed)
    ?_ ⟨rfl, rfl⟩ stubs
  rintro front stub q s ⟨hremoved, hindexed⟩
  obtain ⟨faults, hreport⟩ : ∃ faults, ((dismiss indexers q stub).run s).run.1.report
      = { q.report with removed := q.report.removed + 1, faults := faults } :=
    exists_faults_askAll stub (·.remove stub)
      { q.report with removed := q.report.removed + 1 } s
  rw [hreport, List.length_append, List.length_singleton, ← Nat.add_assoc, ← hremoved]
  exact ⟨rfl, hindexed⟩

/-- A rebuild counts the pages that are gone, whatever the indexers make of their removal. -/
theorem removed_rebuild (site : Site) (previous : Catalog) (s : σ) :
    let result := ((site.rebuild indexers previous).run s).run.1
    result.1.removed = (gone previous.stubs result.2.stubs).length := by
  have hcatalog := catalog_rebuild site indexers previous s
  have hvisits := catalog_visits indexers (site.visits previous.stubs) s
  have hnone : (((site.visits previous.stubs).foldlM (Visit.perform indexers) {}).run
      s).run.1.report.removed = 0 :=
    foldlM_induction (f := Visit.perform indexers) (motive := fun _ p _ => p.report.removed = 0)
      (fun _ visit p s h => (removed_perform visit p s).trans h) rfl _
  intro result
  rw [show result.2 = _ from hcatalog, made, ← hvisits]
  show ((site.rebuild indexers previous).run s).run.1.1.removed = _
  rw [rebuild_eq]
  set v := (((site.visits previous.stubs).foldlM (Visit.perform indexers) {}).run s).run
  refine (counts_dismissed v.1 (gone previous.stubs v.1.catalog.stubs) v.2).1.trans ?_
  rw [hnone, Nat.zero_add]

/-- A rebuild counts the files of all scopes, whatever the indexers make of them. -/
theorem files_rebuild (site : Site) (previous : Catalog) (s : σ) :
    ((site.rebuild indexers previous).run s).run.1.1.files
      = ((site.visits previous.stubs).map Visit.count).sum := by
  rw [rebuild_eq]
  refine (files_dismissed _ _ _).trans ?_
  refine foldlM_induction (f := Visit.perform indexers)
    (motive := fun front p _ => p.report.files = (front.map Visit.count).sum) ?_ rfl _
  intro front visit p s h
  rw [files_perform, h, List.map_append, List.sum_append, List.map_singleton, List.sum_singleton]

end Files

/-! ## One indexer -/

section Alone

variable {indexer : Indexer σ}

/-- The pages accepted and the faults, taken together. -/
def Report.ends (r : Report) : Nat := r.indexed + r.faults.length

/-- An indexer that is alone decides whether a page is accepted. -/
theorem accepted_askAll (indexer : Indexer σ) (stub : Stub) (ask : Indexer σ → Action σ Unit)
    (report : Report) (s : σ) :
    ((askAll stub ask [indexer] report).run s).run.1.1 = ((ask indexer).run s).1.isOk := by
  rw [run_askAll]
  split
  case h_1 s' hrun => rw [hrun]; rfl
  case h_2 failure s' hrun => rw [hrun]; rfl

/-- A request of an indexer that is alone ends as a fault if it fails. -/
theorem ends_askAll (indexer : Indexer σ) (stub : Stub) (ask : Indexer σ → Action σ Unit)
    (report : Report) (s : σ) :
    ((askAll stub ask [indexer] report).run s).run.1.2.ends
      = report.ends + if ((ask indexer).run s).1.isOk then 0 else 1 := by
  rw [run_askAll]
  split
  case h_1 s' hrun => rw [hrun]; rfl
  case h_2 failure s' hrun =>
    rw [hrun]
    show report.indexed + (report.faults ++ [_]).length = report.ends + 1
    rw [List.length_append]
    rfl

/-- Whatever is taken up ends as an accepted page or as a fault. -/
theorem ends_perform (visit : Visit) (p : Progress) (s : σ) :
    ((visit.perform [indexer] p).run s).run.1.report.ends
      = p.report.ends + if visit.isTaking then 1 else 0 := by
  cases visit with
  | fault mount path failure =>
      show p.report.indexed + (p.report.faults ++ [_]).length = p.report.ends + 1
      rw [List.length_append]
      rfl
  | files count => rfl
  | entry stub page =>
      have haccepted := accepted_askAll indexer stub (·.add stub page) p.report s
      have hends := ends_askAll indexer stub (·.add stub page) p.report s
      rw [← haccepted] at hends
      have hreport : (((Visit.entry stub page).perform [indexer] p).run s).run.1.report
          = (let result := ((askAll stub (·.add stub page) [indexer] p.report).run s).run.1
            if result.1 then { result.2 with indexed := result.2.indexed + 1 } else result.2 :
              Report) := rfl
      rw [hreport]
      generalize ((askAll stub (·.add stub page) [indexer] p.report).run s).run.1 = result
        at hends ⊢
      obtain ⟨accepted, report⟩ := result
      cases accepted with
      | true =>
          show report.indexed + 1 + report.faults.length = p.report.ends + 1
          rw [Nat.add_right_comm]
          exact congrArg (· + 1) hends
      | false => exact hends

/-- Visits end one by one, and change the state as the indexer does that is asked to add each page
that was made. -/
theorem tally_visits (indexer : Indexer σ) (visits : List Visit) (s : σ) :
    let result := ((visits.foldlM (Visit.perform [indexer]) {}).run s).run
    result.1.report.ends = visits.countP Visit.isTaking ∧
      result.2 = ((askEach (fun entry => indexer.add entry.1 entry.2)
        (visits.filterMap Visit.page?)).run s).2 := by
  refine foldlM_induction (f := Visit.perform [indexer]) (motive := fun front p s' =>
    p.report.ends = front.countP Visit.isTaking ∧
      s' = ((askEach (fun entry => indexer.add entry.1 entry.2)
        (front.filterMap Visit.page?)).run s).2) ?_ ⟨rfl, rfl⟩ visits
  rintro front visit p s' ⟨hends, rfl⟩
  constructor
  · rw [ends_perform, hends, List.countP_append, List.countP_singleton]
  · rw [state_perform, List.filterMap_append]
    cases visit with
    | fault | files =>
        rw [List.filterMap_cons_none rfl, List.filterMap_nil, List.append_nil]
        rfl
    | entry stub page =>
        rw [List.filterMap_cons_some (f := Visit.page?) rfl, List.filterMap_nil, run_askEach_concat]
        exact congrArg Prod.snd (Action.run_forM_singleton _ (stub, page) _)

/-- Removals end as faults if they fail, and change the state as the indexer does that is asked for
each of them. -/
theorem tally_dismissed (indexer : Indexer σ) (p : Progress) (stubs : List Stub) (s : σ) :
    let result := ((stubs.foldlM (dismiss [indexer]) p).run s).run
    let asked := (askEach indexer.remove stubs).run s
    result.1.report.ends = p.report.ends + failures asked.1 ∧ result.2 = asked.2 := by
  refine foldlM_induction (f := dismiss [indexer]) (motive := fun front q s' =>
    let asked := (askEach indexer.remove front).run s
    q.report.ends = p.report.ends + failures asked.1 ∧ s' = asked.2) ?_ ⟨rfl, rfl⟩ stubs
  rintro front stub q s' ⟨hends, rfl⟩
  have hask := ends_askAll indexer stub (·.remove stub)
    { q.report with removed := q.report.removed + 1 }
  rw [run_askEach_concat]
  refine ⟨(hask _).trans ?_,
    state_askAll stub (·.remove stub) { q.report with removed := q.report.removed + 1 } _⟩
  rw [failures_concat, ← Nat.add_assoc, ← hends]
  rfl

/-- With an indexer that is alone, whatever is taken up ends as an accepted page or as a fault, and
so does every removal that fails. The indexer is asked for everything. -/
theorem tally_rebuild (site : Site) (indexer : Indexer σ) (previous : Catalog) (s : σ) :
    let result := ((site.rebuild [indexer] previous).run s).run
    let answered := ((site.answers indexer previous).run s).run
    result.1.1.ends
        = (site.visits previous.stubs).countP Visit.isTaking + failures answered.1.2 ∧
      result.2 = answered.2 := by
  have hcatalog := catalog_visits [indexer] (site.visits previous.stubs) s
  obtain ⟨hends, hstate⟩ := tally_visits indexer (site.visits previous.stubs) s
  rw [rebuild_eq]
  set v := (((site.visits previous.stubs).foldlM (Visit.perform [indexer]) {}).run s).run
  obtain ⟨hends', hstate'⟩ :=
    tally_dismissed indexer v.1 (gone previous.stubs v.1.catalog.stubs) v.2
  refine ⟨hends'.trans ?_, hstate'.trans ?_⟩
  · rw [hends, hcatalog, hstate]
    rfl
  · rw [hcatalog, hstate]
    rfl

/-- With an indexer that is alone, a rebuild without faults has accepted whatever was taken up. -/
theorem indexed_of_success (site : Site) (indexer : Indexer σ) (previous : Catalog) (s : σ)
    (h : ((site.rebuild [indexer] previous).run s).run.1.1.faults = []) :
    ((site.rebuild [indexer] previous).run s).run.1.1.indexed
      = (site.visits previous.stubs).countP Visit.isTaking := by
  obtain ⟨hends, -⟩ := tally_visits indexer (site.visits previous.stubs) s
  rw [rebuild_eq] at h ⊢
  set v := (((site.visits previous.stubs).foldlM (Visit.perform [indexer]) {}).run s).run
  have hbefore := ((reports_dismissed indexer v.1 (gone previous.stubs v.1.catalog.stubs)
    v.2).faults_iff.1 h).1
  refine (counts_dismissed v.1 _ v.2).2.trans ?_
  rw [← hends, Report.ends, hbefore]
  rfl

end Alone

end SiteIndex.Site
