import Mathlib.Tactic.Set
import SiteIndex.Proofs.Action
import SiteIndex.Site.Rebuild

/-!
# What a rebuild comes upon

A rebuild goes through mounts, scopes and files, but what it comes upon does not depend on what the
indexers make of it: it is one list of visits (`visits`), and the rebuild acts on them one after the
other (`rebuild_eq`). The pages of this list are those of the files of all scopes that can be taken
up (`made_eq`), and the catalog holds them, whatever fails (`catalog_rebuild`). An indexer that is
alone is told of every page that was made and then of every one that is gone, and the rebuild is a
success exactly if everything could be read and the indexer has accepted all of them
(`reports_rebuild`).
-/

namespace SiteIndex.Site

open Page (Stub)

variable {σ : Type}

/-! ## Visits -/

/-- What a rebuild comes upon. -/
inductive Visit where
  /-- Something that cannot be read. -/
  | fault (mount path : String) (failure : Failure)
  /-- The number of the files of a scope that are pages. -/
  | files (count : Nat)
  | entry (stub : Stub) (page : Page)

namespace Visit

/-- The page that was made, if it could be. -/
def page? : Visit → Option (Stub × Page)
  | entry stub page => some (stub, page)
  | fault _ _ _ | files _ => none

/-- Nothing stands in the way. -/
def isRead : Visit → Bool
  | fault _ _ _ => false
  | files _ | entry _ _ => true

/-- What a rebuild does about it. -/
def perform (indexers : List (Indexer σ)) (p : Progress) : Visit → StateM σ Progress
  | fault mount path failure => return p.addFault mount path failure
  | files count => return { p with report := { p.report with files := p.report.files + count } }
  | entry stub page => enter indexers stub page p

end Visit

/-- The visit of a file. -/
def fileVisit (site : Site) (previous : NameMap Stub) (mount : Mount) (scope : Scope)
    (path : String) : Visit :=
  match site.take previous mount scope path with
  | .ok (stub, page) => .entry stub page
  | .error failure => .fault mount.point path failure

/-- The visits of a scope. -/
def scopeVisits (site : Site) (previous : NameMap Stub) (mount : Mount) (scope : Scope) :
    List Visit :=
  match scope.pages site.formats with
  | .error failure => [.fault mount.point scope.files.name failure]
  | .ok paths => .files paths.length :: paths.map (site.fileVisit previous mount scope)

/-- The visits of a mount. -/
def mountVisits (site : Site) (previous : NameMap Stub) (entry : Mount × Nat) : List Visit :=
  match site.scopes entry.2 entry.1 with
  | .error failure => [.fault entry.1.point "" failure]
  | .ok scopes => scopes.flatMap (site.scopeVisits previous entry.1)

/-- All that a rebuild comes upon; `previous` has the stubs that were known before. -/
def visits (site : Site) (previous : NameMap Stub) : List Visit :=
  site.mounts.zipIdx.flatMap (site.mountVisits previous)

/-- The pages that a rebuild makes, in the order in which it takes them up. -/
def made (site : Site) (previous : NameMap Stub) : List (Stub × Page) :=
  (site.visits previous).filterMap Visit.page?

/-- The stubs of a catalog that are not in the next one. -/
def gone (previous next : NameMap Stub) : List Stub :=
  previous.values.filter fun stub => !next.contains stub.shasum

/-- A loop over the items of several lists is a loop over these lists. -/
theorem foldlM_flatMap {m : Type → Type} [Monad m] [LawfulMonad m] {α β γ : Type}
    (f : β → γ → m β) (g : α → List γ) (items : List α) (b : β) :
    (items.flatMap g).foldlM f b = items.foldlM (fun b a => (g a).foldlM f b) b := by
  induction items generalizing b with
  | nil => rfl
  | cons a rest ih =>
      rw [List.flatMap_cons, List.foldlM_append, List.foldlM_cons]
      exact congrArg _ (funext ih)

section Visits

variable {site : Site} {indexers : List (Indexer σ)} {previous : NameMap Stub}

/-- A file is taken up as it is found. -/
theorem visitFile_eq (mount : Mount) (scope : Scope) :
    site.visitFile indexers previous mount scope
      = fun p path => (site.fileVisit previous mount scope path).perform indexers p := by
  funext p path
  unfold visitFile fileVisit
  cases site.take previous mount scope path with
  | error failure => rfl
  | ok entry => rfl

/-- A scope is taken up visit by visit. -/
theorem visitScope_eq (mount : Mount) : site.visitScope indexers previous mount
    = fun p scope => (site.scopeVisits previous mount scope).foldlM (Visit.perform indexers) p := by
  funext p scope
  unfold visitScope scopeVisits
  cases scope.pages site.formats with
  | error failure => rfl
  | ok paths =>
      rw [visitFile_eq]
      exact List.foldlM_map.symm

/-- A mount is taken up visit by visit. -/
theorem visitMount_eq : site.visitMount indexers previous
    = fun p entry => (site.mountVisits previous entry).foldlM (Visit.perform indexers) p := by
  funext p entry
  unfold visitMount mountVisits
  cases site.scopes entry.2 entry.1 with
  | error failure => rfl
  | ok scopes =>
      show scopes.foldlM _ _ = List.foldlM _ _ (scopes.flatMap _)
      rw [visitScope_eq, foldlM_flatMap]

/-- A rebuild acts on its visits and dismisses the pages that are gone. -/
theorem rebuild_eq (previous : Catalog) : site.rebuild indexers previous = (do
    let p ← (site.visits previous.stubs).foldlM (Visit.perform indexers) {}
    let p ← (gone previous.stubs p.catalog.stubs).foldlM (dismiss indexers) p
    return (p.report, p.catalog)) := by
  unfold rebuild visits
  rw [visitMount_eq, foldlM_flatMap]
  rfl

end Visits

/-! ## The pages of a rebuild -/

section Made

variable (site : Site) (previous : NameMap Stub)

/-- The visit of a file makes its page if it can be taken up. -/
theorem page?_fileVisit (mount : Mount) (scope : Scope) (path : String) :
    (site.fileVisit previous mount scope path).page?
      = (site.take previous mount scope path).toOption := by
  unfold fileVisit
  cases site.take previous mount scope path <;> rfl

/-- The visits of a scope make the pages of its files. -/
theorem pages_scopeVisits (mount : Mount) (scope : Scope) :
    (site.scopeVisits previous mount scope).filterMap Visit.page?
      = ((scope.pages site.formats).toOption.getD []).filterMap fun path =>
          (site.take previous mount scope path).toOption := by
  unfold scopeVisits
  cases scope.pages site.formats with
  | error failure => rfl
  | ok paths =>
      show (paths.map _).filterMap Visit.page? = paths.filterMap _
      rw [List.filterMap_map]
      exact congrArg (paths.filterMap ·) (funext (site.page?_fileVisit previous mount scope))

/-- The visits of a mount make the pages of its scopes. -/
theorem pages_mountVisits (entry : Mount × Nat) :
    (site.mountVisits previous entry).filterMap Visit.page?
      = ((site.scopes entry.2 entry.1).toOption.getD []).flatMap fun scope =>
          ((scope.pages site.formats).toOption.getD []).filterMap fun path =>
            (site.take previous entry.1 scope path).toOption := by
  unfold mountVisits
  cases site.scopes entry.2 entry.1 with
  | error failure => rfl
  | ok scopes =>
      show (scopes.flatMap _).filterMap Visit.page? = scopes.flatMap _
      rw [List.filterMap_flatMap]
      exact congrArg (scopes.flatMap ·) (funext (site.pages_scopeVisits previous entry.1))

/-- A rebuild takes up mount by mount, in each of them scope by scope, and in each of these file by
file; what cannot be read is passed over. -/
theorem made_eq : site.made previous
    = site.mounts.zipIdx.flatMap fun entry =>
        ((site.scopes entry.2 entry.1).toOption.getD []).flatMap fun scope =>
          ((scope.pages site.formats).toOption.getD []).filterMap fun path =>
            (site.take previous entry.1 scope path).toOption := by
  rw [made, visits, List.filterMap_flatMap]
  exact congrArg (site.mounts.zipIdx.flatMap ·) (funext (site.pages_mountVisits previous))

end Made

/-! ## Loops -/

/-- What holds at the start of a loop and is kept by each of its steps holds at its end. -/
theorem foldlM_induction {α β : Type} {f : β → α → StateM σ β}
    {motive : List α → β → σ → Prop}
    (hstep : ∀ front a b s, motive front b s →
      motive (front ++ [a]) ((f b a).run s).run.1 ((f b a).run s).run.2)
    {b : β} {s : σ} (hstart : motive [] b s) (items : List α) :
    motive items ((items.foldlM f b).run s).run.1 ((items.foldlM f b).run s).run.2 := by
  have hmore : ∀ (items front : List α) (b : β) (s : σ), motive front b s →
      motive (front ++ items) ((items.foldlM f b).run s).run.1
        ((items.foldlM f b).run s).run.2 := by
    intro items
    induction items with
    | nil =>
        intro front b s h
        rwa [List.append_nil]
    | cons a rest ih =>
        intro front b s h
        rw [List.foldlM_cons, ← List.singleton_append, ← List.append_assoc]
        exact ih (front ++ [a]) _ _ (hstep front a b s h)
  exact hmore items [] b s hstart

/-! ## The catalog -/

/-- The catalog of pages that are registered one after the other. -/
def Catalog.ofPages (pages : List (Stub × Page)) : Catalog :=
  pages.foldl (fun c entry => c.register entry.1 entry.2) {}

/-- A visit registers the page that was made, whether or not the indexers accept it. -/
theorem catalog_perform (indexers : List (Indexer σ)) (p : Progress) (visit : Visit) (s : σ) :
    ((visit.perform indexers p).run s).run.1.catalog
      = visit.page?.toList.foldl (fun c entry => c.register entry.1 entry.2) p.catalog := by
  cases visit <;> rfl

/-- Visits register the pages that were made. -/
theorem catalog_visits (indexers : List (Indexer σ)) (visits : List Visit) (s : σ) :
    ((visits.foldlM (Visit.perform indexers) {}).run s).run.1.catalog
      = .ofPages (visits.filterMap Visit.page?) := by
  refine foldlM_induction (f := Visit.perform indexers)
    (motive := fun front p _ => p.catalog = .ofPages (front.filterMap Visit.page?)) ?_ rfl visits
  intro front visit p s h
  rw [catalog_perform, h, List.filterMap_append, Catalog.ofPages, Catalog.ofPages,
    List.foldl_append, List.filterMap_cons]
  cases visit.page? <;> rfl

/-- Dismissing pages leaves the catalog alone. -/
theorem catalog_dismissed (indexers : List (Indexer σ)) (p : Progress) (stubs : List Stub)
    (s : σ) : ((stubs.foldlM (dismiss indexers) p).run s).run.1.catalog = p.catalog :=
  foldlM_induction (f := dismiss indexers) (motive := fun _ q _ => q.catalog = p.catalog)
    (fun _ _ _ _ h => h) rfl stubs

/-- After a rebuild the catalog holds the pages that it made, whatever has failed. -/
theorem catalog_rebuild (site : Site) (indexers : List (Indexer σ)) (previous : Catalog) (s : σ) :
    ((site.rebuild indexers previous).run s).run.1.2 = .ofPages (site.made previous.stubs) := by
  rw [rebuild_eq]
  exact (catalog_dismissed indexers _ _ _).trans (catalog_visits indexers _ s)

/-! ## Requests -/

section Requests

variable {indexer : Indexer σ} {indexers : List (Indexer σ)} {stub : Stub}
  {ask : Indexer σ → Action σ Unit} {report : Report} {failure : Failure} {s s' : σ}

/-- After an indexer that does not fail the others are asked. -/
theorem run_askAll_of_ok (h : (ask indexer).run s = (.ok (), s')) :
    (askAll stub ask (indexer :: indexers) report).run s
      = (askAll stub ask indexers report).run s' := by
  rw [askAll, StateT.run_bind, show @StateT.run σ Id _ (ask indexer).run s = _ from h]
  rfl

/-- The others are asked as well after an indexer that fails, and its failure is reported. -/
theorem run_askAll_of_error (h : (ask indexer).run s = (.error failure, s')) :
    (askAll stub ask (indexer :: indexers) report).run s
      = ((false, ((askAll stub ask indexers
          (report.addFault stub.mount stub.source failure)).run s').run.1.2),
        ((askAll stub ask indexers
          (report.addFault stub.mount stub.source failure)).run s').run.2) := by
  rw [askAll, StateT.run_bind, show @StateT.run σ Id _ (ask indexer).run s = _ from h]
  rfl

end Requests

/-! ## A rebuild without faults -/

section Success

variable {indexer : Indexer σ} {p : Progress} {s : σ}

/-- An indexer that is alone is asked once. -/
theorem run_askAll (stub : Stub) (ask : Indexer σ → Action σ Unit) (report : Report) (s : σ) :
    (askAll stub ask [indexer] report).run s
      = (match (ask indexer).run s with
        | (.ok (), s) => ((true, report), s)
        | (.error failure, s) => ((false, report.addFault stub.mount stub.source failure), s) :
          (Bool × Report) × σ) := by
  cases h : (ask indexer).run s with
  | mk outcome s' => cases outcome with
    | ok => exact run_askAll_of_ok h
    | error failure => exact run_askAll_of_error h

/-- An indexer that is alone changes the state as it is asked to. -/
theorem state_askAll (stub : Stub) (ask : Indexer σ → Action σ Unit) (report : Report) (s : σ) :
    ((askAll stub ask [indexer] report).run s).run.2 = ((ask indexer).run s).2 := by
  rw [run_askAll]
  split
  case h_1 s' hrun => rw [hrun]; rfl
  case h_2 failure s' hrun => rw [hrun]; rfl

/-- A request ends without faults if there was none before and the indexer does not fail. -/
theorem faults_askAll (stub : Stub) (ask : Indexer σ → Action σ Unit) (report : Report) (s : σ) :
    ((askAll stub ask [indexer] report).run s).run.1.2.faults = [] ↔
      report.faults = [] ∧ ((ask indexer).run s).1 = .ok () := by
  rw [run_askAll]
  split
  case h_1 s' hrun =>
    rw [hrun]
    exact (and_iff_left rfl).symm
  case h_2 failure s' hrun =>
    rw [hrun]
    exact ⟨fun h => by simp [Report.addFault, Id.run] at h, nofun⟩

/-- A visit changes the state by adding the page that was made, if any. -/
theorem state_perform (visit : Visit) :
    ((visit.perform [indexer] p).run s).run.2
      = ((visit.page?.toList.forM fun entry => indexer.add entry.1 entry.2).run s).2 := by
  cases visit with
  | fault mount path failure => rfl
  | files count => rfl
  | entry stub page =>
      show _ = ((List.forM [(stub, page)] _ : Action σ Unit).run s).2
      rw [Action.run_forM_singleton]
      exact state_askAll stub (·.add stub page) p.report s

/-- A visit ends without faults if there was none before, nothing stands in the way, and the page
that was made, if any, is accepted. -/
theorem faults_perform (visit : Visit) :
    ((visit.perform [indexer] p).run s).run.1.report.faults = [] ↔
      p.report.faults = [] ∧ visit.isRead = true ∧
        ((visit.page?.toList.forM fun entry => indexer.add entry.1 entry.2).run s).1 = .ok () := by
  cases visit with
  | fault mount path failure =>
      show p.report.faults ++ [_] = [] ↔ _
      simp [Visit.isRead]
  | files count => exact (and_iff_left ⟨rfl, rfl⟩).symm
  | entry stub page =>
      have hfaults : (((Visit.entry stub page).perform [indexer] p).run s).run.1.report.faults
          = ((askAll stub (·.add stub page) [indexer] p.report).run s).run.1.2.faults := by
        show (if _ then _ else _ : Report).faults = _
        split <;> rfl
      show _ ↔ _ ∧ true = true ∧ ((List.forM [(stub, page)] _ : Action σ Unit).run s).1 = _
      rw [hfaults, Action.run_forM_singleton, and_iff_right rfl]
      exact faults_askAll stub (·.add stub page) p.report s

/-- What a loop of a rebuild reports is what an action gives: there are no faults if it is `ready`
and the action goes well, and then the loop leaves the state of the action. -/
structure Reports (faults : List Fault) (ready : Prop) (s : σ) (result : Outcome Unit × σ) :
    Prop where
  faults_iff : faults = [] ↔ ready ∧ result.1 = .ok ()
  state_eq : faults = [] → s = result.2

/-- Visits report what comes of adding the pages that were made. -/
theorem reports_visits (indexer : Indexer σ) (visits : List Visit) (s : σ) :
    Reports ((visits.foldlM (Visit.perform [indexer]) {}).run s).run.1.report.faults
      (∀ visit ∈ visits, visit.isRead = true)
      ((visits.foldlM (Visit.perform [indexer]) {}).run s).run.2
      (((visits.filterMap Visit.page?).forM fun entry => indexer.add entry.1 entry.2).run s) := by
  refine foldlM_induction (f := Visit.perform [indexer]) (motive := fun front p s' =>
    Reports p.report.faults (∀ visit ∈ front, visit.isRead = true) s'
      (((front.filterMap Visit.page?).forM fun entry => indexer.add entry.1 entry.2).run s))
    ?_ ⟨(and_iff_left rfl).symm.trans (and_congr_left' (by simp)), fun _ => rfl⟩ visits
  rintro front visit p s' ⟨hfaults, hstate⟩
  have hpages : (front ++ [visit]).filterMap Visit.page?
      = front.filterMap Visit.page? ++ visit.page?.toList := by
    rw [List.filterMap_append, List.filterMap_cons]
    cases visit.page? <;> rfl
  constructor
  case faults_iff =>
    rw [hpages, faults_perform, Action.forM_append_ok_iff, List.forall_mem_append,
      List.forall_mem_singleton]
    constructor
    · rintro ⟨hbefore, hvisit, hadd⟩
      obtain ⟨hread, hfront⟩ := hfaults.1 hbefore
      exact ⟨⟨hread, hvisit⟩, hfront, hstate hbefore ▸ hadd⟩
    · rintro ⟨⟨hread, hvisit⟩, hfront, hadd⟩
      have hbefore := hfaults.2 ⟨hread, hfront⟩
      exact ⟨hbefore, hvisit, (hstate hbefore).symm ▸ hadd⟩
  case state_eq =>
    intro hafter
    have hbefore := ((faults_perform visit).1 hafter).1
    rw [hpages, state_perform, Action.run_forM_append (hfaults.1 hbefore).2, hstate hbefore]

/-- Pages that are dismissed report what comes of removing them. -/
theorem reports_dismissed (indexer : Indexer σ) (p : Progress) (stubs : List Stub) (s : σ) :
    Reports ((stubs.foldlM (dismiss [indexer]) p).run s).run.1.report.faults
      (p.report.faults = []) ((stubs.foldlM (dismiss [indexer]) p).run s).run.2
      ((stubs.forM indexer.remove).run s) := by
  refine foldlM_induction (f := dismiss [indexer]) (motive := fun front q s' =>
    Reports q.report.faults (p.report.faults = []) s' ((front.forM indexer.remove).run s)) ?_
    ⟨(and_iff_left rfl).symm, fun _ => rfl⟩ stubs
  rintro front stub q s' ⟨hfaults, hstate⟩
  have hremove : ((dismiss [indexer] q stub).run s').run.1.report.faults = [] ↔
      q.report.faults = [] ∧ ((indexer.remove stub).run s').1 = .ok () :=
    faults_askAll stub (·.remove stub) { q.report with removed := q.report.removed + 1 } s'
  have hremoved : ((dismiss [indexer] q stub).run s').run.2 = ((indexer.remove stub).run s').2 :=
    state_askAll stub (·.remove stub) { q.report with removed := q.report.removed + 1 } s'
  constructor
  case faults_iff =>
    rw [hremove, Action.forM_append_ok_iff, Action.run_forM_singleton]
    constructor
    · rintro ⟨hbefore, hok⟩
      obtain ⟨hp, hfront⟩ := hfaults.1 hbefore
      exact ⟨hp, hfront, hstate hbefore ▸ hok⟩
    · rintro ⟨hp, hfront, hok⟩
      have hbefore := hfaults.2 ⟨hp, hfront⟩
      exact ⟨hbefore, (hstate hbefore).symm ▸ hok⟩
  case state_eq =>
    intro hafter
    have hbefore := (hremove.1 hafter).1
    rw [hremoved, Action.run_forM_append (hfaults.1 hbefore).2, Action.run_forM_singleton,
      hstate hbefore]

/-- What a rebuild asks of an indexer: to add every page that it makes, and then to remove every
page that is gone. -/
def requests (site : Site) (indexer : Indexer σ) (previous : Catalog) : Action σ Unit := do
  (site.made previous.stubs).forM fun entry => indexer.add entry.1 entry.2
  (gone previous.stubs (Catalog.ofPages (site.made previous.stubs)).stubs).forM indexer.remove

/-- A rebuild reports what comes of its requests. It is a success if nothing stands in the way of
its visits and the indexer has done all that it was asked, and then it has done just this. -/
theorem reports_rebuild (site : Site) (indexer : Indexer σ) (previous : Catalog) (s : σ) :
    Reports ((site.rebuild [indexer] previous).run s).run.1.1.faults
      (∀ visit ∈ site.visits previous.stubs, visit.isRead = true)
      ((site.rebuild [indexer] previous).run s).run.2
      ((site.requests indexer previous).run s) := by
  have hcatalog := catalog_visits [indexer] (site.visits previous.stubs) s
  obtain ⟨hvisits, hadded⟩ := reports_visits indexer (site.visits previous.stubs) s
  set v := (((site.visits previous.stubs).foldlM (Visit.perform [indexer]) {}).run s).run
  obtain ⟨hdismissed, hremoved⟩ :=
    reports_dismissed indexer v.1 (gone previous.stubs v.1.catalog.stubs) v.2
  rw [rebuild_eq]
  constructor
  case faults_iff =>
    rw [requests, Action.run_seq_ok_iff, ← and_assoc]
    refine hdismissed.trans ⟨?_, ?_⟩
    · rintro ⟨hbefore, hremove⟩
      rw [hcatalog, hadded hbefore] at hremove
      exact ⟨hvisits.1 hbefore, hremove⟩
    · rintro ⟨hadd, hremove⟩
      have hbefore := hvisits.2 hadd
      refine ⟨hbefore, ?_⟩
      rw [hcatalog, hadded hbefore]
      exact hremove
  case state_eq =>
    intro hafter
    have hbefore := (hdismissed.1 hafter).1
    refine (hremoved hafter).trans ?_
    rw [requests, made, Action.run_bind_of_ok (hvisits.1 hbefore).2, hcatalog, hadded hbefore]

end Success

end SiteIndex.Site
