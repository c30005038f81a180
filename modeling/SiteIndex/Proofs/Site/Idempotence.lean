import SiteIndex.Proofs.Engine.Resolution
import SiteIndex.Proofs.Index.Rules
import SiteIndex.Proofs.Page.Context
import SiteIndex.Proofs.Site.Faithful
import SiteIndex.Proofs.Site.Slots

/-!
# Rebuilding twice

A rebuild that reports success leaves nothing to do for the next one: it finds every page in the
engine and nothing gone, and makes at each place the page that the first has registered last for its
shasum. So the report is the same, the engine stays as it is, and the catalog answers the same
(`rebuild_again`). Files that share their shasum come out alike because a shasum tells where its
page is found; this needs mount points and a default language without NUL, which would run into the
parts that follow them.
-/

namespace SiteIndex

open Page (Origin Stub normalizeTag normalizeUrl)
open SiteIndex.Action (Gains)

/-! ## Pages that an engine knows -/

namespace Engine

variable {stub : Stub} {page : Page} {shasum : String} {e : Engine}

/-- The engine leaves the page alone when it is asked to add it: it is only read, or both indexes
have a number for the page. -/
def Knows (shasum : String) (e : Engine) : Prop :=
  e.config.readOnly = true ∨ ∀ ns, Index.Knows ns shasum e.store

/-- What is done to the store leaves the configuration alone. -/
theorem keeps_onStore {α : Type} {x : Action Store α}
    (hx : ∀ ns, Action.Keeps (Index.Knows ns shasum) x) : Action.Keeps (Knows shasum) (onStore x) :=
  fun _ h => h.imp id fun hknows ns => hx ns _ (hknows ns)

/-- A page that is known stays known when a page is added. -/
theorem keeps_add (stub : Stub) (page : Page) : Action.Keeps (Knows shasum) (add stub page) :=
  fun e h => kept_unlessReadOnly (P := Knows shasum) h
    (keeps_onStore (fun _ => Index.knows_attributes_add stub page) e h)
    fun e h => keeps_onStore (fun _ => Index.knows_keywords_add e.formats stub page) e h

/-- A page that is known stays known when another is taken out. -/
theorem keeps_remove (hne : stub.shasum ≠ shasum) : Action.Keeps (Knows shasum) (remove stub) :=
  fun e h => kept_unlessReadOnly (P := Knows shasum) h
    (keeps_onStore (fun _ => Index.knows_attributes_remove hne) e h)
    (keeps_onStore fun _ => Index.knows_keywords_remove hne)

/-- An engine that is only read does nothing about a page. -/
theorem add_of_readOnly (h : e.config.readOnly = true) (stub : Stub) (page : Page) :
    (add stub page).run e = (.ok (), e) := by
  rw [add, Action.run_bind_of_ok (a := true) (congrArg _ h)]
  rfl

/-- An engine that is not only read adds a page to both indexes. -/
theorem add_of_writable (h : e.config.readOnly = false) (stub : Stub) (page : Page) :
    (add stub page).run e = (do
      let _ ← addAttributes stub page
      let _ ← addKeywords stub page : Action Engine Unit).run e := by
  rw [add, Action.run_bind_of_ok (a := false) (congrArg _ h)]
  rfl

/-- A page that is added without a failure is known. -/
theorem gains_add (stub : Stub) (page : Page) : Gains (Knows stub.shasum) (add stub page) := by
  intro e _ hok
  cases hreadOnly : e.config.readOnly with
  | true =>
      rw [add_of_readOnly hreadOnly]
      exact .inl hreadOnly
  | false =>
      rw [add_of_writable hreadOnly] at hok ⊢
      obtain ⟨_, hattributes, hrest⟩ := Action.run_of_bind_ok hok
      rw [hrest] at hok ⊢
      obtain ⟨_, hkeywords, hend⟩ := Action.run_of_bind_ok hok
      rw [hend]
      have hcontext := Index.gains_attributes_add stub page _ _ hattributes
      refine .inr fun ns => ?_
      cases ns with
      | context => exact Index.knows_keywords_add e.formats stub page _ hcontext
      | keyword => exact Index.gains_keywords_add e.formats stub page _ _ hkeywords

/-- A page that is known is left alone. -/
theorem add_of_knows (h : Knows stub.shasum e) (page : Page) :
    (add stub page).run e = (.ok (), e) := by
  cases hreadOnly : e.config.readOnly with
  | true => exact add_of_readOnly hreadOnly stub page
  | false =>
      have hknows := h.resolve_left (by rw [hreadOnly]; nofun)
      have hattributes : (addAttributes stub page).run e = (.ok 0, e) :=
        congrArg (fun r => (r.1, { e with store := r.2 }))
          (Index.attributes_add_of_knows (hknows .context) page)
      have hkeywords : (addKeywords stub page).run e = (.ok 0, e) :=
        congrArg (fun r => (r.1, { e with store := r.2 }))
          (Index.keywords_add_of_knows (hknows .keyword) e.formats page)
      rw [add_of_writable hreadOnly, Action.run_bind_of_ok (congrArg Prod.fst hattributes),
        hattributes, Action.run_bind_of_ok (congrArg Prod.fst hkeywords), hkeywords]
      rfl

/-- Pages that are added without a failure are all known. -/
theorem knows_addEach {pages : List (Stub × Page)}
    (hok : ((pages.forM fun entry => indexer.add entry.1 entry.2).run e).1 = .ok ()) :
    ∀ entry ∈ pages, Knows entry.1.shasum
      ((pages.forM fun entry => indexer.add entry.1 entry.2).run e).2 := by
  have hall := Action.forM_induction (f := fun entry : Stub × Page => indexer.add entry.1 entry.2)
    (s := e) (motive := fun front e => ∀ entry ∈ front, Knows entry.1.shasum e) ?_
    (fun _ h => absurd h List.not_mem_nil) hok
  · exact hall
  · intro front last e _ hknows hok
    rw [List.forall_mem_append, List.forall_mem_singleton]
    exact ⟨fun entry hentry => keeps_add last.1 last.2 e (hknows entry hentry),
      gains_add last.1 last.2 e () hok⟩

/-- A page that is known stays known when others are taken out. -/
theorem knows_removeEach {stubs : List Stub} (hne : ∀ stub ∈ stubs, stub.shasum ≠ shasum)
    (hok : ((stubs.forM indexer.remove).run e).1 = .ok ()) (h : Knows shasum e) :
    Knows shasum ((stubs.forM indexer.remove).run e).2 := by
  refine Action.forM_induction (motive := fun _ e => Knows shasum e) ?_ h hok
  intro front stub e hfront hknows _
  have hstub := hfront.subset (List.mem_append_right front (List.mem_singleton_self stub))
  exact keeps_remove (hne stub hstub) e hknows

end Engine

/-! ## What a rebuild that reports success leaves -/

namespace Site

open Engine (Tracks pairsOf wordsOf)
open Files (File MemoryFiles)
open Index (Change)
open Store.Key (isName)

variable {site : Site} {previous : Catalog} {e : Engine}

/-- Requests that change nothing leave the state as it was. -/
theorem run_forM_of_noop {σ α : Type} {ask : α → Action σ Unit} {items : List α} {s : σ}
    (h : ∀ item ∈ items, (ask item).run s = (.ok (), s)) :
    (items.forM ask).run s = (.ok (), s) := by
  induction items with
  | nil => rfl
  | cons item rest ih =>
      obtain ⟨hitem, hrest⟩ := List.forall_mem_cons.1 h
      show (do ask item; rest.forM ask : Action σ Unit).run s = _
      rw [Action.run_bind_of_ok (congrArg Prod.fst hitem), hitem]
      exact ih hrest

/-- No page was made for the shasum of a stub that is gone. -/
theorem firstOf_of_gone {known : NameMap Stub} {pages : List (Stub × Page)} {stub : Stub}
    (h : stub ∈ gone known (Catalog.ofPages pages).stubs) : firstOf pages stub.shasum = none := by
  have hmissing : (!(Catalog.ofPages pages).stubs.contains stub.shasum) = true :=
    (List.mem_filter.1 h).2
  rwa [Bool.not_eq_true', ← Bool.not_eq_true, Catalog.contains_ofPages, not_not] at hmissing

/-- After a rebuild that reports success the engine knows every page that was made. -/
theorem knows_of_success
    (h : ((site.rebuild [Engine.indexer] previous).run e).run.1.1.isSuccess = true) :
    ∀ entry ∈ site.made previous.stubs,
      Engine.Knows entry.1.shasum ((site.rebuild [Engine.indexer] previous).run e).run.2 := by
  have hreports := reports_rebuild site Engine.indexer previous e
  have hfaults := List.isEmpty_iff.1 h
  obtain ⟨hadd, hremove⟩ := Action.run_seq_ok_iff.1 (hreports.faults_iff.1 hfaults).2
  rw [hreports.state_eq hfaults, requests, Action.run_bind_of_ok hadd]
  intro entry hentry
  refine Engine.knows_removeEach (fun stub hgone heq => ?_) hremove
    (Engine.knows_addEach hadd entry hentry)
  exact firstOf_ne_none.2 ⟨entry, hentry, heq.symm⟩ (firstOf_of_gone hgone)

/-! ## What is made at a place -/

section Places

variable {layout : Layout} {files : Nat → MemoryFiles} {seen : List Origin}

/-- No mount point and not the default language contains a NUL. -/
structure NulFree (site : Site) : Prop where
  points : ∀ point ∈ site.points, '\x00' ∉ point.toList
  language : '\x00' ∉ site.defaultLanguage.toList

/-- The parts of an origin in front of its path contain no NUL. -/
theorem NulFree.of_place (h : (layout.site files).NulFree) {place : Place}
    (hplace : layout.IsPlace place) :
    '\x00' ∉ place.mount.toList ∧ '\x00' ∉ place.language.toList := by
  obtain ⟨file, mount, hmount, hpoint, -, -, rfl⟩ := hplace
  constructor
  · rw [point_place, hpoint]
    refine h.points _ (List.mem_map.2 ⟨.at mount.1 (files mount.2).view, ?_, rfl⟩)
    exact List.mem_map.2 ⟨mount, List.mem_of_getElem? hmount, rfl⟩
  · unfold MountedFile.place
    cases hdir : languageDir? file.path with
    | none => exact h.language
    | some parts => exact Page.zero_not_mem_normalizeTag (languageDir?_eq_some_iff.1 hdir).2

/-- Pages that are made of the same bytes for the same place, if in different homes, are alike. -/
theorem alike_of_make? {stub stub' : Stub} {page page' : Page} {file file' : File}
    (hshown : shown stub = shown stub')
    (hfile : layout.fileAt? files stub.home stub.source = some file)
    (hfile' : layout.fileAt? files stub'.home stub'.source = some file')
    (hbytes : file.bytes = file'.bytes) (hmake : (layout.site files).make? stub = .ok page)
    (hmake' : (layout.site files).make? stub' = .ok page') : Alike (stub, page) (stub', page') := by
  have hmount : stub.mount = stub'.mount := (congrArg Stub.mount hshown :)
  have hlanguage : stub.language = stub'.language := (congrArg Stub.language hshown :)
  have hsource : stub.source = stub'.source := (congrArg Stub.source hshown :)
  have hshasum : stub.shasum = stub'.shasum := (congrArg Stub.shasum hshown :)
  obtain ⟨raw, hraw, hpage⟩ := exists_text_of_make? hfile hmake
  rw [make?_of_text hfile' (hbytes ▸ hraw), ← hsource] at hmake'
  obtain ⟨-, created, updated, hretimed⟩ := Page.exists_retimed hshasum.symm hsource.symm
    hmount.symm hlanguage.symm hpage
  rw [hretimed] at hmake'
  obtain rfl := Except.ok.inj hmake'
  exact ⟨hshown, rfl, rfl, rfl, rfl⟩

/-- Pages that are made for one shasum are alike. -/
theorem alike_of_made (hclean : Clean files) (hsettled : Settled layout seen previous)
    (hplain : (layout.site files).NulFree)
    (hapart : Origin.Collisionless (layout.site files).origins) {entry entry' : Stub × Page}
    (h : entry ∈ (layout.site files).made previous.stubs)
    (h' : entry' ∈ (layout.site files).made previous.stubs)
    (hshasum : entry.1.shasum = entry'.1.shasum) : Alike entry entry' := by
  obtain ⟨stub, page⟩ := entry
  obtain ⟨stub', page'⟩ := entry'
  obtain ⟨place, file, hplace, hfile, rfl, hmake⟩ := (mem_made_iff hclean).1 h
  obtain ⟨place', file', hplace', hfile', rfl, hmake'⟩ := (mem_made_iff hclean).1 h'
  rw [hsettled.shasum_stubAt, hsettled.shasum_stubAt] at hshasum
  cases hknown : previous.stubs.get? (place.origin file.bytes).shasum with
  | some known =>
      -- Both are pages of the stub that was known.
      have hstub : layout.stubAt previous.stubs place file.bytes = known := by
        rw [Layout.stubAt, hknown, Option.getD_some]
      have hstub' : layout.stubAt previous.stubs place' file'.bytes = known := by
        rw [Layout.stubAt, ← hshasum, hknown, Option.getD_some]
      rw [hstub] at hmake ⊢
      rw [hstub', hmake] at hmake'
      obtain rfl := Except.ok.inj hmake'
      rw [hstub']
      exact ⟨rfl, rfl, rfl, rfl, rfl⟩
  | none =>
      -- The shasum tells the place, so that the files can differ in their homes only.
      obtain ⟨hmount, hlanguage⟩ := hplain.of_place hplace
      obtain ⟨hmount', hlanguage'⟩ := hplain.of_place hplace'
      have horigin := Origin.eq_of_shasum hapart
        ((mem_origins_iff hclean).2 ⟨place, file, hplace, hfile, rfl⟩)
        ((mem_origins_iff hclean).2 ⟨place', file', hplace', hfile', rfl⟩) hshasum hmount hmount'
        hlanguage hlanguage'
      obtain ⟨hsamemount, hsamelanguage, hsamesource, hsamebytes⟩ := Origin.mk.inj horigin
      rw [Layout.stubAt, hknown, Option.getD_none] at hmake ⊢
      rw [Layout.stubAt, ← hshasum, hknown, Option.getD_none] at hmake' ⊢
      refine alike_of_make? ?_ hfile hfile' hsamebytes hmake hmake'
      simp only [shown, Place.stub]
      rw [hsamemount, hsamelanguage, hsamesource]

/-- Lists that are made of the same items are related item by item if what is made of each is. -/
theorem forall₂_filterMap {α β : Type} {R : β → β → Prop} {f f' : α → Option β} {items : List α}
    (h : ∀ a ∈ items, ∃ b b', f a = some b ∧ f' a = some b' ∧ R b b') :
    List.Forall₂ R (items.filterMap f) (items.filterMap f') := by
  induction items with
  | nil => exact .nil
  | cons a rest ih =>
      obtain ⟨⟨b, b', hb, hb', hrelated⟩, hrest⟩ := List.forall_mem_cons.1 h
      rw [List.filterMap_cons_some hb, List.filterMap_cons_some hb']
      exact .cons hrelated (ih hrest)

/-- Nothing stands in the way of the visits if a page is made at each place. -/
theorem isRead_visits_iff {known : NameMap Stub} :
    (∀ visit ∈ (layout.site files).visits known, visit.isRead = true) ↔
      ∀ place ∈ (layout.site files).places,
        ∃ entry, (layout.site files).takeAt known place = .ok entry := by
  have htaken := (reaches_site layout files known).taken
  have hplace : ∀ place, ((layout.site files).placeVisit known place).isRead = true ↔
      ∃ entry, (layout.site files).takeAt known place = .ok entry := by
    intro place
    unfold placeVisit
    cases (layout.site files).takeAt known place with
    | ok entry => exact ⟨fun _ => ⟨entry, rfl⟩, fun _ => rfl⟩
    | error failure => exact ⟨nofun, nofun⟩
  constructor
  · intro hall place hmem
    have hvisit : (layout.site files).placeVisit known place
        ∈ ((layout.site files).visits known).filter Visit.isTaking := by
      rw [htaken]
      exact List.mem_map_of_mem hmem
    exact (hplace place).1 (hall _ (List.mem_of_mem_filter hvisit))
  · intro hall visit hvisit
    cases htaking : visit.isTaking with
    | false =>
        cases visit with
        | files count => rfl
        | fault | entry => cases htaking
    | true =>
        have hmem : visit ∈ (layout.site files).places.map
            ((layout.site files).placeVisit known) := by
          rw [← htaken]
          exact List.mem_filter.2 ⟨hvisit, htaking⟩
        obtain ⟨place, hmem', rfl⟩ := List.mem_map.1 hmem
        exact (hplace place).2 (hall place hmem')

/-- What is taken up at a place once more is the page of the stub that the catalog has. -/
theorem exists_resumes (hclean : Clean files) (hsettled : Settled layout seen previous)
    {place : Place} {entry : Stub × Page} (hplace : place ∈ (layout.site files).places)
    (h : (layout.site files).takeAt previous.stubs place = .ok entry) :
    ∃ entry', (layout.site files).takeAt
        (Catalog.ofPages ((layout.site files).made previous.stubs)).stubs place = .ok entry' ∧
      Catalog.Resumes ((layout.site files).made previous.stubs) entry entry' := by
  obtain ⟨stub, page⟩ := entry
  obtain ⟨file, hfile, hstub, hmake⟩ := takeAt_eq_ok_iff.1 h
  have hmade : (stub, page) ∈ (layout.site files).made previous.stubs :=
    (mem_made_iff hclean).2 ⟨place, file, ((mem_places_iff hclean).1 hplace).1, hfile, hstub, hmake⟩
  have hshasum : stub.shasum = (place.origin file.bytes).shasum :=
    hstub ▸ hsettled.shasum_stubAt place file.bytes
  obtain ⟨current, hcurrent⟩ := Option.isSome_iff_exists.1
    (Catalog.contains_ofPages.2 (firstOf_ne_none.2 ⟨_, hmade, rfl⟩))
  obtain ⟨page', hmade'⟩ := Catalog.exists_page_of_ofPages hcurrent
  obtain ⟨-, -, -, -, -, hmake'⟩ := (mem_made_iff hclean).1 hmade'
  refine ⟨(current, page'), takeAt_eq_ok_iff.2 ⟨file, hfile, ?_, hmake'⟩, hmade, hmade', hcurrent⟩
  rw [Layout.stubAt, ← hshasum, hcurrent, Option.getD_some]

/-- After a rebuild that has read all files the next one takes up each of them as the page of the
stub that the catalog has for its shasum. -/
theorem forall₂_resumes (hclean : Clean files) (hsettled : Settled layout seen previous)
    (hread : ∀ visit ∈ (layout.site files).visits previous.stubs, visit.isRead = true) :
    List.Forall₂ (Catalog.Resumes ((layout.site files).made previous.stubs))
      ((layout.site files).made previous.stubs)
      ((layout.site files).made
        (Catalog.ofPages ((layout.site files).made previous.stubs)).stubs) := by
  have hagain : ∀ place ∈ (layout.site files).places, ∃ entry entry',
      ((layout.site files).takeAt previous.stubs place).toOption = some entry ∧
        ((layout.site files).takeAt (Catalog.ofPages
          ((layout.site files).made previous.stubs)).stubs place).toOption = some entry' ∧
        Catalog.Resumes ((layout.site files).made previous.stubs) entry entry' := by
    intro place hplace
    obtain ⟨entry, hentry⟩ := isRead_visits_iff.1 hread place hplace
    obtain ⟨entry', hentry', hresumes⟩ := exists_resumes hclean hsettled hplace hentry
    rw [hentry, hentry']
    exact ⟨entry, entry', rfl, rfl, hresumes⟩
  have hlists := forall₂_filterMap hagain
  rwa [← (reaches_site layout files _).pages, ← (reaches_site layout files _).pages] at hlists

end Places

/-! ## The second rebuild -/

attribute [ext] Report

/-- A rebuild that reports success has counted the files twice, as taken up and as accepted, and
the pages that are gone. -/
theorem report_of_success {layout : Layout} {files : Nat → MemoryFiles}
    (h : (((layout.site files).rebuild [Engine.indexer] previous).run e).run.1.1.isSuccess = true) :
    (((layout.site files).rebuild [Engine.indexer] previous).run e).run.1.1
      = { files := (layout.site files).places.length
          indexed := (layout.site files).places.length
          removed := (gone previous.stubs
            (Catalog.ofPages ((layout.site files).made previous.stubs)).stubs).length } := by
  have hfaults := List.isEmpty_iff.1 h
  have hreaches := reaches_site layout files previous.stubs
  have hindexed := indexed_of_success (layout.site files) Engine.indexer previous e hfaults
  rw [List.countP_eq_length_filter, hreaches.taken, List.length_map] at hindexed
  refine Report.ext ((files_rebuild _ _ _).trans hreaches.counted) hindexed ?_ hfaults
  rw [← catalog_rebuild _ [Engine.indexer] previous e]
  exact removed_rebuild _ _ _

/-- Nothing is gone if the same stubs are there again. -/
theorem gone_self (pages : List (Stub × Page)) :
    gone (Catalog.ofPages pages).stubs (Catalog.ofPages pages).stubs = [] := by
  refine List.filter_eq_nil_iff.2 fun stub hstub => ?_
  obtain ⟨shasum, hshasum⟩ := NameMap.mem_values_iff.1 hstub
  rw [Catalog.shasum_ofPages hshasum, NameMap.contains, hshasum]
  exact Bool.false_ne_true

/-- A rebuild that finds the engine and the catalog as a successful one has left them reports
success as well, with the same numbers of files and of pages, and removes nothing. It leaves the
engine as it is, and the catalog answers as before. -/
theorem rebuild_again {layout : Layout} {m : Moment} {seen : List Origin}
    (hreached : Reached layout m.files m.catalog seen) (hplain : (layout.site m.files).NulFree)
    (hapart : Origin.Collisionless (layout.site m.files).origins)
    (hsuccess : (m.next layout).report.isSuccess = true) :
    let first := m.rebuild layout
    let again := first.rebuild layout
    (first.next layout).report = { (m.next layout).report with removed := 0 } ∧
      again.engine = first.engine ∧ again.catalog.Agree first.catalog := by
  obtain ⟨files, e, previous, past⟩ := m
  set site := layout.site files
  set first := ((site.rebuild [Engine.indexer] previous).run e).run
  set again := ((site.rebuild [Engine.indexer] first.1.2).run first.2).run
  change again.1.1 = { first.1.1 with removed := 0 } ∧ again.2 = first.2 ∧
    again.1.2.Agree first.1.2
  obtain ⟨hclean, hsettled⟩ := hreached.settled
  have hread := ((reports_rebuild site Engine.indexer previous e).faults_iff.1
    (List.isEmpty_iff.1 hsuccess)).1
  have hcatalog : first.1.2 = .ofPages (site.made previous.stubs) := catalog_rebuild ..
  have hcatalog' : again.1.2 = .ofPages (site.made first.1.2.stubs) := catalog_rebuild ..
  have hresumes : List.Forall₂ (Catalog.Resumes (site.made previous.stubs))
      (site.made previous.stubs) (site.made first.1.2.stubs) := by
    rw [hcatalog]
    exact forall₂_resumes hclean hsettled hread
  -- The catalog: every page is made again for the stub that has its slots.
  have hagree : Catalog.Agree again.1.2 first.1.2 := by
    rw [hcatalog, hcatalog']
    exact Catalog.agree_of_again
      (fun _ h _ h' => alike_of_made hclean hsettled hplain hapart h h') hresumes
  have hgone : gone first.1.2.stubs (Catalog.ofPages (site.made first.1.2.stubs)).stubs = [] := by
    rw [← hcatalog', hagree.stubs, hcatalog]
    exact gone_self _
  -- The engine: it knows all pages, and has nothing to remove.
  have hrequests : (site.requests Engine.indexer first.1.2).run first.2 = (.ok (), first.2) := by
    have hadds : ((site.made first.1.2.stubs).forM fun entry =>
        Engine.indexer.add entry.1 entry.2).run first.2 = (.ok (), first.2) :=
      run_forM_of_noop fun entry hentry => Engine.add_of_knows
        (knows_of_success hsuccess entry (Catalog.mem_of_again hresumes entry hentry)) entry.2
    rw [requests, Action.run_bind_of_ok (congrArg Prod.fst hadds), hadds, hgone]
    rfl
  have hread' : ∀ visit ∈ site.visits first.1.2.stubs, visit.isRead = true := by
    rw [hcatalog]
    refine isRead_visits_iff.2 fun place hplace => ?_
    obtain ⟨entry, hentry⟩ := isRead_visits_iff.1 hread place hplace
    obtain ⟨entry', hentry', -⟩ := exists_resumes hclean hsettled hplace hentry
    exact ⟨entry', hentry'⟩
  have hreports := reports_rebuild site Engine.indexer first.1.2 first.2
  have hfaults : again.1.1.faults = [] :=
    hreports.faults_iff.2 ⟨hread', congrArg Prod.fst hrequests⟩
  refine ⟨?_, (hreports.state_eq hfaults).trans (congrArg Prod.snd hrequests), hagree⟩
  have hreport := report_of_success hsuccess
  have hreport' := report_of_success (List.isEmpty_iff.2 hfaults)
  rw [hgone] at hreport'
  exact hreport'.trans (by rw [hreport]; rfl)

/-- The same file is in two file systems at one point. -/
def draftedTwice : Moment :=
  .start (fun _ => MemoryFiles.write { name := "site" } "foo.txt" (emptyFile 0)) blank.engine

/-- The first rebuild makes the page of the file twice and asks for nothing else. -/
theorem made_draftedTwice : ∃ entry entry' : Stub × Page,
    (draftedTwice.next twinLayout).made = [entry, entry'] ∧
      (draftedTwice.next twinLayout).changes = [.add entry.1 entry.2, .add entry'.1 entry'.2] ∧
      ∀ e ∈ [entry, entry'], pairsOf e.2 = draftPairs 0 ∧ wordsOf .standard e.2 = ["foo"] := by
  have hindexed : (draftedTwice.next twinLayout).made.map indexedOf
      = List.replicate 2 (draftShasum, draftPairs 0, "foo\n\n") := by
    decide +kernel
  obtain ⟨entry, rest, hmade, -, hrest⟩ := List.map_eq_cons_iff.1 hindexed
  obtain ⟨entry', rfl, -⟩ := List.map_eq_singleton_iff.1 hrest
  have hgone : (draftedTwice.next twinLayout).gone = [] := Moment.gone_next ..
  refine ⟨entry, entry', hmade, ?_, fun e he => ?_⟩
  · rw [Rebuild.changes, hmade, hgone]
    rfl
  · have hentry : indexedOf e ∈ (draftedTwice.next twinLayout).made.map indexedOf :=
      List.mem_map_of_mem (hmade ▸ he)
    rw [hindexed] at hentry
    obtain ⟨-, hrest⟩ := Prod.mk.inj (List.eq_of_mem_replicate hentry)
    obtain ⟨hpairs, htext⟩ := Prod.mk.inj hrest
    refine ⟨hpairs, ?_⟩
    rw [wordsOf, htext]
    exact Search.terms_fixed.1

/-- The first rebuild reports success. -/
theorem isSuccess_draftedTwice : (draftedTwice.next twinLayout).report.isSuccess = true := by
  obtain ⟨entry, entry', hmade, hchanges, hindexed⟩ := made_draftedTwice
  have hstart : Upkept (· ∈ draftValues) draftedTwice.engine.config .standard draftedTwice :=
    ⟨nofun, fun _ => ⟨nofun, nofun⟩, Tracks.empty (Store.holds_plain .memory)⟩
  have hwithin : Within (· ∈ draftValues) (draftedTwice.rebuild twinLayout).changes := by
    have hall : (draftedTwice.rebuild twinLayout).changes = _ :=
      (Moment.changes_rebuild ..).trans hchanges
    rw [hall]
    exact within_of_two (hindexed entry (by simp)).1 (hindexed entry' (by simp)).1 (by decide)
      (by decide)
  refine hstart.isSuccess_of_named twinLayout rfl distinct_draftValues hwithin
    (List.all_eq_true.1 (by decide +kernel)) ?_
  rw [hmade]
  intro e he
  obtain ⟨hpairs, hwords⟩ := hindexed e he
  have hnames : ∀ name ∈ (draftPairs 0).map (·.1), isName name = true := by decide
  refine ⟨fun p hp => hnames p.1 (List.mem_map_of_mem (hpairs ▸ hp)), ?_⟩
  rw [hwords]
  decide

/-- Of the two pages of the file, which share their shasum and their address, the second one is in
the catalog after either rebuild. -/
theorem rebuild_again_draftedTwice :
    let first := draftedTwice.rebuild twinLayout
    let again := first.rebuild twinLayout
    (draftedTwice.next twinLayout).report.isSuccess = true ∧
      (first.next twinLayout).report = { (draftedTwice.next twinLayout).report with removed := 0 } ∧
      again.engine = first.engine ∧ again.catalog.Agree first.catalog := by
  intro first again
  have hclean : Clean draftedTwice.files := by
    intro _ name hname
    obtain rfl := List.mem_singleton.1 hname
    decide
  have horigin : ∀ o ∈ (twinLayout.site draftedTwice.files).origins,
      o = (⟨"/", "en", "foo.txt", []⟩ : Origin) := by decide +kernel
  have hapart : Origin.Collisionless (twinLayout.site draftedTwice.files).origins :=
    Origin.collisionless_of_forall_eq horigin (by decide +kernel)
  have hplain : (twinLayout.site draftedTwice.files).NulFree :=
    ⟨by decide +kernel, by decide +kernel⟩
  exact ⟨isSuccess_draftedTwice, rebuild_again (.start hclean) hplain hapart isSuccess_draftedTwice⟩

end Site

end SiteIndex
