import SiteIndex.Proofs.Page.Context
import SiteIndex.Proofs.Site.Faithful

/-!
# How fresh the index is

A page that is indexed is not posted again as long as its shasum stays, and the shasum does not
tell the times of the file. So the index has the times of the file as it was when the shasum was
seen first, and they go stale when the file is touched (`updated_touched`). All other attributes
are those of the page as it is made now, for every stub that stands for its content
(`fresh_run`).
-/

namespace SiteIndex.Site

open Engine (pairsOf)
open Files (File MemoryFiles)
open Index (Distinct Used refer)
open Page (Origin Stub)
open Store.Key (isName)

/-! ## Origins in the course of events -/

namespace Moment

/-- The origins that are hashed on an event. -/
def hashes (layout : Layout) (m : Moment) : Event → List Origin
  | .rebuild => (layout.site m.files).origins
  | .write _ _ _ | .remove _ _ => []

/-- The origins that are hashed in the course of events. -/
def seen (layout : Layout) : Moment → List Event → List Origin
  | _, [] => []
  | m, event :: rest => m.hashes layout event ++ seen layout (m.step layout event) rest

/-- The last of several events hashes after the others. -/
theorem seen_concat (layout : Layout) (m : Moment) (front : List Event) (event : Event) :
    m.seen layout (front ++ [event])
      = m.seen layout front ++ (m.run layout front).hashes layout event := by
  induction front generalizing m with
  | nil => exact List.append_nil _
  | cons first rest ih =>
      rw [List.cons_append, seen, ih, seen, List.append_assoc]
      rfl

/-- A rebuild leaves the files as they are. -/
theorem files_rebuild (layout : Layout) (m : Moment) : (m.step layout .rebuild).files = m.files :=
  rfl

/-- What an engine goes through is one of the courses that a catalog can take. -/
theorem reached_run (layout : Layout) {files : Nat → MemoryFiles} (hclean : Clean files)
    (engine : Engine) (events : List Event) :
    Reached layout ((start files engine).run layout events).files
      ((start files engine).run layout events).catalog
      ((start files engine).seen layout events) := by
  induction events using List.reverseRecOn with
  | nil => exact .start hclean
  | append_singleton front event ih =>
      rw [run_concat, seen_concat]
      cases event with
      | write number path file =>
          rw [hashes, List.append_nil]
          exact ih.write number path file
      | remove number path =>
          rw [hashes, List.append_nil]
          exact ih.remove number path
      | rebuild => exact ih.rebuild [Engine.indexer] _

end Moment

/-! ## Pages of one origin -/

/-- The page is made from the text of an origin, at some times of its file. -/
def Layout.Renders (layout : Layout) (o : Origin) (page : Page) : Prop :=
  ∃ stub raw created modified, stub.shasum = o.shasum ∧ (placeOf stub).origin o.bytes = o ∧
    Text.Utf8.decode? o.bytes = some raw ∧
    Page.assemble stub raw created modified
      (layout.formats.find? (Markup.formatOf stub.source)) = .ok page

section Renders

variable {layout : Layout} {files : Nat → MemoryFiles} {stub : Stub} {file : File}
  {page page' : Page} {o : Origin}

/-- A stub that stands for its content makes a page of this origin. -/
theorem renders_of_make? (hfile : layout.fileAt? files stub.home stub.source = some file)
    (hshasum : ((placeOf stub).origin file.bytes).shasum = stub.shasum)
    (hmake : (layout.site files).make? stub = .ok page) :
    layout.Renders ((placeOf stub).origin file.bytes) page := by
  obtain ⟨raw, hraw, hpage⟩ := exists_text_of_make? hfile hmake
  exact ⟨stub, raw, file.created, file.modified, hshasum.symm, rfl, hraw, hpage⟩

/-- Pages of one origin have the same values under every attribute, but for times that differ. -/
theorem Layout.Renders.pairs_iff (h : layout.Renders o page) (h' : layout.Renders o page')
    {name : String} {value : Value} (hcreated : name = "created" → page.created = page'.created)
    (hupdated : name = "updated" → page.updated = page'.updated) :
    (name, value) ∈ pairsOf page ↔ (name, value) ∈ pairsOf page' := by
  obtain ⟨stub, raw, created, modified, hshasum, horigin, hraw, hpage⟩ := h
  obtain ⟨stub', raw', created', modified', hshasum', horigin', hraw', hpage'⟩ := h'
  obtain rfl := Option.some.inj (hraw.symm.trans hraw')
  obtain ⟨hmount, hlanguage, hsource, -⟩ := Origin.mk.inj (horigin'.trans horigin.symm)
  obtain ⟨hsame, created, updated, hretimed⟩ := Page.exists_retimed (hshasum'.trans hshasum.symm)
    hsource hmount hlanguage hpage
  rw [show (placeOf stub').source = stub'.source from rfl] at hsource
  rw [show stub'.source = stub.source from hsource, hretimed] at hpage'
  obtain rfl := Except.ok.inj hpage'
  have hfield : (page.retimed created updated).context.get? name
      = page.withContext.context.get? name :=
    Page.get?_context_of_retimed page hcreated hupdated
  rw [hsame] at hfield
  rw [pairsOf, pairsOf, Index.Attributes.mem_postings_iff, Index.Attributes.mem_postings_iff,
    hfield]

end Renders

/-! ## Pages that stand -/

/-- The stubs of the catalog have pages that stand for them, and each of these was made from an
origin that has been seen. -/
structure Rooted (layout : Layout) (seen : List Origin) (m : Moment) : Prop where
  stubs : ∀ shasum, m.catalog.stubs.contains shasum = true ↔ standing m.past shasum ≠ none
  renders : ∀ shasum page, standing m.past shasum = some page →
    ∃ o ∈ seen, o.shasum = shasum ∧ layout.Renders o page

section Rooted

variable {layout : Layout} {m : Moment} {seen : List Origin}

/-- A page that was not known is made from a file that the rebuild has hashed. -/
theorem exists_origin_of_made (hclean : Clean m.files) (hsettled : Settled layout seen m.catalog)
    {shasum : String} {page : Page} (hunknown : m.catalog.stubs.get? shasum = none)
    (hpage : firstOf (m.next layout).made shasum = some page) :
    ∃ o ∈ (layout.site m.files).origins, o.shasum = shasum ∧ layout.Renders o page := by
  rw [firstOf, Option.map_eq_some_iff] at hpage
  obtain ⟨⟨stub, page⟩, hfound, rfl⟩ := hpage
  have hshasum : stub.shasum = shasum := by simpa using List.find?_some hfound
  have hmade : (stub, page) ∈ (layout.site m.files).made m.catalog.stubs :=
    List.mem_of_find?_eq_some hfound
  obtain ⟨place, file, hplace, hfile, hstub, hmake⟩ := (mem_made_iff hclean).1 hmade
  have hsame := hsettled.shasum_stubAt place file.bytes
  rw [← hstub, hshasum] at hsame
  rw [Layout.stubAt, ← hsame, hunknown, Option.getD_none] at hstub
  have hwhere : placeOf stub = place := by rw [hstub]; rfl
  rw [← hwhere] at hplace hfile hsame
  refine ⟨(placeOf stub).origin file.bytes, ?_, hsame.symm, ?_⟩
  · exact (mem_origins_iff hclean).2 ⟨placeOf stub, file, hplace, hfile, rfl⟩
  · exact renders_of_make? hfile (hsame.symm.trans hshasum.symm) hmake

/-- A rebuild keeps the pages that stand, and takes new ones from its files. -/
theorem Rooted.rebuild (h : Rooted layout seen m) (hclean : Clean m.files)
    (hsettled : Settled layout seen m.catalog) :
    Rooted layout (seen ++ (layout.site m.files).origins) (m.rebuild layout) := by
  constructor
  case stubs => exact m.contains_rebuild layout
  case renders =>
    intro shasum page hpage
    rw [Moment.rebuild, standing_concat, Option.map_eq_some_iff] at hpage
    obtain ⟨first, hfirst, hpage⟩ := hpage
    cases hold : standing m.past shasum with
    | some old =>
        rw [hold, Option.getD_some] at hpage
        subst hpage
        obtain ⟨o, ho, hshasum, hrenders⟩ := h.renders shasum old hold
        exact ⟨o, List.mem_append_left _ ho, hshasum, hrenders⟩
    | none =>
        rw [hold, Option.getD_none] at hpage
        subst hpage
        have hunknown : m.catalog.stubs.get? shasum = none := by
          have hnot := mt (h.stubs shasum).1 (not_not.2 hold)
          simpa [NameMap.contains] using hnot
        obtain ⟨o, ho, hshasum, hrenders⟩ := exists_origin_of_made hclean hsettled hunknown hfirst
        exact ⟨o, List.mem_append_right _ ho, hshasum, hrenders⟩

/-- The pages that stand after events were made from origins that these have hashed. -/
theorem rooted_run (layout : Layout) {files : Nat → MemoryFiles} (hclean : Clean files)
    (engine : Engine) (events : List Event) :
    Rooted layout ((Moment.start files engine).seen layout events)
      ((Moment.start files engine).run layout events) := by
  induction events using List.reverseRecOn with
  | nil => exact ⟨fun _ => ⟨nofun, nofun⟩, nofun⟩
  | append_singleton front event ih =>
      obtain ⟨hclean', hsettled⟩ := (Moment.reached_run layout hclean engine front).settled
      rw [Moment.run_concat, Moment.seen_concat]
      cases event with
      | write number path file =>
          rw [Moment.hashes, List.append_nil]
          exact ⟨ih.stubs, ih.renders⟩
      | remove number path =>
          rw [Moment.hashes, List.append_nil]
          exact ⟨ih.stubs, ih.renders⟩
      | rebuild => exact ih.rebuild hclean' hsettled

end Rooted

/-- After a rebuild, a stub of the catalog that stands for its content makes a page of its origin,
which the rebuild has hashed. -/
theorem exists_page_of_faithful {layout : Layout} {m : Moment} {seen : List Origin}
    (hclean : Clean m.files)
    (hsettled : Settled layout seen (m.rebuild layout).catalog) {shasum : String} {stub : Stub}
    (hstub : (m.rebuild layout).catalog.stubs.get? shasum = some stub)
    (hfaithful : Faithful (layout.site m.files) stub) :
    ∃ page, (layout.site m.files).make? stub = .ok page ∧
      ∃ o ∈ (layout.site m.files).origins, o.shasum = shasum ∧ layout.Renders o page := by
  obtain ⟨bytes, hbytes, hsame⟩ := hfaithful
  rw [bytesAt_site, Option.map_eq_some_iff] at hbytes
  obtain ⟨file, hfile, rfl⟩ := hbytes
  have hplace := (hsettled.derives shasum stub hstub).place
  have hpages := hstub
  rw [Moment.catalog_rebuild] at hpages
  obtain ⟨page, hpage⟩ := Catalog.exists_page_of_ofPages hpages
  have hmade : (stub, page) ∈ (layout.site m.files).made m.catalog.stubs := hpage
  obtain ⟨-, -, -, -, -, hmake⟩ := (mem_made_iff hclean).1 hmade
  refine ⟨page, hmake, (placeOf stub).origin file.bytes, ?_, ?_, ?_⟩
  · exact (mem_origins_iff hclean).2 ⟨placeOf stub, file, hplace, hfile, rfl⟩
  · exact hsame.trans (hsettled.keyed shasum stub hstub)
  · exact renders_of_make? hfile hsame hmake

/-- The index has a stub under the values of the page that stands for it, and these are the values
of the page that it makes now, under every attribute but those of times that have changed. -/
structure Fresh (site : Site) (m : Moment) (shasum : String) (stub : Stub) (first page : Page) :
    Prop where
  stands : standing m.past shasum = some first
  makes : site.make? stub = .ok page
  values : ∀ name, isName name = true →
    ∃ listed, ((Index.Attributes.values name).run m.engine.store).1 = .ok listed ∧
      ∀ value,
        let posted := ∃ stubs, (value, stubs) ∈ listed ∧ shasum ∈ stubs
        (posted ↔ (name, value) ∈ pairsOf first) ∧
          ((name = "created" → first.created = page.created) →
            (name = "updated" → first.updated = page.updated) →
            (posted ↔ (name, value) ∈ pairsOf page))

/-- A stub that stands for its content is fresh after a rebuild that has left the index in step. -/
theorem exists_fresh {layout : Layout} {m : Moment} {seen : List Origin} {formats : Markup.Formats}
    (hclean : Clean m.files) (hsettled : Settled layout seen (m.rebuild layout).catalog)
    (hrooted : Rooted layout seen (m.rebuild layout))
    (hinStep : InStep formats (standing (m.rebuild layout).past) (m.rebuild layout).catalog
      (m.rebuild layout).engine.store)
    (hseen : ∀ o ∈ (layout.site m.files).origins, o ∈ seen)
    (hapart : Set.InjOn Origin.shasum {o | o ∈ seen}) {shasum : String} {stub : Stub}
    (hstub : (m.rebuild layout).catalog.stubs.get? shasum = some stub)
    (hfaithful : Faithful (layout.site m.files) stub) :
    ∃ first page, Fresh (layout.site m.files) (m.rebuild layout) shasum stub first page := by
  obtain ⟨first, hfirst⟩ := Option.ne_none_iff_exists'.1
    ((hinStep.stubs shasum).1 (Option.isSome_iff_exists.2 ⟨stub, hstub⟩))
  obtain ⟨o, ho, hshasum, hrenders⟩ := hrooted.renders shasum first hfirst
  obtain ⟨page, hmake, o', ho', hshasum', hrenders'⟩ :=
    exists_page_of_faithful hclean hsettled hstub hfaithful
  obtain rfl : o = o' := hapart ho (hseen o' ho') (hshasum.trans hshasum'.symm)
  refine ⟨first, page, hfirst, hmake, fun name hname => ?_⟩
  obtain ⟨listed, hlisted, hvalues⟩ := hinStep.values name hname
  refine ⟨listed, hlisted, fun value => ?_⟩
  have hposted : (∃ stubs, (value, stubs) ∈ listed ∧ shasum ∈ stubs) ↔
      (name, value) ∈ pairsOf first := by
    rw [hvalues, hfirst]
    simp
  exact ⟨hposted, fun hcreated hupdated =>
    hposted.trans (hrenders.pairs_iff hrenders' hcreated hupdated)⟩

/-- Once all rebuilds have reported success, the index has each stub of the catalog under the values
of the page that was first made for it. If the stub stands for its content, these are the values of
the page that it makes now, under every attribute but those of times that have changed since. -/
theorem fresh_run (layout : Layout) {files : Nat → MemoryFiles} (hclean : Clean files)
    {engine : Engine} (hempty : engine.store.Holds ∅) (hwritable : engine.config.readOnly = false)
    (events : List Event) :
    let m := (Moment.start files engine).run layout (events ++ [.rebuild])
    (∀ r ∈ m.past, r.report.isSuccess = true) → Distinct (Used m.changes) →
      (∀ front, front <+: m.changes → (refer {} front).2.Fits) →
      Set.InjOn Origin.shasum
        {o | o ∈ (Moment.start files engine).seen layout (events ++ [.rebuild])} →
      ∀ shasum stub, m.catalog.stubs.get? shasum = some stub →
        Faithful (layout.site m.files) stub →
        ∃ first page, Fresh (layout.site m.files) m shasum stub first page := by
  intro m hsuccess hdistinct hfits hapart shasum stub hstub hfaithful
  have hstart : Upkept (Used m.changes) engine.config engine.formats
      (Moment.start files engine) := ⟨nofun, fun _ => ⟨nofun, nofun⟩, Engine.Tracks.empty hempty⟩
  have hinStep := (hstart.run layout hwritable hdistinct (events ++ [.rebuild])
    ⟨fun _ hv => hv, hfits⟩ hsuccess).inStep hdistinct
  have hsettled := (Moment.reached_run layout hclean engine (events ++ [.rebuild])).settled.2
  have hrooted := rooted_run layout hclean engine (events ++ [.rebuild])
  have hbefore := (Moment.reached_run layout hclean engine events).settled.1
  have hseen : ∀ o ∈ (layout.site ((Moment.start files engine).run layout events).files).origins,
      o ∈ (Moment.start files engine).seen layout (events ++ [.rebuild]) := by
    rw [Moment.seen_concat]
    exact fun o ho => List.mem_append_right _ ho
  have hm : m = ((Moment.start files engine).run layout events).rebuild layout :=
    Moment.run_concat layout _ events .rebuild
  rw [Moment.run_concat layout _ events .rebuild] at hinStep hsettled hrooted
  rw [hm] at hstub hfaithful ⊢
  exact exists_fresh hbefore hsettled hrooted hinStep hseen hapart hstub hfaithful

/-! ## A file that is touched -/

/-- A file is written, and after a rebuild it is written again with the same content. -/
def touching : List Event :=
  [.write 0 "foo.txt" (emptyFile 0), .rebuild, .write 0 "foo.txt" (emptyFile 1)]

/-- The site after the next rebuild. -/
def touched : Moment := blank.run plainLayout (touching ++ [.rebuild])

/-- Both rebuilds report success, and the engine and the catalog have followed them. The first page
of the file stands for its stub, and the stub makes another one now. -/
structure Touched (stub : Stub) (first page : Page) : Prop where
  success : ∀ r ∈ touched.past, r.report.isSuccess = true
  within : Within (· ∈ draftValues) touched.changes
  upkept : Upkept (· ∈ draftValues) blank.engine.config .standard touched
  stands : standing touched.past draftShasum = some first
  pairs_first : pairsOf first = draftPairs 0
  known : touched.catalog.stubs.get? draftShasum = some stub
  makes : (plainLayout.site touched.files).make? stub = .ok page
  pairs : pairsOf page = draftPairs 1

/-- The files have clean names from the start. -/
theorem clean_blank : Clean blank.files := fun _ _ hname => absurd hname List.not_mem_nil

/-- The file is touched between its rebuilds. -/
theorem exists_touched : ∃ stub first page, Touched stub first page := by
  obtain ⟨stub, page, hfirst⟩ := drafts_drafted
  obtain ⟨stub', page', hlast⟩ := drafts_redrafted
  have hpast : touched.past = [drafted.next plainLayout] ++ [redrafted.next plainLayout] := rfl
  have hwithin : Within (· ∈ draftValues) touched.changes := within_draftValues hfirst hlast
  have hstart : Upkept (· ∈ draftValues) blank.engine.config .standard blank :=
    ⟨nofun, fun _ => ⟨nofun, nofun⟩, Engine.Tracks.empty (Store.holds_plain .memory)⟩
  obtain ⟨hsuccess, hupkept⟩ := hfirst.rebuild (hstart.withFiles _) rfl
    (hwithin.of_prefix (Moment.prefix_changes_rebuild plainLayout redrafted))
  obtain ⟨hsuccess', hupkept'⟩ := hlast.rebuild (hupkept.withFiles _) rfl hwithin
  have hclean : Clean redrafted.files := (Moment.reached_run plainLayout clean_blank blank.engine
    touching).settled.1
  have hmade : (stub', page')
      ∈ (plainLayout.site redrafted.files).made redrafted.catalog.stubs := by
    rw [show (plainLayout.site redrafted.files).made _ = _ from hlast.made]
    exact List.mem_singleton_self _
  obtain ⟨-, -, -, -, -, hmake⟩ := (mem_made_iff hclean).1 hmade
  refine ⟨stub', page, page', ⟨?_, hwithin, hupkept', ?_, hfirst.pairs, ?_, hmake, hlast.pairs⟩⟩
  · rw [hpast, List.forall_mem_append, List.forall_mem_singleton, List.forall_mem_singleton]
    exact ⟨hsuccess, hsuccess'⟩
  · rw [hpast, standing_concat, ← List.nil_append [_], standing_concat, firstOf, firstOf,
      hfirst.made, hlast.made]
    simp [hfirst.shasum, hlast.shasum, standing]
  · have hcatalog : touched.catalog = .ofPages (redrafted.next plainLayout).made :=
      Moment.catalog_rebuild plainLayout redrafted
    rw [hcatalog, hlast.made]
    exact NameMap.get?_insert.trans (if_pos hlast.shasum.symm)

/-- All rebuilds report success, and yet the index does not have the time at which the file was
updated. -/
theorem updated_touched : ∃ stub page listed,
    (∀ r ∈ touched.past, r.report.isSuccess = true) ∧
      touched.catalog.stubs.get? draftShasum = some stub ∧
      (plainLayout.site touched.files).make? stub = .ok page ∧
      ((Index.Attributes.values "updated").run touched.engine.store).1 = .ok listed ∧
      ¬ ∀ value, (∃ stubs, (value, stubs) ∈ listed ∧ draftShasum ∈ stubs) ↔
        ("updated", value) ∈ pairsOf page := by
  obtain ⟨stub, first, page, h⟩ := exists_touched
  obtain ⟨listed, hlisted, hvalues⟩ :=
    (h.upkept.inStep distinct_draftValues).values "updated" (by decide)
  refine ⟨stub, page, listed, h.success, h.known, h.makes, hlisted, fun hall => ?_⟩
  have hnew : ("updated", Value.time (midnight 1)) ∈ pairsOf page := by
    rw [h.pairs]
    decide
  obtain ⟨first', hfirst', hold⟩ := (hvalues _ _).1 ((hall _).2 hnew)
  obtain rfl := Option.some.inj (h.stands.symm.trans hfirst')
  rw [h.pairs_first] at hold
  exact absurd hold (by decide)

/-- What the shasum of the file is made of. -/
def touchedOrigin : Origin := ⟨"/", "en", "foo.txt", []⟩

/-- All that is hashed is this. -/
theorem seen_touched :
    ∀ o ∈ blank.seen plainLayout (touching ++ [.rebuild]), o = touchedOrigin := by
  decide +kernel

/-- The stub of the touched file stands for its content. -/
theorem Touched.faithful {stub : Stub} {first page : Page} (h : Touched stub first page) :
    Faithful (plainLayout.site touched.files) stub := by
  obtain ⟨hclean, hsettled⟩ :=
    (Moment.reached_run plainLayout clean_blank blank.engine (touching ++ [.rebuild])).settled
  obtain ⟨file, hfile, -⟩ := exists_make?_iff.1 ⟨page, h.makes⟩
  have horigin : (placeOf stub).origin file.bytes ∈ (plainLayout.site touched.files).origins :=
    (mem_origins_iff hclean).2
      ⟨placeOf stub, file, (hsettled.derives _ stub h.known).place, hfile, rfl⟩
  have hshasum : touchedOrigin.shasum = draftShasum := by decide +kernel
  have hfiles : touched.files = (blank.run plainLayout touching).files := by
    rw [touched, Moment.run_concat, Moment.files_rebuild]
  have hseen : (placeOf stub).origin file.bytes
      ∈ blank.seen plainLayout (touching ++ [.rebuild]) := by
    rw [hfiles] at horigin
    rw [Moment.seen_concat]
    exact List.mem_append_right _ horigin
  refine ⟨file.bytes, bytesAt_site.trans (by rw [hfile]; rfl), ?_⟩
  rw [seen_touched _ hseen, hshasum, hsettled.keyed _ stub h.known]

/-- The stub of the touched file is fresh: it has the times of the first page and all else of the
page of now. -/
theorem fresh_run_touched : ∃ stub first page,
    touched.catalog.stubs.get? draftShasum = some stub ∧
      Fresh (plainLayout.site touched.files) touched draftShasum stub first page ∧
      pairsOf first = draftPairs 0 ∧ pairsOf page = draftPairs 1 := by
  obtain ⟨stub, first, page, h⟩ := exists_touched
  have hapart : Set.InjOn Origin.shasum {o | o ∈ blank.seen plainLayout (touching ++ [.rebuild])} :=
    fun o ho o' ho' _ => (seen_touched o ho).trans (seen_touched o' ho').symm
  obtain ⟨first', page', hfresh⟩ := fresh_run plainLayout clean_blank (Store.holds_plain .memory)
    rfl touching h.success (h.within.distinct distinct_draftValues) h.within.fits hapart draftShasum
    stub h.known h.faithful
  obtain rfl := Option.some.inj (h.stands.symm.trans hfresh.stands)
  obtain rfl := Except.ok.inj (h.makes.symm.trans hfresh.makes)
  exact ⟨stub, first, page, h.known, hfresh, h.pairs_first, h.pairs⟩

end SiteIndex.Site
