import SiteIndex.Proofs.Engine.Rejection
import SiteIndex.Proofs.Site.InStep
import SiteIndex.Proofs.Site.Report

/-!
# Rebuilds that reject pages

The catalog registers a page whether or not the engine accepts it, and a page that was rejected
stays in the index of attributes as well, under the attributes before the first that is no name. The
next rebuild finds it there and does not report it any more. So a rebuild that reports success has
posted all attributes of the pages that were new to it, and of the others those that had been posted
before (`rejected_stays`).
-/

namespace SiteIndex.Site

open Engine (Enrolls keep drop pairsOf)
open Files (File MemoryFiles)
open Index (Admits Change Distinct HasNumber HasPosted Used namedFront refer)
open Markup (Formats)
open Page (Stub)
open Store.Key (isName)

/-! ## Requests one after the other -/

/-- Requests that all go well are the same as requests that go on whatever fails. -/
theorem state_forM_of_ok {σ α : Type} {ask : α → Action σ Unit} {items : List α} {s : σ}
    (hok : ((items.forM ask).run s).1 = .ok ()) :
    ((items.forM ask).run s).2 = ((askEach ask items).run s).2 := by
  refine Action.forM_induction
    (motive := fun front s' => s' = ((askEach ask front).run s).2) ?_ rfl hok
  rintro front item s' - rfl -
  rw [run_askEach_concat]

/-- In a rebuild that reports success, an indexer that is alone accepts each page as it is after the
pages before. -/
theorem accepts_of_isSuccess {σ : Type} {site : Site} {indexer : Indexer σ} {previous : Catalog}
    {s : σ} {front back : List (Stub × Page)} {entry : Stub × Page}
    (hsuccess : ((site.rebuild [indexer] previous).run s).run.1.1.isSuccess = true)
    (hmade : site.made previous.stubs = front ++ entry :: back) :
    ((indexer.add entry.1 entry.2).run
      ((askEach (fun entry => indexer.add entry.1 entry.2) front).run s).2).1 = .ok () := by
  have hreports := reports_rebuild site indexer previous s
  have hadd := (Action.run_seq_ok_iff.1
    (hreports.faults_iff.1 (List.isEmpty_iff.1 hsuccess)).2).1
  rw [hmade] at hadd
  obtain ⟨hfront, hrest⟩ := Action.forM_append_ok_iff.1 hadd
  obtain ⟨⟨⟩, hentry, -⟩ := Action.run_of_bind_ok hrest
  rwa [state_forM_of_ok hfront] at hentry

/-- The first page of a shasum comes behind pages of others. -/
theorem exists_of_firstOf {made : List (Stub × Page)} {shasum : String} {page : Page}
    (h : firstOf made shasum = some page) : ∃ front stub back,
      made = front ++ (stub, page) :: back ∧ stub.shasum = shasum ∧
        firstOf front shasum = none := by
  rw [firstOf, Option.map_eq_some_iff] at h
  obtain ⟨⟨stub, page⟩, hfound, rfl⟩ := h
  obtain ⟨hshasum, front, back, hmade, hbefore⟩ := List.find?_eq_some_iff_append.1 hfound
  refine ⟨front, stub, back, hmade, of_decide_eq_true hshasum, ?_⟩
  rw [firstOf, Option.map_eq_none_iff, List.find?_eq_none]
  exact fun entry hentry => by simpa using hbefore entry hentry

section Each

variable {used : Value → Prop} {config : Config} {formats : Formats} {done : List Change}
  {seen : String → Option Page} {e : Engine}

/-- Pages that the engine is asked to add one after the other are kept, whatever comes of it. -/
theorem enrolls_addEach (h : Enrolls used config formats done seen e)
    (hwritable : config.readOnly = false) (hdistinct : Distinct used) {pages : List (Stub × Page)}
    (hused : ∀ entry ∈ pages, ∀ p ∈ pairsOf entry.2, used p.2)
    (hfits : ∀ front, front <+: pages.map (fun entry => Change.add entry.1 entry.2) →
      (refer {} (done ++ front)).2.Fits) :
    Enrolls used config formats (done ++ pages.map fun entry => .add entry.1 entry.2)
      (pages.foldl (fun seen entry => keep seen entry.1.shasum entry.2) seen)
      ((askEach (fun entry => Engine.indexer.add entry.1 entry.2) pages).run e).2 := by
  induction pages using List.reverseRecOn with
  | nil => rwa [List.map_nil, List.append_nil]
  | append_singleton front entry ih =>
      have hlast := hfits _ (List.prefix_refl _)
      rw [List.map_append, ← List.append_assoc] at hlast
      have hfront := ih (fun entry hentry => hused entry (List.mem_append_left _ hentry))
        fun first hfirst => hfits first (hfirst.trans (by
          rw [List.map_append]
          exact List.prefix_append ..))
      rw [List.map_append, ← List.append_assoc, List.foldl_append, run_askEach_concat]
      exact (hfront.exists_receive hwritable hdistinct
        (hused entry (List.mem_append_right _ (List.mem_singleton_self _))) hlast).1

/-- Pages that the engine is asked to take out one after the other are not kept. -/
theorem enrolls_removeEach (h : Enrolls used config formats done seen e)
    (hwritable : config.readOnly = false) (hdistinct : Distinct used) (stubs : List Stub) :
    Enrolls used config formats (done ++ stubs.map .remove)
      (stubs.foldl (fun seen stub => drop seen stub.shasum) seen)
      ((askEach Engine.indexer.remove stubs).run e).2 := by
  induction stubs using List.reverseRecOn with
  | nil => rwa [List.map_nil, List.append_nil]
  | append_singleton front stub ih =>
      rw [List.map_append, ← List.append_assoc, List.foldl_append, run_askEach_concat]
      exact ih.remove hwritable hdistinct stub

end Each

/-! ## From rebuild to rebuild -/

/-- The index of attributes has numbers for the stubs of the catalog, and each is posted under what
the page says that stands for it, up to the first attribute that is no name. -/
structure Enrolled (m : Moment) : Prop where
  number_iff : ∀ shasum, HasNumber m.engine.store shasum ↔ m.catalog.stubs.contains shasum = true
  posted_iff : ∀ p shasum, HasPosted m.engine.store p shasum ↔
    ∃ page, standing m.past shasum = some page ∧ p ∈ namedFront (pairsOf page)

/-- The engine and the catalog have the pages that the rebuilds made, whatever came of them. -/
structure Carried (used : Value → Prop) (config : Config) (formats : Formats) (m : Moment) :
    Prop where
  keyed : ∀ shasum stub, m.catalog.stubs.get? shasum = some stub → stub.shasum = shasum
  stubs : ∀ shasum, m.catalog.stubs.contains shasum = true ↔ standing m.past shasum ≠ none
  enrolls : Enrolls used config formats m.changes (standing m.past) m.engine

namespace Carried

variable {used : Value → Prop} {config : Config} {formats : Formats} {m : Moment}

/-- Files that change leave the engine and the catalog as they are. -/
theorem withFiles (h : Carried used config formats m) (files : Nat → MemoryFiles) :
    Carried used config formats { m with files } := ⟨h.keyed, h.stubs, h.enrolls⟩

/-- A rebuild carries on, whatever comes of it. -/
theorem rebuild (h : Carried used config formats m) (layout : Layout)
    (hwritable : config.readOnly = false) (hdistinct : Distinct used)
    (hwithin : Within used (m.rebuild layout).changes) :
    Carried used config formats (m.rebuild layout) := by
  refine ⟨fun _ _ => Moment.keyed_rebuild, m.contains_rebuild layout, ?_⟩
  have hgone := m.gone_next layout
  have hengine : (m.rebuilt layout).2 = _ :=
    (tally_rebuild (layout.site m.files) Engine.indexer m.catalog m.engine).2
  have hadded := enrolls_addEach h.enrolls hwritable hdistinct (Upkept.used_of_made layout hwithin)
    (Upkept.fits_of_made layout hwithin)
  have hremoved := enrolls_removeEach hadded hwritable hdistinct (m.next layout).gone
  rw [foldl_rebuild h.keyed h.stubs hgone, List.append_assoc, hgone] at hremoved
  rw [Moment.changes_rebuild, Moment.rebuild, hengine, Rebuild.changes, hgone]
  exact hremoved

/-- Events carry on, whatever comes of the rebuilds. -/
theorem run (h : Carried used config formats m) (layout : Layout)
    (hwritable : config.readOnly = false) (hdistinct : Distinct used) (events : List Event)
    (hwithin : Within used (m.run layout events).changes) :
    Carried used config formats (m.run layout events) := by
  induction events using List.reverseRecOn with
  | nil => exact h
  | append_singleton front event ih =>
      rw [Moment.run_concat] at hwithin ⊢
      cases event with
      | write number path file => exact (ih hwithin).withFiles _
      | remove number path => exact (ih hwithin).withFiles _
      | rebuild =>
          have hfront := ih (hwithin.of_prefix (Moment.prefix_changes_rebuild ..))
          exact hfront.rebuild layout hwritable hdistinct hwithin

/-- What the store shows of the index of attributes. -/
theorem enrolled (h : Carried used config formats m) (hdistinct : Distinct used) : Enrolled m := by
  obtain ⟨hnumber, hposted⟩ := h.enrolls.shows hdistinct
  exact ⟨fun shasum => (hnumber shasum).trans (h.stubs shasum).symm, hposted⟩

/-- No page stands for a shasum that the catalog does not have. -/
theorem standing_eq_none (h : Carried used config formats m) {shasum : String}
    (hnew : m.catalog.stubs.contains shasum = false) : standing m.past shasum = none := by
  rw [← not_ne_iff, ← h.stubs, hnew]
  nofun

/-- If a rebuild reports success, the attributes of every page that is first of its shasum and new
to the catalog are names. -/
theorem isName_of_success (h : Carried used config formats m) (layout : Layout)
    (hwritable : config.readOnly = false) (hdistinct : Distinct used)
    (hwithin : Within used (m.rebuild layout).changes)
    (hsuccess : (m.next layout).report.isSuccess = true) {shasum : String} {page : Page}
    (hnew : m.catalog.stubs.contains shasum = false)
    (hfirst : firstOf (m.next layout).made shasum = some page) :
    ∀ p ∈ pairsOf page, isName p.1 = true := by
  obtain ⟨front, stub, back, hmade, rfl, hnone⟩ := exists_of_firstOf hfirst
  have haccepted := accepts_of_isSuccess hsuccess hmade
  have hused := Upkept.used_of_made layout hwithin
  have hfits := Upkept.fits_of_made layout hwithin
  rw [hmade] at hused hfits
  rw [List.map_append, List.map_cons] at hfits
  -- The page is added to what the pages before it have left, and none of these has its shasum.
  have henrolls := enrolls_addEach h.enrolls hwritable hdistinct
    (fun entry hentry => hused entry (List.mem_append_left _ hentry))
    fun first hfirst => hfits first (hfirst.trans (List.prefix_append ..))
  have hlast := hfits (front.map (fun entry => .add entry.1 entry.2) ++ [.add stub page])
    ((List.prefix_append_right_inj _).2 ⟨_, rfl⟩)
  rw [← List.append_assoc] at hlast
  refine henrolls.isName_of_ok hwritable hdistinct (hused (stub, page) ?_) hlast ?_ haccepted
  · exact List.mem_append_right _ (List.mem_cons_self ..)
  · rw [foldl_keep, h.standing_eq_none hnew, hnone]
    rfl

/-- If a rebuild reports success, every page that is first of its shasum and new to the catalog is
posted under all its attributes. -/
theorem posted_of_success (h : Carried used config formats m) (layout : Layout)
    (hwritable : config.readOnly = false) (hdistinct : Distinct used)
    (hwithin : Within used (m.rebuild layout).changes)
    (hsuccess : (m.next layout).report.isSuccess = true) {shasum : String} {page : Page}
    (hnew : m.catalog.stubs.contains shasum = false)
    (hfirst : firstOf (m.next layout).made shasum = some page) (p : String × Value) :
    HasPosted (m.rebuild layout).engine.store p shasum ↔ p ∈ pairsOf page := by
  have hnames := h.isName_of_success layout hwritable hdistinct hwithin hsuccess hnew hfirst
  have hstanding : standing (m.rebuild layout).past shasum = some page := by
    rw [Moment.rebuild, standing_concat, hfirst, h.standing_eq_none hnew]
    rfl
  rw [((h.rebuild layout hwritable hdistinct hwithin).enrolled hdistinct).posted_iff, hstanding]
  simp [Index.namedFront_eq_self hnames]

end Carried

/-- A page that the index of attributes rejects stays in it under the attributes before the first
that is no name, and is a success from then on. So whatever is written, removed and rebuilt, and
whatever fails, the index has the stubs of the catalog, each under this part of the page that stands
for it; and a rebuild that reports success has posted all attributes of the pages that were new to
it. -/
theorem rejected_stays (layout : Layout) (files : Nat → MemoryFiles) {engine : Engine}
    (hempty : engine.store.Holds ∅) (hwritable : engine.config.readOnly = false) :
    (∀ (ops : List Change) (stub : Stub) (page : Page),
      Distinct (Used (ops ++ [.add stub page])) →
      (∀ front, front <+: ops ++ [.add stub page] → (refer {} front).2.Fits) →
        Admits (Index.serve engine.store ops).2 stub page) ∧
      ∀ events : List Event,
        let m := (Moment.start files engine).run layout events
        let next := m.rebuild layout
        Distinct (Used next.changes) →
        (∀ front, front <+: next.changes → (refer {} front).2.Fits) →
          Enrolled next ∧
            ((m.next layout).report.isSuccess = true → ∀ shasum page,
              m.catalog.stubs.contains shasum = false →
              firstOf (m.next layout).made shasum = some page →
                ∀ p, HasPosted next.engine.store p shasum ↔ p ∈ pairsOf page) := by
  refine ⟨Index.admits_serve hempty, ?_⟩
  intro events m next hdistinct hfits
  have hwithin : Within (Used next.changes) next.changes := ⟨fun _ hv => hv, hfits⟩
  have hstart : Carried (Used next.changes) engine.config engine.formats
      (Moment.start files engine) := ⟨nofun, fun _ => ⟨nofun, nofun⟩, Enrolls.empty hempty⟩
  have hcarried : Carried (Used next.changes) engine.config engine.formats m :=
    hstart.run layout hwritable hdistinct events
      (hwithin.of_prefix (m.prefix_changes_rebuild layout))
  refine ⟨(hcarried.rebuild layout hwritable hdistinct hwithin).enrolled hdistinct, ?_⟩
  intro hsuccess shasum page hnew hfirst
  exact hcarried.posted_of_success layout hwritable hdistinct hwithin hsuccess hnew hfirst

/-! ## An attribute that is no name -/

/-- A file with the frontmatter `{"m\u0000": 1}`. -/
def misnamedFile : File :=
  ⟨[123, 34, 109, 92, 117, 48, 48, 48, 48, 34, 58, 32, 49, 125], .epoch, .epoch⟩

/-- The file has been written. -/
def misnamed : Moment := blank.step plainLayout (.write 0 "foo.txt" misnamedFile)

/-- The site has been rebuilt once. -/
def misnamedOnce : Moment := misnamed.rebuild plainLayout

/-- The shasum of the file. -/
def misnamedShasum : String := "41c18447d7c6f0c2c4f96c6bcb4c2dd9945bbb31fb00ee2eee0f8c6985d48cca"

/-- The attributes of its page before the one that is no name. -/
def misnamedFront : List (String × Value) :=
  [("created", .time .epoch), ("description", .text ""), ("format", .text "txt"),
    ("language", .text "en")]

/-- The attributes of its page. -/
def misnamedPairs : List (String × Value) :=
  misnamedFront ++ [("m\x00", .int 1), ("section", .text ""), ("shasum", .text misnamedShasum),
    ("title", .text "foo"), ("updated", .time .epoch), ("url", .text "/foo")]

/-- The values of these attributes. -/
def misnamedValues : List Value :=
  [.time .epoch, .text "", .text "txt", .text "en", .int 1, .text misnamedShasum, .text "foo",
    .text "/foo"]

/-- The values can be stored, and their hashes differ. -/
theorem distinct_misnamedValues : Distinct (· ∈ misnamedValues) := by
  have hday : Time.Instant.Exists .epoch := ⟨by decide, by decide⟩
  have hstored : ∀ v ∈ misnamedValues, v.Storable := by
    simp only [misnamedValues, List.forall_mem_cons, Value.Storable]
    exact ⟨hday, by decide, by decide, by decide, trivial, by decide, by decide, by decide,
      List.forall_mem_nil _⟩
  exact Index.distinct_of_nodup hstored (by decide +kernel)

/-- The next rebuild reads all files, and makes the page of the file and nothing else. -/
def Misnames (stub : Stub) (page : Page) (m : Moment) : Prop :=
  Makes misnamedShasum misnamedPairs stub page m

/-- A rebuild that finds the page in the index reports success. -/
theorem isSuccess_misnamed {stub : Stub} {page : Page} {m : Moment} (h : Misnames stub page m)
    {config : Config}
    (hcarried : Carried (· ∈ misnamedValues) config .standard m)
    (hwritable : config.readOnly = false)
    (hwithin : Within (· ∈ misnamedValues) (m.rebuild plainLayout).changes)
    (hknown : standing m.past misnamedShasum ≠ none) :
    (m.next plainLayout).report.isSuccess = true := by
  have hreports := reports_rebuild (plainLayout.site m.files) Engine.indexer m.catalog m.engine
  have hmade : (plainLayout.site m.files).made m.catalog.stubs = [(stub, page)] := h.made
  have hgone : Site.gone m.catalog.stubs (Catalog.ofPages [(stub, page)]).stubs = [] := by
    rw [← h.made]
    exact (m.gone_next plainLayout).symm.trans h.gone
  have hused := Upkept.used_of_made plainLayout hwithin
  rw [h.made, List.forall_mem_singleton] at hused
  have hfits := hwithin.fits _ (List.prefix_refl _)
  rw [Moment.changes_rebuild, h.changes] at hfits
  have hwords : ∀ word ∈ Engine.wordsOf .standard page, isName word = true := by
    rw [h.words]
    decide
  have haccepted := hcarried.enrolls.accepts_known hwritable distinct_misnamedValues hused hfits
    (h.shasum ▸ hknown) hwords
  refine List.isEmpty_iff.2 (hreports.faults_iff.2 ⟨h.read, Action.run_seq_ok_iff.2 ⟨?_, ?_⟩⟩)
  · rw [hmade, Action.run_forM_singleton]
    exact haccepted
  · rw [hmade, hgone]
    rfl

/-- The page of the file when it is seen first. -/
theorem misnames_misnamed : ∃ stub page, Misnames stub page misnamed :=
  Makes.exists_of_stubs (show misnamed.catalog.stubs = ∅ from rfl) (by decide +kernel)

/-- The page of the file when it is seen again. -/
theorem misnames_misnamedOnce : ∃ stub page, Misnames stub page misnamedOnce := by
  have hstubs : misnamedOnce.catalog.stubs
      = (Catalog.ofPages (misnamed.next plainLayout).made).stubs := by
    rw [misnamedOnce, Moment.catalog_rebuild]
  exact Makes.exists_of_stubs hstubs (by decide +kernel)

/-- After either rebuild the page stands that was made first. -/
theorem standing_misnamed {stub stub' : Stub} {page page' : Page}
    (hfirst : Misnames stub page misnamed) (hlast : Misnames stub' page' misnamedOnce) :
    standing misnamedOnce.past misnamedShasum = some page ∧
      standing (misnamedOnce.rebuild plainLayout).past misnamedShasum = some page := by
  have hstands : standing misnamedOnce.past misnamedShasum = some page := by
    rw [show misnamedOnce.past = [] ++ [misnamed.next plainLayout] from rfl, standing_concat,
      firstOf, hfirst.made]
    simp [hfirst.shasum, standing]
  refine ⟨hstands, ?_⟩
  rw [Moment.rebuild, standing_concat, firstOf, hlast.made, hstands]
  simp [hlast.shasum]

/-- What the two rebuilds ask is within the values of the attributes. -/
theorem within_misnamedValues {stub stub' : Stub} {page page' : Page}
    (hfirst : Misnames stub page misnamed) (hlast : Misnames stub' page' misnamedOnce) :
    Within (· ∈ misnamedValues) (misnamedOnce.rebuild plainLayout).changes := by
  have hchanges : (misnamedOnce.rebuild plainLayout).changes
      = [.add stub page, .add stub' page'] := by
    rw [Moment.changes_rebuild, hlast.changes, misnamedOnce, Moment.changes_rebuild, hfirst.changes]
    rfl
  rw [hchanges]
  exact within_of_two hfirst.pairs hlast.pairs (by decide) (by decide)

/-- The index rejects the page because of one attribute, and keeps it under those before this one.
The next rebuild reports success and has posted no more. A page of names is posted as a whole. -/
theorem rejected_stays_misnamed : ∃ stub page,
    ((Index.Attributes.add stub page).run blank.engine.store).1 = .error (.invalidName "m\x00") ∧
      pairsOf page = misnamedPairs ∧
      (misnamedOnce.next plainLayout).report.isSuccess = true ∧
      (∀ p, HasPosted (misnamedOnce.rebuild plainLayout).engine.store p misnamedShasum ↔
        p ∈ misnamedFront) ∧
      ∀ p, HasPosted (drafted.rebuild plainLayout).engine.store p draftShasum ↔
        p ∈ draftPairs 0 := by
  obtain ⟨stub, page, hfirst⟩ := misnames_misnamed
  obtain ⟨stub', page', hlast⟩ := misnames_misnamedOnce
  have hempty : blank.engine.store.Holds ∅ := Store.holds_plain .memory
  obtain ⟨hadmits, hposts⟩ := rejected_stays plainLayout blank.files hempty rfl
  have hwithin := within_misnamedValues hfirst hlast
  have hwithin' : Within (· ∈ misnamedValues) misnamedOnce.changes :=
    hwithin.of_prefix (Moment.prefix_changes_rebuild ..)
  obtain ⟨hstands, hstands'⟩ := standing_misnamed hfirst hlast
  refine ⟨stub, page, ?_, hfirst.pairs, ?_, fun p => ?_, fun p => ?_⟩
  · have hchanges : misnamedOnce.changes = [] ++ [.add stub page] :=
      (Moment.changes_rebuild plainLayout misnamed).trans (congrArg _ hfirst.changes)
    have hadmitted := hadmits [] stub page
      (hchanges ▸ hwithin'.distinct distinct_misnamedValues) (hchanges ▸ hwithin'.fits)
    have hnew : ¬ HasNumber blank.engine.store stub.shasum := by
      have hblank : Index.Stands (· ∈ misnamedValues) (fun _ _ => none) blank.engine.store {} :=
        Index.stands_empty hempty
      exact fun hnumber => nomatch (hblank.hasNumber_iff _).1 hnumber
    refine hadmitted.rejected hnew ("m\x00", .int 1) ?_
    rw [show Index.Attributes.postings page.context = misnamedPairs from hfirst.pairs]
    decide
  · have hstart : Carried (· ∈ misnamedValues) blank.engine.config .standard misnamed :=
      ⟨nofun, fun _ => ⟨nofun, nofun⟩, Enrolls.empty hempty⟩
    have hcarried := hstart.rebuild plainLayout rfl distinct_misnamedValues hwithin'
    exact isSuccess_misnamed hlast hcarried rfl hwithin (by rw [hstands]; nofun)
  · have henrolled : Enrolled (misnamedOnce.rebuild plainLayout) :=
      (hposts [.write 0 "foo.txt" misnamedFile, .rebuild]
        (hwithin.distinct distinct_misnamedValues) hwithin.fits).1
    have hfront : namedFront misnamedPairs = misnamedFront := by decide
    rw [henrolled.posted_iff, hstands']
    simp [hfirst.pairs, hfront]
  · obtain ⟨draft, draftPage, hdraft⟩ := drafts_drafted
    obtain ⟨_, _, hredraft⟩ := drafts_redrafted
    have hwithinDraft : Within (· ∈ draftValues) (drafted.rebuild plainLayout).changes :=
      Within.of_prefix (within_draftValues hdraft hredraft)
        (Moment.prefix_changes_rebuild plainLayout redrafted)
    have hupkept : Upkept (· ∈ draftValues) blank.engine.config .standard drafted :=
      ⟨nofun, fun _ => ⟨nofun, nofun⟩, Engine.Tracks.empty hempty⟩
    have hpage : firstOf (drafted.next plainLayout).made draftShasum = some draftPage := by
      rw [firstOf, hdraft.made]
      simp [hdraft.shasum]
    rw [← hdraft.pairs]
    exact (hposts [.write 0 "foo.txt" (emptyFile 0)]
      (hwithinDraft.distinct distinct_draftValues) hwithinDraft.fits).2
      (hdraft.rebuild hupkept rfl hwithinDraft).1 draftShasum draftPage rfl hpage p

end SiteIndex.Site
