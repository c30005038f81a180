import Mathlib.Data.List.Induction
import SiteIndex.Files.Memory
import SiteIndex.Proofs.Engine.Indexes
import SiteIndex.Proofs.NameMap
import SiteIndex.Proofs.Search.Ranking
import SiteIndex.Proofs.Site.Rebuild

/-!
# The index in step with the catalog

An engine that is the only indexer of a site over files in memory follows the catalog from rebuild
to rebuild. Which page an index holds for a shasum is told by the rebuilds alone: it is the first
that was made for it in the rebuild that saw it first, and it stays until a rebuild does not see the
shasum any more (`standing`). As long as every rebuild reports success, the stubs of the catalog and
those of both indexes are the same, and each is posted under what its standing page says and nothing
else (`inStep_run`).
-/

namespace SiteIndex.Site

open Engine (Named Tracks keep drop pairsOf wordsOf)
open Files (File MemoryFiles)
open Index (Change Distinct Used refer)
open Markup (Formats)
open Page (Stub)
open Posting
open Store (Namespace)
open Store.Key (isName)
open SiteIndex.Action (Takes)

/-! ## Histories -/

/-- What a site is made of: the points at which numbered file systems are mounted, the formats, and
the language of files that are in no directory of a language. -/
structure Layout where
  mounts : List (String × Nat)
  formats : Formats := .standard
  defaultLanguage : String

/-- The site over the files as they stand. -/
def Layout.site (layout : Layout) (files : Nat → MemoryFiles) : Site :=
  { Site.make (layout.mounts.map fun mount => .at mount.1 (files mount.2).view)
      layout.defaultLanguage with formats := layout.formats }

/-- A rebuild that is over. -/
structure Rebuild where
  /-- The pages that it made, in the order in which it took them up. -/
  made : List (Stub × Page)
  /-- The stubs that it did not find any more. -/
  gone : List Stub
  report : Report

/-- What a rebuild asks of the indexes. -/
def Rebuild.changes (r : Rebuild) : List Change :=
  (r.made.map fun entry => .add entry.1 entry.2) ++ r.gone.map .remove

/-- The files of a site, the engine that indexes it and its catalog at one moment, with all rebuilds
up to then. -/
structure Moment where
  files : Nat → MemoryFiles
  engine : Engine
  catalog : Catalog := {}
  past : List Rebuild := []

/-- What happens to a site. -/
inductive Event where
  | write (number : Nat) (path : String) (file : File)
  | remove (number : Nat) (path : String)
  | rebuild

namespace Moment

/-- What a rebuild does now, with the engine for the only indexer of the site. -/
def rebuilt (layout : Layout) (m : Moment) : (Report × Catalog) × Engine :=
  (((layout.site m.files).rebuild [Engine.indexer] m.catalog).run m.engine).run

/-- The rebuild that is made now. -/
def next (layout : Layout) (m : Moment) : Rebuild where
  made := (layout.site m.files).made m.catalog.stubs
  gone := gone m.catalog.stubs (m.rebuilt layout).1.2.stubs
  report := (m.rebuilt layout).1.1

/-- The moment after a rebuild. -/
def rebuild (layout : Layout) (m : Moment) : Moment :=
  { m with
    engine := (m.rebuilt layout).2
    catalog := (m.rebuilt layout).1.2
    past := m.past ++ [m.next layout] }

/-- The moment after an event. -/
def step (layout : Layout) (m : Moment) : Event → Moment
  | .write number path file =>
    { m with files := Function.update m.files number ((m.files number).write path file) }
  | .remove number path =>
    { m with files := Function.update m.files number ((m.files number).remove path).2 }
  | .rebuild => m.rebuild layout

/-- The moment after several events. -/
def run (layout : Layout) (m : Moment) (events : List Event) : Moment :=
  events.foldl (step layout) m

/-- What the rebuilds have asked of the indexes. -/
def changes (m : Moment) : List Change := m.past.flatMap Rebuild.changes

/-- The engine and the catalog of a site before its first rebuild. -/
def start (files : Nat → MemoryFiles) (engine : Engine) : Moment := { files, engine }

section Rebuilds

variable (layout : Layout) (m : Moment)

/-- The catalog after a rebuild is that of the pages that were made. -/
theorem catalog_rebuild : (m.rebuild layout).catalog = .ofPages (m.next layout).made :=
  Site.catalog_rebuild (layout.site m.files) [Engine.indexer] m.catalog m.engine

/-- The stubs that are gone are those of the catalog for which no page was made. -/
theorem gone_next : (m.next layout).gone
    = gone m.catalog.stubs (Catalog.ofPages (m.next layout).made).stubs := by
  rw [← catalog_rebuild]
  rfl

/-- A rebuild adds its changes to those before. -/
theorem changes_rebuild : (m.rebuild layout).changes = m.changes ++ (m.next layout).changes := by
  rw [changes, rebuild, List.flatMap_append, List.flatMap_singleton, changes]

/-- What was asked before a rebuild comes before what it asks. -/
theorem prefix_changes_rebuild : m.changes <+: (m.rebuild layout).changes := by
  rw [changes_rebuild]
  exact List.prefix_append ..

/-- The last of several events comes after the others. -/
theorem run_concat (front : List Event) (event : Event) :
    m.run layout (front ++ [event]) = (m.run layout front).step layout event :=
  List.foldl_append

section Write

variable (number : Nat) (path : String) (file : File)

/-- A file that is written is not in the catalog yet. -/
theorem catalog_write : (m.step layout (.write number path file)).catalog = m.catalog := rfl

/-- A file that is written asks nothing of the indexes. -/
theorem changes_write : (m.step layout (.write number path file)).changes = m.changes := rfl

end Write

end Rebuilds

end Moment

/-- The first page that was made for a shasum. -/
def firstOf (made : List (Stub × Page)) (shasum : String) : Option Page :=
  (made.find? fun entry => entry.1.shasum = shasum).map (·.2)

/-- The page that stands for each shasum after rebuilds: none if the last one did not see it, else
the page that stood for it before, or the first that the last rebuild made. -/
def standing (past : List Rebuild) : String → Option Page :=
  past.foldl (fun seen r shasum => (firstOf r.made shasum).map (seen shasum).getD) fun _ => none

/-- The stubs of the catalog are those of both indexes, and each is posted under what the page says
that stands for it, and nowhere else. -/
structure InStep (formats : Formats) (standing : String → Option Page) (c : Catalog) (s : Store) :
    Prop where
  stubs : ∀ shasum, c.stubs.contains shasum = true ↔ standing shasum ≠ none
  indexed : ∀ ns shasum, ∃ index, ((Tables.stubIndex? ns shasum).run s).1 = .ok index ∧
    (index ≠ none ↔ standing shasum ≠ none)
  /-- Every attribute and every word of a page is the name of a list. -/
  named : ∀ shasum page, standing shasum = some page → Named formats page
  values : ∀ name, isName name = true →
    ∃ listed, ((Index.Attributes.values name).run s).1 = .ok listed ∧
      ∀ value shasum, (∃ stubs, (value, stubs) ∈ listed ∧ shasum ∈ stubs) ↔
        ∃ page, standing shasum = some page ∧ (name, value) ∈ pairsOf page
  words : ∀ word, isName word = true →
    ∃ shasums, ((Index.Keywords.shasumsUnder word).run s).1 = .ok shasums ∧
      ∀ shasum, shasum ∈ shasums ↔
        ∃ page, standing shasum = some page ∧ word ∈ wordsOf formats page
  summaries : ∀ shasum, ((Index.Keywords.summary? shasum).run s).1
    = .ok ((standing shasum).map Index.Keywords.summaryOf)

/-! ## The stubs of a catalog -/

section Stubs

variable {pages : List (Stub × Page)} {shasum : String}

/-- A shasum has a first page if some page was made for it. -/
theorem firstOf_ne_none :
    firstOf pages shasum ≠ none ↔ ∃ entry ∈ pages, entry.1.shasum = shasum := by
  rw [firstOf, ne_eq, Option.map_eq_none_iff, List.find?_eq_none]
  simp

/-- The catalog of several pages is that of all but the last, with the last registered. -/
theorem Catalog.ofPages_concat (front : List (Stub × Page)) (entry : Stub × Page) :
    ofPages (front ++ [entry]) = (ofPages front).register entry.1 entry.2 := List.foldl_append

/-- The stubs of a catalog stand under their shasums. -/
theorem Catalog.shasum_ofPages {stub : Stub}
    (h : (ofPages pages).stubs.get? shasum = some stub) : stub.shasum = shasum := by
  induction pages using List.reverseRecOn with
  | nil => cases h
  | append_singleton front entry ih =>
      rw [ofPages_concat] at h
      rw [show ((ofPages front).register entry.1 entry.2).stubs
        = (ofPages front).stubs.insert entry.1.shasum entry.1 from rfl, NameMap.get?_insert] at h
      split at h
      case isTrue heq => rw [← Option.some.inj h, heq]
      case isFalse => exact ih h

/-- The catalog has the stubs for which pages were made. -/
theorem Catalog.contains_ofPages :
    (ofPages pages).stubs.contains shasum = true ↔ firstOf pages shasum ≠ none := by
  rw [firstOf_ne_none]
  induction pages using List.reverseRecOn with
  | nil => exact ⟨nofun, nofun⟩
  | append_singleton front entry ih =>
      rw [ofPages_concat]
      refine NameMap.contains_insert.trans ?_
      rw [ih]
      simp [eq_comm, or_comm]

end Stubs

/-! ## The pages that stand -/

section Standing

variable {seen : String → Option Page} {shasum : String}

/-- After one more rebuild. -/
theorem standing_concat (past : List Rebuild) (r : Rebuild) (shasum : String) :
    standing (past ++ [r]) shasum
      = (firstOf r.made shasum).map (standing past shasum).getD := by
  rw [standing, List.foldl_append]
  rfl

/-- Of pages that are kept one after the other, the first of a shasum stays. -/
theorem foldl_keep (pages : List (Stub × Page)) (seen : String → Option Page) (shasum : String) :
    pages.foldl (fun seen entry => keep seen entry.1.shasum entry.2) seen shasum
      = (seen shasum).or (firstOf pages shasum) := by
  induction pages generalizing seen with
  | nil => exact Option.or_none.symm
  | cons entry rest ih =>
      rw [List.foldl_cons, ih, firstOf, firstOf, List.find?_cons, keep, Function.update_apply]
      by_cases h : shasum = entry.1.shasum
      · rw [if_pos h, ← h]
        cases seen shasum <;> simp
      · rw [if_neg h, decide_eq_false (Ne.symm h)]

/-- Pages that are taken out one after the other are not kept. -/
theorem foldl_drop (stubs : List Stub) (seen : String → Option Page) (shasum : String) :
    stubs.foldl (fun seen stub => drop seen stub.shasum) seen shasum
      = if ∃ stub ∈ stubs, stub.shasum = shasum then none else seen shasum := by
  induction stubs generalizing seen with
  | nil => simp
  | cons stub rest ih =>
      rw [List.foldl_cons, ih, Engine.drop_apply]
      by_cases h : shasum = stub.shasum
      · simp [h]
      · simp [h, Ne.symm h]

/-- What is gone are the stubs that were known and for which no page was made. -/
theorem exists_gone_iff {previous : NameMap Stub} {pages : List (Stub × Page)}
    (hkeyed : ∀ shasum stub, previous.get? shasum = some stub → stub.shasum = shasum) :
    (∃ stub ∈ gone previous (Catalog.ofPages pages).stubs, stub.shasum = shasum) ↔
      previous.contains shasum = true ∧ firstOf pages shasum = none := by
  have hmissing : ∀ other, (!(Catalog.ofPages pages).stubs.contains other) = true ↔
      firstOf pages other = none := by
    intro other
    rw [Bool.not_eq_true', ← Bool.not_eq_true, Catalog.contains_ofPages, not_not]
  rw [NameMap.contains, Option.isSome_iff_exists]
  constructor
  · rintro ⟨stub, hstub, rfl⟩
    obtain ⟨hvalue, hnot⟩ := List.mem_filter.1 hstub
    obtain ⟨name, hname⟩ := NameMap.mem_values_iff.1 hvalue
    obtain rfl := hkeyed name stub hname
    exact ⟨⟨stub, hname⟩, (hmissing _).1 hnot⟩
  · rintro ⟨⟨stub, hstub⟩, hnone⟩
    obtain rfl := hkeyed shasum stub hstub
    exact ⟨stub, List.mem_filter.2 ⟨NameMap.mem_values_iff.2 ⟨_, hstub⟩, (hmissing _).2 hnone⟩, rfl⟩

/-- What the requests of a rebuild leave is what stands after it. -/
theorem foldl_rebuild {previous : NameMap Stub} {past : List Rebuild} {r : Rebuild}
    (hkeyed : ∀ shasum stub, previous.get? shasum = some stub → stub.shasum = shasum)
    (hstubs : ∀ shasum, previous.contains shasum = true ↔ standing past shasum ≠ none)
    (hgone : r.gone = gone previous (Catalog.ofPages r.made).stubs) :
    r.gone.foldl (fun seen stub => drop seen stub.shasum)
      (r.made.foldl (fun seen entry => keep seen entry.1.shasum entry.2) (standing past))
      = standing (past ++ [r]) := by
  funext shasum
  have hmem : (∃ stub ∈ r.gone, stub.shasum = shasum) ↔
      standing past shasum ≠ none ∧ firstOf r.made shasum = none := by
    rw [hgone, exists_gone_iff hkeyed, hstubs]
  rw [foldl_drop, foldl_keep, standing_concat]
  simp only [hmem]
  cases firstOf r.made shasum with
  | none => cases standing past shasum <;> simp
  | some page => cases standing past shasum <;> simp

end Standing

/-- After a rebuild the stubs of the catalog stand under their shasums. -/
theorem Moment.keyed_rebuild {layout : Layout} {m : Moment} {shasum : String} {stub : Stub}
    (h : (m.rebuild layout).catalog.stubs.get? shasum = some stub) : stub.shasum = shasum := by
  rw [Moment.catalog_rebuild] at h
  exact Catalog.shasum_ofPages h

/-- After a rebuild the stubs of the catalog are those that pages stand for, whatever came of it. -/
theorem Moment.contains_rebuild (layout : Layout) (m : Moment) (shasum : String) :
    (m.rebuild layout).catalog.stubs.contains shasum = true ↔
      standing (m.rebuild layout).past shasum ≠ none := by
  rw [Moment.catalog_rebuild, Catalog.contains_ofPages, Moment.rebuild, standing_concat]
  simp

/-! ## From rebuild to rebuild -/

/-- The changes use nothing but the values, and do not make the counters run over. -/
structure Within (used : Value → Prop) (changes : List Change) : Prop where
  used : ∀ v, Used changes v → used v
  fits : ∀ front, front <+: changes → (refer {} front).2.Fits

/-- The first changes are within what all are. -/
theorem Within.of_prefix {used : Value → Prop} {front changes : List Change}
    (h : Within used changes) (hfront : front <+: changes) : Within used front where
  used := fun v ⟨op, hop, hv⟩ => h.used v ⟨op, hfront.subset hop, hv⟩
  fits := fun _ hfirst => h.fits _ (hfirst.trans hfront)

/-- Values that changes use are told apart if all of those that they are within are. -/
theorem Within.distinct {used : Value → Prop} {changes : List Change} (h : Within used changes)
    (hdistinct : Distinct used) : Distinct (Used changes) := hdistinct.mono h.used

/-- A few changes are within a list that has their values. -/
theorem within_of_few {values : List Value} {changes : List Change}
    (hvalues : ∀ p ∈ changes.flatMap Change.pairs, p.2 ∈ values)
    (hchanges : changes.length < UInt32.size)
    (hpairs : (changes.flatMap Change.pairs).length < UInt32.size) :
    Within (· ∈ values) changes where
  used := fun _ ⟨op, hop, p, hp, hv⟩ => hv ▸ hvalues p (List.mem_flatMap.2 ⟨op, hop, hp⟩)
  fits := Index.fits_of_few changes hchanges hpairs

/-- Two pages that are added are within a list that has their values. -/
theorem within_of_two {values : List Value} {stub stub' : Stub} {page page' : Page}
    {pairs pairs' : List (String × Value)} (hpage : pairsOf page = pairs)
    (hpage' : pairsOf page' = pairs') (hvalues : ∀ p ∈ pairs ++ pairs', p.2 ∈ values)
    (hfew : (pairs ++ pairs').length < UInt32.size) :
    Within (· ∈ values) [.add stub page, .add stub' page'] := by
  have hpairs : [Change.add stub page, .add stub' page'].flatMap Change.pairs
      = pairs ++ pairs' := by
    rw [← hpage, ← hpage', List.flatMap_cons, List.flatMap_singleton]
    rfl
  exact within_of_few (hpairs ▸ hvalues) (show 2 < UInt32.size by decide) (hpairs ▸ hfew)

/-- The engine and the catalog have followed the rebuilds. -/
structure Upkept (used : Value → Prop) (config : Config) (formats : Formats) (m : Moment) :
    Prop where
  keyed : ∀ shasum stub, m.catalog.stubs.get? shasum = some stub → stub.shasum = shasum
  stubs : ∀ shasum, m.catalog.stubs.contains shasum = true ↔ standing m.past shasum ≠ none
  tracks : Tracks used config formats m.changes (standing m.past) m.engine

namespace Upkept

variable {used : Value → Prop} {config : Config} {formats : Formats} {m : Moment}

/-- Files that change leave the engine and the catalog as they are. -/
theorem withFiles (h : Upkept used config formats m) (files : Nat → MemoryFiles) :
    Upkept used config formats { m with files } := ⟨h.keyed, h.stubs, h.tracks⟩

/-- The values of the pages that a rebuild makes are among those of its changes. -/
theorem used_of_made (layout : Layout) (hwithin : Within used (m.rebuild layout).changes) :
    ∀ entry ∈ (m.next layout).made, ∀ p ∈ pairsOf entry.2, used p.2 := by
  intro entry hentry p hp
  rw [Moment.changes_rebuild] at hwithin
  refine hwithin.used p.2 ⟨.add entry.1 entry.2, List.mem_append_right _ ?_, p, hp, rfl⟩
  exact List.mem_append_left _ (List.mem_map.2 ⟨entry, hentry, rfl⟩)

/-- The pages that a rebuild makes come first among its changes. -/
theorem fits_of_made (layout : Layout) (hwithin : Within used (m.rebuild layout).changes) :
    ∀ front, front <+: (m.next layout).made.map (fun entry => Change.add entry.1 entry.2) →
      (refer {} (m.changes ++ front)).2.Fits := by
  intro front hfront
  rw [Moment.changes_rebuild] at hwithin
  refine hwithin.fits _ ((List.prefix_append_right_inj _).2 ?_)
  exact hfront.trans (List.prefix_append ..)

/-- A rebuild that reports success leaves an engine and a catalog that have followed it. -/
theorem rebuild (h : Upkept used config formats m) (layout : Layout)
    (hwritable : config.readOnly = false) (hdistinct : Distinct used)
    (hwithin : Within used (m.rebuild layout).changes)
    (hsuccess : (m.next layout).report.isSuccess = true) :
    Upkept used config formats (m.rebuild layout) := by
  have hgone := m.gone_next layout
  have hreports := reports_rebuild (layout.site m.files) Engine.indexer m.catalog m.engine
  have hfaults := List.isEmpty_iff.1 hsuccess
  obtain ⟨hadd, hremove⟩ := Action.run_seq_ok_iff.1 (hreports.faults_iff.1 hfaults).2
  refine ⟨fun _ _ => Moment.keyed_rebuild, m.contains_rebuild layout, ?_⟩
  have hadded := h.tracks.addAll hwritable hdistinct (used_of_made layout hwithin)
    (fits_of_made layout hwithin) hadd
  have hremoved := hadded.removeAll hwritable hdistinct (m.next layout).gone
    (by rw [hgone]; exact hremove)
  have hengine : (m.rebuilt layout).2 = _ :=
    (hreports.state_eq hfaults).trans (congrArg Prod.snd (Action.run_bind_of_ok hadd))
  rw [foldl_rebuild h.keyed h.stubs hgone, List.append_assoc, hgone] at hremoved
  rw [Moment.changes_rebuild, Moment.rebuild, hengine, Rebuild.changes, hgone]
  exact hremoved

/-- A rebuild reports success if all files can be read and the attributes and the words of their
pages are names. -/
theorem isSuccess_of_named (h : Upkept used config formats m) (layout : Layout)
    (hwritable : config.readOnly = false) (hdistinct : Distinct used)
    (hwithin : Within used (m.rebuild layout).changes)
    (hread : ∀ visit ∈ (layout.site m.files).visits m.catalog.stubs, visit.isRead = true)
    (hnamed : ∀ entry ∈ (m.next layout).made, Named formats entry.2) :
    (m.next layout).report.isSuccess = true := by
  have hreports := reports_rebuild (layout.site m.files) Engine.indexer m.catalog m.engine
  have haccepted := h.tracks.acceptsAll hwritable hdistinct (used_of_made layout hwithin)
    (fits_of_made layout hwithin) hnamed
  have hadded := h.tracks.addAll hwritable hdistinct (used_of_made layout hwithin)
    (fits_of_made layout hwithin) haccepted
  refine List.isEmpty_iff.2 (hreports.faults_iff.2 ⟨hread, Action.run_seq_ok_iff.2 ⟨haccepted, ?_⟩⟩)
  exact hadded.removesAll hwritable hdistinct _

/-- Events leave an engine and a catalog that have followed all rebuilds, if these report
success. -/
theorem run (h : Upkept used config formats m) (layout : Layout)
    (hwritable : config.readOnly = false) (hdistinct : Distinct used) (events : List Event)
    (hwithin : Within used (m.run layout events).changes)
    (hsuccess : ∀ r ∈ (m.run layout events).past, r.report.isSuccess = true) :
    Upkept used config formats (m.run layout events) := by
  induction events using List.reverseRecOn with
  | nil => exact h
  | append_singleton front event ih =>
      rw [Moment.run_concat] at hwithin hsuccess ⊢
      cases event with
      | write number path file => exact (ih hwithin hsuccess).withFiles _
      | remove number path => exact (ih hwithin hsuccess).withFiles _
      | rebuild =>
          have hfront := ih (hwithin.of_prefix (Moment.prefix_changes_rebuild ..))
            fun r hr => hsuccess r (List.mem_append_left _ hr)
          have hlast := hsuccess ((m.run layout front).next layout)
            (List.mem_append_right _ (List.mem_singleton_self _))
          exact hfront.rebuild layout hwritable hdistinct hwithin hlast

/-- What an engine that has followed the rebuilds shows of its indexes. -/
theorem inStep (h : Upkept used config formats m) (hdistinct : Distinct used) :
    InStep formats (standing m.past) m.catalog m.engine.store := by
  obtain ⟨l, ⟨_, _, hkeeps⟩, hmirrors⟩ := h.tracks
  set r := (refer {} m.changes).2
  obtain ⟨entries, t, hs, hstored, hfollows, hrecords⟩ := id hkeeps
  have hshows : ∀ ns, Shows t ns m.engine.store (t ns) := fun ns =>
    ⟨entries, hs, by rwa [Function.update_eq_self]⟩
  constructor
  case stubs => exact h.stubs
  case indexed =>
    intro ns shasum
    refine ⟨t ns (.stubIndex shasum), (takes_stubIndex? shasum _ (hshows ns)).1, ?_⟩
    cases ns with
    | context => rw [← hmirrors.live, hfollows.live]
    | keyword => rw [← hmirrors.shasums, hrecords.numbers.live]
  case named =>
    intro shasum page hpage
    constructor
    · intro p hp
      obtain ⟨row, hrow, rfl, _⟩ := (hmirrors.posted p shasum).2 ⟨page, hpage, hp⟩
      exact (hfollows.pairs _ (List.mem_map_of_mem hrow)).1
    · intro word hword
      obtain ⟨d, hd, _, hwords⟩ := hmirrors.exists_document hpage
      exact (hrecords.kept d hd).names word (hwords ▸ hword)
  case values =>
    intro name hname
    have hread : Takes (Engine.Keeps used) (Index.Attributes.values name) (r, l) _ _ :=
      Engine.takes_context fun _ => Index.takes_values hdistinct ⟨name, hname⟩
    exact ⟨_, (hread _ hkeeps).1, hmirrors.listed_iff name⟩
  case words =>
    intro word hword
    have hread : Takes (Engine.Keeps used) (Index.Keywords.shasumsUnder word) (r, l) _ _ :=
      Engine.takes_keyword fun _ => Index.takes_shasumsUnder ⟨word, hword⟩
    exact ⟨_, (hread _ hkeeps).1, hmirrors.mem_holding_iff word⟩
  case summaries =>
    intro shasum
    have hread : Takes (Engine.Keeps used) (Index.Keywords.summary? shasum) (r, l) _ _ :=
      Engine.takes_keyword fun _ => Index.takes_summaryOf? shasum
    rw [(hread _ hkeeps).1, hmirrors.summaryOf?_eq]

end Upkept

/-! ## A file that is written twice -/

/-- A site of plain text. -/
def plainLayout : Layout := { mounts := [("/", 0)], defaultLanguage := "en" }

/-- The first moment of a day. -/
def midnight (day : Int) : Time.Instant := { Time.Instant.epoch with day }

/-- An empty file that was written on a day. -/
def emptyFile (day : Int) : File := ⟨[], midnight day, midnight day⟩

/-- A site without files. -/
def blank : Moment :=
  .start (fun _ => { name := "site" }) (.ofStore {} (.plain (.ofBackend .memory false)))

/-- A file has been written. -/
def drafted : Moment := blank.step plainLayout (.write 0 "foo.txt" (emptyFile 0))

/-- After a rebuild it has been written again. -/
def redrafted : Moment :=
  (drafted.rebuild plainLayout).step plainLayout (.write 0 "foo.txt" (emptyFile 1))

/-- The shasum of the file. -/
def draftShasum : String := "10d1444a1031786c4a620b773b0579dbcd5e3819d3388fab84405df0c194eb3b"

/-- The attributes of the page that is made of the file of a day. -/
def draftPairs (day : Int) : List (String × Value) :=
  [("created", .time (midnight day)), ("description", .text ""), ("format", .text "txt"),
    ("language", .text "en"), ("section", .text ""), ("shasum", .text draftShasum),
    ("title", .text "foo"), ("updated", .time (midnight day)), ("url", .text "/foo")]

/-- The values of these attributes. -/
def draftValues : List Value :=
  [.time (midnight 0), .time (midnight 1), .text "", .text "txt", .text "en", .text draftShasum,
    .text "foo", .text "/foo"]

/-- The values can be stored, and their hashes differ. -/
theorem distinct_draftValues : Distinct (· ∈ draftValues) := by
  have hday : ∀ day ∈ [0, 1], (midnight day).Exists := fun day hday =>
    ⟨by revert day; decide, nofun⟩
  have hstored : ∀ v ∈ draftValues, v.Storable := by
    simp only [draftValues, List.forall_mem_cons, Value.Storable]
    exact ⟨hday 0 (by decide), hday 1 (by decide), by decide, by decide, by decide, by decide,
      by decide, by decide, List.forall_mem_nil _⟩
  exact Index.distinct_of_nodup hstored (by decide +kernel)

/-- What is indexed of a page, with its shasum. -/
def indexedOf (entry : Stub × Page) : String × List (String × Value) × String :=
  (entry.1.shasum, pairsOf entry.2, Index.Keywords.visibleText .standard entry.2)

/-- The next rebuild reads all files, and makes one page and nothing else. -/
structure Makes (shasum : String) (pairs : List (String × Value)) (stub : Stub) (page : Page)
    (m : Moment) : Prop where
  read : ∀ visit ∈ (plainLayout.site m.files).visits m.catalog.stubs, visit.isRead = true
  made : (m.next plainLayout).made = [(stub, page)]
  gone : (m.next plainLayout).gone = []
  shasum : stub.shasum = shasum
  pairs : pairsOf page = pairs
  words : wordsOf .standard page = ["foo"]

namespace Makes

variable {shasum : String} {pairs : List (String × Value)} {stub : Stub} {page : Page} {m : Moment}

/-- The title is the only word of the page. -/
theorem exists_of_stubs {known : NameMap Stub} (hknown : m.catalog.stubs = known)
    (h : ((plainLayout.site m.files).visits known).all Visit.isRead = true ∧
      ((plainLayout.site m.files).made known).map indexedOf = [(shasum, pairs, "foo\n\n")] ∧
      Site.gone known (Catalog.ofPages ((plainLayout.site m.files).made known)).stubs = []) :
    ∃ stub page, Makes shasum pairs stub page m := by
  subst hknown
  obtain ⟨hread, hindexed, hgone⟩ := h
  obtain ⟨⟨stub, page⟩, hmade, hentry⟩ := List.map_eq_singleton_iff.1 hindexed
  obtain ⟨hshasum, hrest⟩ := Prod.mk.inj hentry
  obtain ⟨hpairs, htext⟩ := Prod.mk.inj hrest
  refine ⟨stub, page, List.all_eq_true.1 hread, hmade, ?_, hshasum, hpairs, ?_⟩
  · rw [Moment.gone_next]
    exact hgone
  · rw [wordsOf, htext]
    exact Search.terms_fixed.1

/-- The rebuild asks for nothing but the page. -/
theorem changes (h : Makes shasum pairs stub page m) :
    (m.next plainLayout).changes = [.add stub page] := by
  rw [Rebuild.changes, h.made, h.gone]
  rfl

end Makes

/-- The next rebuild reads all files, and makes the page of the file of a day and nothing else. -/
structure Drafts (day : Int) (stub : Stub) (page : Page) (m : Moment) : Prop where
  read : ∀ visit ∈ (plainLayout.site m.files).visits m.catalog.stubs, visit.isRead = true
  made : (m.next plainLayout).made = [(stub, page)]
  gone : (m.next plainLayout).gone = []
  shasum : stub.shasum = draftShasum
  pairs : pairsOf page = draftPairs day
  words : wordsOf .standard page = ["foo"]

namespace Drafts

variable {day : Int} {stub : Stub} {page : Page} {m : Moment} {config : Config}

/-- The title is the only word of the page. -/
theorem exists_of_stubs {known : NameMap Stub} (hknown : m.catalog.stubs = known)
    (h : ((plainLayout.site m.files).visits known).all Visit.isRead = true ∧
      ((plainLayout.site m.files).made known).map indexedOf
        = [(draftShasum, draftPairs day, "foo\n\n")] ∧
      Site.gone known (Catalog.ofPages ((plainLayout.site m.files).made known)).stubs = []) :
    ∃ stub page, Drafts day stub page m := by
  obtain ⟨stub, page, hmakes⟩ := Makes.exists_of_stubs hknown h
  exact ⟨stub, page, hmakes.read, hmakes.made, hmakes.gone, hmakes.shasum, hmakes.pairs,
    hmakes.words⟩

/-- The rebuild makes the page of that day. -/
theorem makes (h : Drafts day stub page m) :
    Makes draftShasum (draftPairs day) stub page m :=
  ⟨h.read, h.made, h.gone, h.shasum, h.pairs, h.words⟩

/-- The attributes of the page and its word are names. -/
theorem named (h : Drafts day stub page m) :
    ∀ entry ∈ (m.next plainLayout).made, Named .standard entry.2 := by
  rw [h.made, List.forall_mem_singleton]
  constructor
  case attributes =>
    intro p hp
    rw [h.pairs] at hp
    have hnames : ∀ name ∈ (draftPairs 0).map (·.1), isName name = true := by decide
    exact hnames p.1 (List.mem_map_of_mem (f := (·.1)) hp)
  case words =>
    rw [h.words]
    decide

/-- The rebuild reports success, and the engine and the catalog follow it. -/
theorem rebuild (h : Drafts day stub page m)
    (hupkept : Upkept (· ∈ draftValues) config .standard m) (hwritable : config.readOnly = false)
    (hwithin : Within (· ∈ draftValues) (m.rebuild plainLayout).changes) :
    (m.next plainLayout).report.isSuccess = true ∧
      Upkept (· ∈ draftValues) config .standard (m.rebuild plainLayout) := by
  have hsuccess := hupkept.isSuccess_of_named plainLayout hwritable distinct_draftValues hwithin
    h.read h.named
  exact ⟨hsuccess, hupkept.rebuild plainLayout hwritable distinct_draftValues hwithin hsuccess⟩

end Drafts

/-- The page of the file as it was written first. -/
theorem drafts_drafted : ∃ stub page, Drafts 0 stub page drafted :=
  Drafts.exists_of_stubs (show drafted.catalog.stubs = ∅ from rfl) (by decide +kernel)

/-- The page of the file as it was written again. -/
theorem drafts_redrafted : ∃ stub page, Drafts 1 stub page redrafted := by
  have hstubs : redrafted.catalog.stubs
      = (Catalog.ofPages (drafted.next plainLayout).made).stubs := by
    rw [redrafted, Moment.catalog_write, Moment.catalog_rebuild]
  exact Drafts.exists_of_stubs hstubs (by decide +kernel)

/-- What the two rebuilds ask is within the values of the attributes. -/
theorem within_draftValues {stub stub' : Stub} {page page' : Page}
    (hfirst : Drafts 0 stub page drafted) (hlast : Drafts 1 stub' page' redrafted) :
    Within (· ∈ draftValues) (redrafted.rebuild plainLayout).changes := by
  have hchanges : (redrafted.rebuild plainLayout).changes
      = [.add stub page, .add stub' page'] := by
    rw [Moment.changes_rebuild, hlast.makes.changes, redrafted, Moment.changes_write,
      Moment.changes_rebuild, hfirst.makes.changes]
    rfl
  rw [hchanges]
  exact within_of_two hfirst.pairs hlast.pairs (by decide) (by decide)

/-! ## The index follows the site -/

/-- Whatever is written, removed and rebuilt, the stubs of the catalog are those of both indexes,
and each is posted under what the first page says that was made for it when it was first seen, if
all rebuilds report success. -/
theorem inStep_run (layout : Layout) (files : Nat → MemoryFiles) {engine : Engine}
    (hempty : engine.store.Holds ∅) (hwritable : engine.config.readOnly = false)
    (events : List Event) :
    let m := (Moment.start files engine).run layout events
    (∀ r ∈ m.past, r.report.isSuccess = true) → Distinct (Used m.changes) →
      (∀ front, front <+: m.changes → (refer {} front).2.Fits) →
        InStep engine.formats (standing m.past) m.catalog m.engine.store := by
  intro m hsuccess hdistinct hfits
  have hstart : Upkept (Used m.changes) engine.config engine.formats
      (Moment.start files engine) := ⟨nofun, fun _ => ⟨nofun, nofun⟩, Tracks.empty hempty⟩
  have hwithin : Within (Used m.changes) m.changes := ⟨fun _ hv => hv, hfits⟩
  exact (hstart.run layout hwritable hdistinct events hwithin hsuccess).inStep hdistinct

/-- The page of a file stays as it was made when the file is written again. -/
theorem inStep_run_redrafted :
    let m := blank.run plainLayout [.write 0 "foo.txt" (emptyFile 0), .rebuild,
      .write 0 "foo.txt" (emptyFile 1), .rebuild]
    (standing m.past draftShasum).map pairsOf = some (draftPairs 0) ∧
      InStep .standard (standing m.past) m.catalog m.engine.store := by
  intro m
  obtain ⟨stub, page, hfirst⟩ := drafts_drafted
  obtain ⟨stub', page', hlast⟩ := drafts_redrafted
  have hm : m = redrafted.rebuild plainLayout := rfl
  have hpast : m.past = [drafted.next plainLayout] ++ [redrafted.next plainLayout] := rfl
  have hwithin : Within (· ∈ draftValues) m.changes := within_draftValues hfirst hlast
  have hwithin' : Within (· ∈ draftValues) (drafted.rebuild plainLayout).changes := by
    rw [hm] at hwithin
    exact hwithin.of_prefix (Moment.prefix_changes_rebuild plainLayout redrafted)
  have hblank : blank.engine.store.Holds ∅ := Store.holds_plain .memory
  have hstart : Upkept (· ∈ draftValues) blank.engine.config .standard blank :=
    ⟨nofun, fun _ => ⟨nofun, nofun⟩, Tracks.empty hblank⟩
  obtain ⟨hsuccess, hupkept⟩ := hfirst.rebuild (hstart.withFiles _) rfl hwithin'
  obtain ⟨hsuccess', _⟩ := hlast.rebuild (hupkept.withFiles _) rfl hwithin
  have hreports : ∀ r ∈ m.past, r.report.isSuccess = true := by
    rw [hpast, List.forall_mem_append, List.forall_mem_singleton, List.forall_mem_singleton]
    exact ⟨hsuccess, hsuccess'⟩
  refine ⟨?_, inStep_run plainLayout _ hblank rfl _ hreports
    (hwithin.distinct distinct_draftValues) hwithin.fits⟩
  rw [hpast, standing_concat, ← List.nil_append [_], standing_concat, firstOf, firstOf,
    hfirst.made, hlast.made]
  simp [hfirst.shasum, hlast.shasum, hfirst.pairs, standing]

end SiteIndex.Site
