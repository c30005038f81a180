import SiteIndex.Proofs.Site.Prefixes

/-!
# What look-ups answer after a rebuild

A catalog is built up from nothing by every rebuild. So what it answers is told by the pages that
the last rebuild made, in the order in which it came upon them, and by nothing before: of the pages
that want one place the last has it, and the pages that translate another are all listed. Files that
change later do not show before the next rebuild (`lookups_run`).
-/

namespace SiteIndex

open Files (FileSystem cleanPath)

/-! ## Addresses in a frontmatter -/

namespace Page

/-- The texts that a frontmatter has for former addresses. -/
def redirectTexts (fields : Context) : List String :=
  (((fields.get? "redirect").map Value.fanOut).getD []).filterMap Value.asText?

/-- The frontmatter has the address for a former one, in any spelling. -/
def RedirectsFrom (page : Page) (url : String) : Prop :=
  ∃ text ∈ redirectTexts page.frontmatter, normalizeUrl text = normalizeUrl url

/-- The frontmatter has the address for the one of the page that this one translates, in any
spelling. -/
def Translates (page : Page) (url : String) : Prop :=
  ∃ text ∈ textField? page.frontmatter "translates", normalizeUrl text = normalizeUrl url

instance (page : Page) (url : String) : Decidable (page.RedirectsFrom url) :=
  inferInstanceAs (Decidable (∃ text ∈ redirectTexts _, _))

instance (page : Page) (url : String) : Decidable (page.Translates url) :=
  inferInstanceAs (Decidable (∃ text ∈ textField? _ _, _))

section Addressed

variable {page : Page} (h : page.Addressed) (url : String)
include h

/-- The former addresses of a page are those of its frontmatter. -/
theorem Addressed.mem_redirects_iff :
    normalizeUrl url ∈ page.redirects ↔ page.RedirectsFrom url := by
  have hredirects : page.redirects = (redirectTexts page.frontmatter).map normalizeUrl := by
    rw [h.redirects, redirectsOf, redirectTexts]
    cases page.frontmatter.get? "redirect" <;> rfl
  rw [hredirects, List.mem_map, RedirectsFrom]

/-- A page translates the one of which its frontmatter says so. -/
theorem Addressed.translates_iff :
    page.translates = some (normalizeUrl url) ↔ page.Translates url := by
  rw [h.translates, Option.map_eq_some_iff]
  rfl

end Addressed

end Page

namespace Site

open Page (Stub normalizeTag normalizeUrl)

variable {σ : Type}

/-! ## The course of a site -/

/-- What happens to a site. -/
inductive Turn where
  /-- The files of the mounts change in any way. -/
  | edit (files : Nat → FileSystem)
  | rebuild

/-- The site with other files in its mounts. -/
def withFiles (site : Site) (files : Nat → FileSystem) : Site :=
  { site with
    mounts := site.mounts.mapIdx fun number mount => { mount with files := files number } }

/-- A site with its catalog and with what its indexers keep. -/
structure Session (σ : Type) where
  site : Site
  state : σ
  catalog : Catalog := {}

namespace Session

variable (indexers : List (Indexer σ))

/-- What comes of a turn. -/
def step (m : Session σ) : Turn → Session σ
  | .edit files => { m with site := m.site.withFiles files }
  | .rebuild =>
    let ((_, catalog), state) := ((m.site.rebuild indexers m.catalog).run m.state).run
    { m with state, catalog }

/-- What comes of several turns. -/
def run (m : Session σ) (turns : List Turn) : Session σ := turns.foldl (step indexers) m

/-- Files that change leave the catalog as it is. -/
theorem catalog_run_edits (m : Session σ) (edits : List (Nat → FileSystem)) :
    (m.run indexers (edits.map .edit)).catalog = m.catalog := by
  induction edits generalizing m with
  | nil => rfl
  | cons files rest ih => exact ih (m.step indexers (.edit files))

/-- The catalog is that of the last rebuild. -/
theorem catalog_run (m : Session σ) (turns : List Turn) (edits : List (Nat → FileSystem)) :
    (m.run indexers (turns ++ .rebuild :: edits.map .edit)).catalog
      = .ofPages ((m.run indexers turns).site.made (m.run indexers turns).catalog.stubs) := by
  rw [run, List.foldl_append, List.foldl_cons]
  exact (catalog_run_edits indexers _ edits).trans (catalog_rebuild ..)

end Session

/-! ## Look-ups -/

namespace Catalog

/-- What a look-up finds in a mount and a language: the last page with the address, be it the first
or the second one of the page, and else the last page at the path. -/
def foundIn (pages : List (Stub × Page)) (point language url : String) : Option Stub :=
  (lastOf pages fun entry => entry.1.mount = point ∧ entry.1.language = language ∧
    (entry.2.url = normalizeUrl url ∨ entry.2.permalink = some (normalizeUrl url))).or
  (lastOf pages fun entry => entry.1.mount = point ∧ entry.1.language = language ∧
    entry.1.source = cleanPath url)

/-- Some look-up returns the stub. -/
inductive Returns (c : Catalog) (points : List String) (fallback : String) (stub : Stub) :
    Prop where
  | lookup {language url} : c.lookup points fallback language url = some stub →
      Returns c points fallback stub
  | lookupPrefix {language url} : stub ∈ c.lookupPrefix points language url →
      Returns c points fallback stub
  | lookupRedirect {url} : c.lookupRedirect url = some stub → Returns c points fallback stub
  | lookupTranslating {url} : stub ∈ c.lookupTranslating url → Returns c points fallback stub

section Pages

variable (pages : List (Stub × Page))

/-- A look-up in one language goes through the mounts. -/
theorem lookupIn_ofPages (points : List String) (language url : String) :
    (ofPages pages).lookupIn points language url
      = points.findSome? fun point => foundIn pages point language url := by
  rw [lookupIn_eq]
  congr 1
  funext point
  rw [at?_ofPages, at?_ofPages, foundIn]
  congr 1 <;> refine lastOf_congr fun entry _ => ?_ <;> simp only [Fills, and_assoc, eq_comm]

/-- A look-up goes through the language that is asked for and the fallback. -/
theorem lookup_ofPages (points : List String) (fallback language url : String) :
    (ofPages pages).lookup points fallback language url
      = [normalizeTag language, fallback].findSome? fun tag =>
          points.findSome? fun point => foundIn pages point tag url := by
  rw [lookup, lookupIn_ofPages, lookupIn_ofPages, List.findSome?_cons, List.findSome?_singleton]
  cases points.findSome? _ <;> rfl

/-- What a look-up in one language finds is the stub of a page. -/
theorem exists_page_of_lookupIn {points : List String} {language url : String} {stub : Stub}
    (h : (ofPages pages).lookupIn points language url = some stub) :
    ∃ page, (stub, page) ∈ pages := by
  rw [lookupIn_eq] at h
  obtain ⟨point, -, h⟩ := List.exists_of_findSome?_eq_some h
  rcases Option.or_eq_some_iff.1 h with h | ⟨-, h⟩
  · obtain ⟨page, hpage, -⟩ := exists_page_of_at? h
    exact ⟨page, hpage⟩
  · obtain ⟨page, hpage, -⟩ := exists_page_of_at? h
    exact ⟨page, hpage⟩

/-- What a look-up returns is the stub of a page. -/
theorem Returns.exists_page {points : List String} {fallback : String} {stub : Stub}
    (h : (ofPages pages).Returns points fallback stub) : ∃ page, (stub, page) ∈ pages := by
  cases h with
  | lookup h =>
      rw [Catalog.lookup, Option.or_eq_some_iff] at h
      rcases h with h | ⟨-, h⟩
      · exact exists_page_of_lookupIn pages h
      · exact exists_page_of_lookupIn pages h
  | lookupPrefix h =>
      rw [lookupPrefix_eq] at h
      obtain ⟨hit, hhit, rfl⟩ := List.mem_map.1 h
      have hfirst := (List.mergeSort_perm _ _).mem_iff.1 hhit
      have hhits := (List.mem_filter.1 ((firstOfEach_sublist _ _).subset hfirst)).1
      obtain ⟨point, hslot⟩ := (mem_hits_iff.1 hhits).exists_slot
      obtain ⟨page, hpage, -⟩ := exists_page_of_at? hslot
      exact ⟨page, hpage⟩
  | @lookupRedirect url h =>
      have hslot : (ofPages pages).at? (.redirect (normalizeUrl url)) = some stub := h
      obtain ⟨page, hpage, -⟩ := exists_page_of_at? hslot
      exact ⟨page, hpage⟩
  | lookupTranslating h =>
      rw [Catalog.lookupTranslating, translating_ofPages] at h
      obtain ⟨⟨_, page⟩, hpage, rfl⟩ := List.mem_map.1 h
      exact ⟨page, (List.mem_filter.1 hpage).1⟩

end Pages

end Catalog

section Lookups

open Catalog (exists_lastOf foundIn lastOf lastOf_congr)

variable (site : Site) (indexers : List (Indexer σ)) (s : σ)

/-- Whatever has happened to a site, look-ups answer from the pages that its last rebuild made, with
the mounts in their order, the scopes of a mount in theirs and the files of a scope in theirs. A
former address leads to the last page that has it, a page is translated by all pages that say so,
and of the pages at one address or path the last is found. A stub that is returned is that of a page
of the rebuild, and the catalog knows its shasum. -/
theorem lookups_run (turns : List Turn) (edits : List (Nat → FileSystem)) :
    let before := ({ site, state := s } : Session σ).run indexers turns
    let after := ({ site, state := s } : Session σ).run indexers
      (turns ++ .rebuild :: edits.map .edit)
    let pages := before.site.mounts.zipIdx.flatMap fun entry =>
      ((before.site.scopes entry.2 entry.1).toOption.getD []).flatMap fun scope =>
        ((scope.pages before.site.formats).toOption.getD []).filterMap fun path =>
          (before.site.take before.catalog.stubs entry.1 scope path).toOption
    let c := after.catalog
    c = .ofPages pages ∧
      (∀ url, c.lookupRedirect url = lastOf pages fun entry => entry.2.RedirectsFrom url) ∧
      (∀ url, c.lookupTranslating url
        = (pages.filter fun entry => entry.2.Translates url).map (·.1)) ∧
      (∀ language url, c.lookup after.site.points after.site.defaultLanguage language url
        = [normalizeTag language, after.site.defaultLanguage].findSome? fun tag =>
            after.site.points.findSome? fun point => foundIn pages point tag url) ∧
      (∀ shasum, c.stubs.get? shasum = lastOf pages fun entry => entry.1.shasum = shasum) ∧
      ∀ stub, c.Returns after.site.points after.site.defaultLanguage stub →
        (∃ page, (stub, page) ∈ pages) ∧ ∃ known ∈ c.stubs.values, known.shasum = stub.shasum := by
  intro before after pages c
  have hpages : pages = before.site.made before.catalog.stubs := (made_eq ..).symm
  have hc : c = .ofPages pages := by
    rw [hpages]
    exact Session.catalog_run indexers _ turns edits
  have hshasum : ∀ shasum, c.stubs.get? shasum
      = lastOf pages fun entry => entry.1.shasum = shasum := by
    intro shasum
    rw [hc]
    exact (Catalog.at?_ofPages pages (.shasum shasum)).trans
      (lastOf_congr fun entry _ => eq_comm)
  have haddressed : ∀ entry ∈ pages, entry.2.Addressed := fun entry hentry =>
    (isMade_of_mem_made (hpages ▸ hentry)).eqs.2
  refine ⟨hc, fun url => ?_, fun url => ?_, fun language url => ?_, hshasum, fun stub hstub => ?_⟩
  · rw [hc]
    exact (Catalog.at?_ofPages pages (.redirect (normalizeUrl url))).trans
      (lastOf_congr fun entry hentry => (haddressed entry hentry).mem_redirects_iff url)
  · rw [hc, Catalog.lookupTranslating, Catalog.translating_ofPages]
    refine congrArg (List.map _) (List.filter_congr fun entry hentry => ?_)
    exact decide_eq_decide.2 ((haddressed entry hentry).translates_iff url)
  · rw [hc, Catalog.lookup_ofPages]
  · rw [hc] at hstub
    obtain ⟨page, hpage⟩ := hstub.exists_page
    obtain ⟨known, hknown⟩ : ∃ known, c.stubs.get? stub.shasum = some known := by
      rw [hshasum]
      exact exists_lastOf hpage rfl
    exact ⟨⟨page, hpage⟩, known, NameMap.mem_values_iff.2 ⟨_, hknown⟩,
      Catalog.shasum_ofPages (hc ▸ hknown)⟩

end Lookups

end Site

end SiteIndex
