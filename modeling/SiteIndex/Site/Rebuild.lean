import SiteIndex.Action
import SiteIndex.Site.Catalog

/-!
# Rebuilding the catalog

A site is a list of mounts. In each of them, the directories that are named by a language tag
hold the pages of that language, and all other files are pages in the default language. A
rebuild takes up every file of a format that the site has, and hands its page to the indexers;
then it takes the pages that are gone out of them. What fails is reported, and the rebuild goes
on.
-/

namespace SiteIndex

namespace Site

open Files (FileSystem)
open Markup (Formats)
open Page (Home Stub normalizeUrl normalizeTag isLanguageTag)

/-- Files that are part of a site, below a point of its addresses. -/
structure Mount where
  point : String
  files : FileSystem

/-- Mounts files at a point in any spelling. -/
def Mount.at (point : String) (files : FileSystem) : Mount := ⟨normalizeUrl point, files⟩

/-- What is told about the pages of a site. -/
structure Indexer (σ : Type) where
  add : Stub → Page → Action σ Unit
  remove : Stub → Action σ Unit

/-- An indexer on the first of two states. -/
def Indexer.onFirst {σ τ : Type} (indexer : Indexer σ) : Indexer (σ × τ) :=
  { add := fun stub page => (indexer.add stub page).onFirst
    remove := fun stub => (indexer.remove stub).onFirst }

/-- Something that failed during a rebuild, and where. -/
structure Fault where
  mount : String
  path : String
  failure : Failure

/-- What a rebuild has done. -/
structure Report where
  /-- The files that were taken up. -/
  files : Nat := 0
  /-- The pages that all indexers accepted. -/
  indexed : Nat := 0
  /-- The pages that are gone. -/
  removed : Nat := 0
  faults : List Fault := []

/-- Nothing failed. -/
def Report.isSuccess (r : Report) : Bool := r.faults.isEmpty

/-- The report with one more fault. -/
def Report.addFault (r : Report) (mount path : String) (failure : Failure) : Report :=
  { r with faults := r.faults ++ [⟨mount, path, failure⟩] }

/-- The pages of one language in a mount. -/
structure Scope where
  language : String
  home : Home
  files : FileSystem
  /-- Directories that belong to other languages. -/
  excluded : List String

/-- A rebuild that is going on. -/
structure Progress where
  catalog : Catalog := {}
  report : Report := {}

/-- The progress with one more fault. -/
def Progress.addFault (p : Progress) (mount path : String) (failure : Failure) : Progress :=
  { p with report := p.report.addFault mount path failure }

end Site

/-- Where the pages of a site come from. -/
structure Site where
  mounts : List Site.Mount
  formats : Markup.Formats := .standard
  /-- The language of files that are in no directory of a language. -/
  defaultLanguage : String

namespace Site

open Files (FileSystem)
open Markup (Formats)
open Page (Home Stub normalizeUrl normalizeTag isLanguageTag)

variable {σ : Type}

/-- A site with the usual formats, whose default language is given in any case. -/
def make (mounts : List Mount) (defaultLanguage : String) : Site :=
  { mounts, defaultLanguage := normalizeTag defaultLanguage }

/-- The points of the mounts. -/
def points (site : Site) : List String := site.mounts.map (·.point)

/-- The files in a home. -/
def filesAt (site : Site) (home : Home) : Option FileSystem := do
  let mount ← site.mounts[home.mount]?
  match home.dir with
  | some dir => some (mount.files.under dir)
  | none => some mount.files

/-- The page of a stub as its file is now. -/
def make? (site : Site) (stub : Stub) : Outcome Page :=
  match site.filesAt stub.home with
  | some files => Page.make stub files site.formats
  | none => .error (.missingFile stub.mount stub.source)

/-- The scopes of a mount: the default language first, then the directories with a tag. -/
def scopes (site : Site) (number : Nat) (mount : Mount) : Outcome (List Scope) := do
  let locales := (← mount.files.dirs).filter isLanguageTag
  let rest := locales.map fun dir =>
    { language := normalizeTag dir, home := { mount := number, dir := some dir },
      files := mount.files.under dir, excluded := [] : Scope }
  return { language := site.defaultLanguage, home := { mount := number },
           files := mount.files, excluded := locales } :: rest

/-- A path lies in a directory of another language. -/
def Scope.excludes (scope : Scope) (path : String) : Bool :=
  scope.excluded.any fun dir => (Files.dropFront? (dir ++ "/") path).isSome

/-- The files of a scope that are pages. -/
def Scope.pages (scope : Scope) (formats : Formats) : Outcome (List String) := do
  return (← scope.files.list).filter fun path =>
    !scope.excludes path && (formats.find? (Markup.formatOf path)).isSome

/-- The stub of a file and its page. A stub that the last rebuild knew is kept, with the home
that it had. -/
def take (site : Site) (previous : NameMap Stub) (mount : Mount) (scope : Scope)
    (path : String) : Outcome (Stub × Page) := do
  let fresh ← Stub.ofFile scope.files path mount.point scope.language site.defaultLanguage
  let stub := (previous.get? fresh.shasum).getD { fresh with home := scope.home }
  return (stub, ← site.make? stub)

/-- Asks every indexer and reports those that fail; says whether none did. -/
def askAll (stub : Stub) (ask : Indexer σ → Action σ Unit) :
    List (Indexer σ) → Report → StateM σ (Bool × Report)
  | [], report => return (true, report)
  | indexer :: rest, report => do
    match ← (ask indexer).run with
    | .ok () => askAll stub ask rest report
    | .error failure =>
      let (_, report) ← askAll stub ask rest (report.addFault stub.mount stub.source failure)
      return (false, report)

/-- Registers a page and hands it to the indexers. -/
def enter (indexers : List (Indexer σ)) (stub : Stub) (page : Page) (p : Progress) :
    StateM σ Progress := do
  let (accepted, report) ← askAll stub (·.add stub page) indexers p.report
  return {
    catalog := p.catalog.register stub page
    report := if accepted then { report with indexed := report.indexed + 1 } else report }

/-- Takes up a file. -/
def visitFile (site : Site) (indexers : List (Indexer σ)) (previous : NameMap Stub)
    (mount : Mount) (scope : Scope) (p : Progress) (path : String) : StateM σ Progress :=
  match site.take previous mount scope path with
  | .ok (stub, page) => enter indexers stub page p
  | .error failure => return p.addFault mount.point path failure

/-- Takes up the files of a scope. -/
def visitScope (site : Site) (indexers : List (Indexer σ)) (previous : NameMap Stub)
    (mount : Mount) (p : Progress) (scope : Scope) : StateM σ Progress :=
  match scope.pages site.formats with
  | .error failure => return p.addFault mount.point scope.files.name failure
  | .ok paths =>
    let p := { p with report := { p.report with files := p.report.files + paths.length } }
    paths.foldlM (visitFile site indexers previous mount scope) p

/-- Takes up the scopes of a mount. -/
def visitMount (site : Site) (indexers : List (Indexer σ)) (previous : NameMap Stub)
    (p : Progress) (entry : Mount × Nat) : StateM σ Progress :=
  match site.scopes entry.2 entry.1 with
  | .error failure => return p.addFault entry.1.point "" failure
  | .ok scopes => scopes.foldlM (visitScope site indexers previous entry.1) p

/-- Takes a page that is gone out of the indexers. -/
def dismiss (indexers : List (Indexer σ)) (p : Progress) (stub : Stub) : StateM σ Progress := do
  let report := { p.report with removed := p.report.removed + 1 }
  let (_, report) ← askAll stub (·.remove stub) indexers report
  return { p with report }

/-- Rebuilds the catalog from the files as they are. -/
def rebuild (site : Site) (indexers : List (Indexer σ)) (previous : Catalog) :
    StateM σ (Report × Catalog) := do
  let p ← site.mounts.zipIdx.foldlM (visitMount site indexers previous.stubs) {}
  let gone := previous.stubs.values.filter fun stub => !p.catalog.stubs.contains stub.shasum
  let p ← gone.foldlM (dismiss indexers) p
  return (p.report, p.catalog)

end Site

end SiteIndex
