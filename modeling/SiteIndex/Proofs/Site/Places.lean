import Mathlib.Data.List.Perm.Basic
import Mathlib.Data.List.Sigma
import SiteIndex.Proofs.Files.Path
import SiteIndex.Proofs.Site.InStep
import SiteIndex.Proofs.Site.Report

/-!
# Where a rebuild finds its pages

A scope lists the files of the default language or those of one directory, and which of them it
leaves to others is told by three filters of its own. Together they come to this: every file of a
format that the site has is taken up at one place, in the directory of its language if it lies in
one and else in the mount (`takes_each_page_once`).
-/

namespace SiteIndex.Site

open Files (FileSystem MemoryFiles)
open Markup (Formats)
open Page (Home Stub isLanguageTag normalizeTag normalizeUrl)

variable {σ : Type}

/-! ## Places -/

/-- Where a page is found: a file below a home, at the point of a mount and in a language. -/
@[ext]
structure Place where
  home : Home
  mount : String
  language : String
  source : String
  deriving DecidableEq

/-- The place of a file of a scope. -/
def Scope.place (scope : Scope) (mount : Mount) (path : String) : Place :=
  ⟨scope.home, mount.point, scope.language, path⟩

/-- The places of the pages of a scope. -/
def scopePlaces (site : Site) (mount : Mount) (scope : Scope) : List Place :=
  match scope.pages site.formats with
  | .ok paths => paths.map (scope.place mount)
  | .error _ => []

/-- The places of the pages of a mount. -/
def mountPlaces (site : Site) (entry : Mount × Nat) : List Place :=
  match site.scopes entry.2 entry.1 with
  | .ok scopes => scopes.flatMap (site.scopePlaces entry.1)
  | .error _ => []

/-- All places at which a rebuild takes up a file, in this order. -/
def places (site : Site) : List Place := site.mounts.zipIdx.flatMap site.mountPlaces

/-- What comes of taking up the file at a place: its stub and its page. A stub that the last rebuild
knew is kept, with the home that it had. -/
def takeAt (site : Site) (previous : NameMap Stub) (place : Place) : Outcome (Stub × Page) :=
  match site.filesAt place.home with
  | some files => do
    let fresh ← Stub.ofFile files place.source place.mount place.language site.defaultLanguage
    let stub := (previous.get? fresh.shasum).getD { fresh with home := place.home }
    return (stub, ← site.make? stub)
  | none => .error (.missingFile place.mount place.source)

/-- The visit of the file at a place. -/
def placeVisit (site : Site) (previous : NameMap Stub) (place : Place) : Visit :=
  match site.takeAt previous place with
  | .ok (stub, page) => .entry stub page
  | .error failure => .fault place.mount place.source failure

/-- The visits take up the files at the places, one after the other, and announce as many files. -/
structure Reaches (site : Site) (previous : NameMap Stub) (visits : List Visit)
    (places : List Place) : Prop where
  taken : visits.filter Visit.isTaking = places.map (site.placeVisit previous)
  counted : (visits.map Visit.count).sum = places.length

/-- A file system that can be listed, with its directories. -/
structure Lists (files : FileSystem) (paths : List String) : Prop where
  list : files.list = .ok paths
  dirs : files.dirs = .ok (Files.dirsOf paths)

/-- Files in memory can be listed. -/
theorem lists_view (files : MemoryFiles) : Lists files.view files.files.names := ⟨rfl, rfl⟩

/-- The scope of the default language. -/
def wholeScope (site : Site) (number : Nat) (mount : Mount) (locales : List String) : Scope :=
  { language := site.defaultLanguage, home := { mount := number }, files := mount.files,
    excluded := locales }

/-- The scope of a directory of a language. -/
def dirScope (number : Nat) (mount : Mount) (dir : String) : Scope :=
  { language := normalizeTag dir, home := { mount := number, dir := some dir },
    files := mount.files.under dir, excluded := [] }

/-- The directories of languages among those of some files. -/
def localesOf (paths : List String) : List String := (Files.dirsOf paths).filter isLanguageTag

section Visits

variable {site : Site} {previous : NameMap Stub} {number : Nat} {mount : Mount}
  {paths : List String}

/-- What each item reaches is reached by all of them. -/
theorem Reaches.flatMap {α : Type} {items : List α} {f : α → List Visit} {g : α → List Place}
    (h : ∀ a ∈ items, Reaches site previous (f a) (g a)) :
    Reaches site previous (items.flatMap f) (items.flatMap g) := by
  induction items with
  | nil => exact ⟨rfl, rfl⟩
  | cons a rest ih =>
      obtain ⟨⟨htaken, hcounted⟩, hrest⟩ := List.forall_mem_cons.1 h
      obtain ⟨htaken', hcounted'⟩ := ih hrest
      constructor
      · rw [List.flatMap_cons, List.flatMap_cons, List.filter_append, List.map_append, htaken,
          htaken']
      · rw [List.flatMap_cons, List.flatMap_cons, List.map_append, List.sum_append,
          List.length_append, hcounted, hcounted']

/-- The pages that are made are those of the places whose files can be read. -/
theorem Reaches.pages {visits : List Visit} {places : List Place}
    (h : Reaches site previous visits places) : visits.filterMap Visit.page?
      = places.filterMap fun place => (site.takeAt previous place).toOption := by
  calc visits.filterMap Visit.page?
      = (visits.filter Visit.isTaking).filterMap Visit.page? := by
        rw [List.filterMap_filter]
        congr
        funext visit
        cases visit <;> rfl
    _ = (places.map (site.placeVisit previous)).filterMap Visit.page? := by rw [h.taken]
    _ = _ := by
        rw [List.filterMap_map]
        congr
        funext place
        show (site.placeVisit previous place).page? = _
        unfold placeVisit
        cases site.takeAt previous place <;> rfl

/-- A file of a scope is taken up at its place. -/
theorem fileVisit_eq {scope : Scope} (h : site.filesAt scope.home = some scope.files)
    (path : String) :
    site.fileVisit previous mount scope path
      = site.placeVisit previous (scope.place mount path) := by
  have htake : site.takeAt previous (scope.place mount path)
      = site.take previous mount scope path := by
    unfold takeAt
    rw [show (scope.place mount path).home = scope.home from rfl, h]
    rfl
  rw [fileVisit, placeVisit, htake]
  rfl

/-- The pages of a scope whose files can be listed. -/
theorem pages_of_list {scope : Scope} (h : scope.files.list = .ok paths)
    (formats : Markup.Formats) : scope.pages formats = .ok (paths.filter fun path =>
      !scope.excludes path && (formats.find? (Markup.formatOf path)).isSome) := by
  rw [Scope.pages, h]
  rfl

/-- The scopes of a mount that can be listed. -/
theorem scopes_of_lists (h : Lists mount.files paths) : site.scopes number mount
    = .ok (site.wholeScope number mount (localesOf paths)
      :: (localesOf paths).map (dirScope number mount)) := by
  rw [scopes, h.dirs]
  rfl

/-- Something is taken up at a place, be it in vain. -/
theorem isTaking_placeVisit (place : Place) : (site.placeVisit previous place).isTaking = true := by
  unfold placeVisit
  cases site.takeAt previous place <;> rfl

/-- A place is not an announcement. -/
theorem count_placeVisit (place : Place) : (site.placeVisit previous place).count = 0 := by
  unfold placeVisit
  cases site.takeAt previous place <;> rfl

/-- A scope that can be listed reaches its places. -/
theorem reaches_scope {scope : Scope} (hlist : scope.files.list = .ok paths)
    (hfiles : site.filesAt scope.home = some scope.files) :
    Reaches site previous (site.scopeVisits previous mount scope)
      (site.scopePlaces mount scope) := by
  rw [scopeVisits, scopePlaces, pages_of_list hlist]
  dsimp only
  generalize paths.filter _ = pages
  rw [show site.fileVisit previous mount scope = site.placeVisit previous ∘ scope.place mount from
    funext (fileVisit_eq hfiles), ← List.map_map]
  constructor
  case taken =>
    rw [List.filter_cons_of_neg (by exact nofun), List.filter_eq_self]
    intro visit hvisit
    obtain ⟨place, -, rfl⟩ := List.mem_map.1 hvisit
    exact isTaking_placeVisit place
  case counted =>
    rw [List.map_cons, List.sum_cons, List.map_map, List.length_map,
      show Visit.count ∘ site.placeVisit previous = fun _ => 0 from funext count_placeVisit]
    simp [Visit.count, Function.comp_def]

/-- A mount that can be listed reaches its places. -/
theorem reaches_mount (h : Lists mount.files paths) (hmount : site.mounts[number]? = some mount) :
    Reaches site previous (site.mountVisits previous (mount, number))
      (site.mountPlaces (mount, number)) := by
  rw [mountVisits, mountPlaces, scopes_of_lists h]
  refine .flatMap fun scope hscope => ?_
  rcases List.mem_cons.1 hscope with rfl | hscope
  · refine reaches_scope h.list ?_
    rw [filesAt, wholeScope, hmount]
    rfl
  · obtain ⟨dir, -, rfl⟩ := List.mem_map.1 hscope
    refine reaches_scope (congrArg (Except.map _) h.list) ?_
    rw [filesAt, dirScope, hmount]
    rfl

end Visits

/-! ## Files and their places -/

/-- The directory of a language that a path lies in, and the path below it. -/
def languageDir? (path : String) : Option (String × String) :=
  (Files.splitFirst? path).filter fun parts => isLanguageTag parts.1

/-- A file of a mount. -/
structure MountedFile where
  /-- The number of the mount. -/
  number : Nat
  point : String
  path : String

/-- Where the page of a file is found: in the directory of its language if it lies in one, and else
in the mount. -/
def MountedFile.place (defaultLanguage : String) (file : MountedFile) : Place :=
  match languageDir? file.path with
  | some (dir, rest) =>
    ⟨{ mount := file.number, dir := some dir }, file.point, normalizeTag dir, rest⟩
  | none => ⟨{ mount := file.number }, file.point, defaultLanguage, file.path⟩

/-- The path is that of a file of one of the formats. -/
def knows (formats : Formats) (path : String) : Bool :=
  (formats.find? (Markup.formatOf path)).isSome

/-- The files of a mount that are of one of the formats. -/
def pageFilesOf (formats : Formats) (number : Nat) (point : String) (paths : List String) :
    List MountedFile :=
  (paths.filter (knows formats)).map fun path => ⟨number, point, path⟩

/-- The files of a site that are of a format that it has. -/
def Layout.pageFiles (layout : Layout) (files : Nat → MemoryFiles) : List MountedFile :=
  layout.mounts.zipIdx.flatMap fun entry =>
    pageFilesOf layout.formats entry.2 (normalizeUrl entry.1.1) (files entry.1.2).files.names

section Partition

variable {α κ : Type} [DecidableEq κ] {key : α → Option κ}

/-- The items of several keys, key by key. -/
theorem flatMap_filter_perm {keys : List κ} (hkeys : keys.Nodup) (items : List α) :
    (keys.flatMap fun k => items.filter (key · = some k)).Perm
      (items.filter fun a => decide (∃ k ∈ keys, key a = some k)) := by
  induction keys with
  | nil => simp
  | cons k keys ih =>
      obtain ⟨hk, hkeys⟩ := List.nodup_cons.1 hkeys
      have hsplit := List.filter_append_perm (key · = some k)
        (items.filter fun a => decide (∃ other ∈ k :: keys, key a = some other))
      rw [List.filter_filter, List.filter_filter] at hsplit
      refine ((ih hkeys).append_left _).trans (.trans (.of_eq ?_) hsplit)
      congr 1
      · refine List.filter_congr fun a _ => ?_
        by_cases h : key a = some k <;> simp [h]
      · refine List.filter_congr fun a _ => ?_
        by_cases h : key a = some k <;> simp [h, hk]

/-- Items are those without a key and those of all keys. -/
theorem perm_of_keys {keys : List κ} (hkeys : keys.Nodup) {items : List α}
    (h : ∀ a ∈ items, ∀ k, key a = some k → k ∈ keys) :
    (items.filter (key · = none) ++ keys.flatMap fun k => items.filter (key · = some k)).Perm
      items := by
  refine ((flatMap_filter_perm hkeys items).append_left _).trans (.trans (.of_eq ?_)
    (List.filter_append_perm (key · = none) items))
  congr 1
  refine List.filter_congr fun a ha => ?_
  cases hkey : key a with
  | none => simp
  | some k => simpa using h a ha k hkey

end Partition

section Directories

variable {path dir rest : String} {paths : List String}

/-- A path lies in the directory of a language if it starts with its tag and a slash. -/
theorem languageDir?_eq_some_iff : languageDir? path = some (dir, rest) ↔
    path = dir ++ "/" ++ rest ∧ isLanguageTag dir = true := by
  rw [languageDir?, Option.filter_eq_some_iff, Files.splitFirst?_eq_some_iff, and_assoc]
  exact and_congr_right fun _ =>
    and_iff_right_of_imp fun h => (Page.isPart_of_isLanguageTag h).no_slash

/-- The directories of some files are those that their paths start with. -/
theorem mem_dirsOf_iff : dir ∈ Files.dirsOf paths ↔
    ∃ path ∈ paths, ∃ rest, Files.splitFirst? path = some (dir, rest) := by
  rw [Files.dirsOf, NameMap.mem_names_ofList]
  simp only [List.map_map, List.mem_map, List.mem_filterMap]
  constructor
  · rintro ⟨⟨_, rest⟩, ⟨path, hpath, hsplit⟩, rfl⟩
    exact ⟨path, hpath, rest, hsplit⟩
  · rintro ⟨path, hpath, rest, hsplit⟩
    exact ⟨(dir, rest), ⟨path, hpath, hsplit⟩, rfl⟩

/-- The directories of languages are those that files lie in. -/
theorem mem_localesOf_iff : dir ∈ localesOf paths ↔
    ∃ path ∈ paths, ∃ rest, languageDir? path = some (dir, rest) := by
  rw [localesOf, List.mem_filter, mem_dirsOf_iff]
  simp only [languageDir?, Option.filter_eq_some_iff]
  constructor
  · rintro ⟨⟨path, hpath, rest, hsplit⟩, htag⟩
    exact ⟨path, hpath, rest, hsplit, htag⟩
  · rintro ⟨path, hpath, rest, hsplit, htag⟩
    exact ⟨⟨path, hpath, rest, hsplit⟩, htag⟩

/-- No directory of a language comes twice. -/
theorem nodup_localesOf : (localesOf paths).Nodup := NameMap.nodup_names.filter _

/-- The default language leaves the files in directories of languages to these, and no others. -/
theorem excludes_wholeScope (site : Site) (number : Nat) (mount : Mount) (hpath : path ∈ paths) :
    (site.wholeScope number mount (localesOf paths)).excludes path
      = (languageDir? path).isSome := by
  rw [Bool.eq_iff_iff, Scope.excludes, List.any_eq_true, Option.isSome_iff_exists]
  simp only [Option.isSome_iff_exists, Files.dropFront?_eq_some_iff, Prod.exists,
    languageDir?_eq_some_iff]
  constructor
  · rintro ⟨dir, hdir, rest, hrest⟩
    exact ⟨dir, rest, hrest, List.of_mem_filter hdir⟩
  · rintro ⟨dir, rest, hrest, htag⟩
    exact ⟨dir, mem_localesOf_iff.2 ⟨path, hpath, rest, languageDir?_eq_some_iff.2 ⟨hrest, htag⟩⟩,
      rest, hrest⟩

end Directories

section Mounts

variable {site : Site} {number : Nat} {mount : Mount} {paths : List String}

/-- The places of the default language are those of the files in no directory of a language. -/
theorem scopePlaces_wholeScope (h : Lists mount.files paths) :
    site.scopePlaces mount (site.wholeScope number mount (localesOf paths))
      = ((pageFilesOf site.formats number mount.point paths).filter
          fun file => (languageDir? file.path).map (·.1) = none).map
            (MountedFile.place site.defaultLanguage) := by
  have hpages : (site.wholeScope number mount (localesOf paths)).pages site.formats
      = .ok (paths.filter fun path =>
        decide ((languageDir? path).map (·.1) = none) && knows site.formats path) := by
    rw [pages_of_list h.list]
    refine congrArg _ (List.filter_congr fun path hpath => ?_)
    rw [excludes_wholeScope site number mount hpath, knows]
    cases languageDir? path <;> rfl
  rw [scopePlaces, hpages, pageFilesOf, List.filter_map, List.map_map, List.filter_filter]
  refine List.map_congr_left fun path hpath => ?_
  have hkept := (List.mem_filter.1 hpath).2
  have hnone : languageDir? path = none := by simpa using (Bool.and_eq_true_iff.1 hkept).1
  show _ = MountedFile.place _ ⟨number, mount.point, path⟩
  rw [MountedFile.place, hnone]
  rfl

/-- A file in a directory of a language is at the place that it has in the scope of that
directory. -/
theorem place_of_dropFront? (site : Site) (number : Nat) (mount : Mount) {dir path rest : String}
    (hdir : isLanguageTag dir = true)
    (hfront : Files.dropFront? (dir ++ "/") path = some rest) :
    languageDir? path = some (dir, rest) ∧ knows site.formats path = knows site.formats rest ∧
      MountedFile.place site.defaultLanguage ⟨number, mount.point, path⟩
        = (dirScope number mount dir).place mount rest := by
  have hpath := Files.dropFront?_eq_some_iff.1 hfront
  have hrest := languageDir?_eq_some_iff.2 ⟨hpath, hdir⟩
  refine ⟨hrest, ?_, ?_⟩
  · rw [knows, hpath, Files.formatOf_append, knows]
  · rw [MountedFile.place, hrest]
    rfl

/-- The places of a directory of a language are those of the files in it. -/
theorem scopePlaces_dirScope (h : Lists mount.files paths) {dir : String}
    (hdir : isLanguageTag dir = true) : site.scopePlaces mount (dirScope number mount dir)
      = ((pageFilesOf site.formats number mount.point paths).filter
          fun file => (languageDir? file.path).map (·.1) = some dir).map
            (MountedFile.place site.defaultLanguage) := by
  have hlist : (dirScope number mount dir).files.list
      = .ok (paths.filterMap (Files.dropFront? (dir ++ "/"))) := by
    show mount.files.list.map _ = _
    rw [h.list, (Page.isPart_of_isLanguageTag hdir).cleanPath_eq]
    rfl
  rw [scopePlaces, pages_of_list hlist, pageFilesOf, List.filter_map, List.map_map,
    List.filter_filter]
  dsimp only
  clear hlist h
  induction paths with
  | nil => rfl
  | cons path others ih =>
      cases hfront : Files.dropFront? (dir ++ "/") path with
      | none =>
          have hkey : (languageDir? path).map (·.1) ≠ some dir := by
            intro heq
            obtain ⟨⟨_, rest⟩, hrest, rfl⟩ := Option.map_eq_some_iff.1 heq
            rw [Files.dropFront?_eq_some_iff.2 (languageDir?_eq_some_iff.1 hrest).1] at hfront
            cases hfront
          rw [List.filterMap_cons_none hfront, ih, List.filter_cons_of_neg (by simp [hkey])]
      | some rest =>
          obtain ⟨hrest, hknows, hplace⟩ := place_of_dropFront? site number mount hdir hfront
          have hexcludes : (dirScope number mount dir).excludes rest = false := rfl
          rw [List.filterMap_cons_some hfront]
          cases hpage : knows site.formats rest with
          | true =>
              rw [List.filter_cons_of_pos (by rw [hexcludes]; exact hpage),
                List.filter_cons_of_pos (by simp [hrest, hknows, hpage]), List.map_cons, ih,
                List.map_cons, ← hplace]
              rfl
          | false =>
              rw [List.filter_cons_of_neg (by rw [hexcludes]; exact ne_true_of_eq_false hpage),
                List.filter_cons_of_neg (by simp [hknows, hpage]), ih]

/-- The places of a mount are those of its files, each once. -/
theorem mountPlaces_perm (h : Lists mount.files paths) :
    (site.mountPlaces (mount, number)).Perm
      ((pageFilesOf site.formats number mount.point paths).map
        (MountedFile.place site.defaultLanguage)) := by
  have hplaces : site.mountPlaces (mount, number)
      = ((pageFilesOf site.formats number mount.point paths).filter
            (fun file => (languageDir? file.path).map (·.1) = none)
          ++ (localesOf paths).flatMap fun dir =>
            (pageFilesOf site.formats number mount.point paths).filter
              fun file => (languageDir? file.path).map (·.1) = some dir).map
        (MountedFile.place site.defaultLanguage) := by
    rw [mountPlaces, scopes_of_lists h]
    dsimp only
    rw [List.flatMap_cons, scopePlaces_wholeScope h, List.flatMap_map, List.map_append,
      List.map_flatMap]
    congr 1
    exact List.flatMap_congr fun dir hdir => scopePlaces_dirScope h (List.of_mem_filter hdir)
  rw [hplaces]
  refine (perm_of_keys nodup_localesOf ?_).map _
  intro file hfile dir hdir
  obtain ⟨path, hpath, rfl⟩ := List.mem_map.1 hfile
  obtain ⟨⟨_, rest⟩, hrest, rfl⟩ := Option.map_eq_some_iff.1 hdir
  exact mem_localesOf_iff.2 ⟨path, List.mem_of_mem_filter hpath, rest, hrest⟩

end Mounts

/-! ## Every page once -/

/-- A file is at no other place than that of its mount and its path. -/
theorem MountedFile.place_injective (defaultLanguage : String) :
    Function.Injective (MountedFile.place defaultLanguage) := by
  rintro ⟨number, point, path⟩ ⟨number', point', path'⟩ h
  unfold MountedFile.place at h
  dsimp only at h
  cases hdir : languageDir? path with
  | none => cases hdir' : languageDir? path' with
    | none =>
        rw [hdir, hdir'] at h
        obtain ⟨hhome, rfl, -, rfl⟩ := Place.mk.inj h
        rw [(Home.mk.inj hhome).1]
    | some parts' =>
        rw [hdir, hdir'] at h
        cases (Home.mk.inj (Place.mk.inj h).1).2
  | some parts => cases hdir' : languageDir? path' with
    | none =>
        rw [hdir, hdir'] at h
        cases (Home.mk.inj (Place.mk.inj h).1).2
    | some parts' =>
        rw [hdir, hdir'] at h
        obtain ⟨hhome, rfl, -, hrest⟩ := Place.mk.inj h
        obtain ⟨rfl, hsame⟩ := Home.mk.inj hhome
        rw [(languageDir?_eq_some_iff.1 hdir).1, (languageDir?_eq_some_iff.1 hdir').1, hrest,
          Option.some.inj hsame]

/-- Every file of a site is in one mount. -/
theorem nodup_pageFiles (layout : Layout) (files : Nat → MemoryFiles) :
    (layout.pageFiles files).Nodup := by
  refine List.nodup_flatMap.2 ⟨fun entry _ => ?_, ?_⟩
  · refine (NameMap.nodup_names.filter _).map fun path path' h => ?_
    exact (MountedFile.mk.inj h).2.2
  · refine (List.pairwise_map.1 (List.nodup_zipIdx_map_snd layout.mounts)).imp ?_
    intro entry entry' hne file hfile hfile'
    obtain ⟨path, -, rfl⟩ := List.mem_map.1 hfile
    obtain ⟨path', -, h⟩ := List.mem_map.1 hfile'
    exact hne (MountedFile.mk.inj h).1.symm

section Layouts

variable (layout : Layout) (files : Nat → MemoryFiles)

/-- The mounts of a site with their numbers. -/
theorem mounts_site : (layout.site files).mounts.zipIdx
    = layout.mounts.zipIdx.map fun entry =>
      (.at entry.1.1 (files entry.1.2).view, entry.2) := by
  show (layout.mounts.map _).zipIdx = _
  rw [List.zipIdx_map]
  rfl

/-- The places of a site are those of its files, each once. -/
theorem places_perm : (layout.site files).places.Perm ((layout.pageFiles files).map
    (MountedFile.place (layout.site files).defaultLanguage)) := by
  rw [places, mounts_site, List.flatMap_map, Layout.pageFiles, List.map_flatMap]
  exact List.Perm.flatMap_left _ fun entry _ => mountPlaces_perm (lists_view (files entry.1.2))

/-- The visits of a site reach its places. -/
theorem reaches_site (previous : NameMap Stub) :
    Reaches (layout.site files) previous ((layout.site files).visits previous)
      (layout.site files).places := by
  refine .flatMap fun entry hentry => ?_
  have hmount := List.mem_zipIdx_iff_getElem?.1 hentry
  rw [mounts_site] at hentry
  obtain ⟨origin, -, rfl⟩ := List.mem_map.1 hentry
  exact reaches_mount (lists_view (files origin.1.2)) hmount

end Layouts

/-- A rebuild takes up every file of a format that the site has at one place, in the directory of
its language or else in the mount, and no other file. It counts these files, and with an indexer
that is alone each of them ends as an accepted page or as a fault, next to the faults of removals
that fail. -/
theorem takes_each_page_once (layout : Layout) (files : Nat → MemoryFiles) (previous : Catalog) :
    let site := layout.site files
    site.places.Perm ((layout.pageFiles files).map (MountedFile.place site.defaultLanguage)) ∧
      site.places.Nodup ∧
      (site.visits previous.stubs).filter Visit.isTaking
        = site.places.map (site.placeVisit previous.stubs) ∧
      (∀ {σ : Type} (indexers : List (Indexer σ)) (s : σ),
        let (report, catalog) := ((site.rebuild indexers previous).run s).run.1
        report.files = (layout.pageFiles files).length ∧
          catalog = .ofPages (site.places.filterMap fun place =>
            (site.takeAt previous.stubs place).toOption)) ∧
      ∀ {σ : Type} (indexer : Indexer σ) (s : σ),
        let report := ((site.rebuild [indexer] previous).run s).run.1.1
        report.files + failures ((site.answers indexer previous).run s).run.1.2
          = report.indexed + report.faults.length := by
  intro site
  have hperm := places_perm layout files
  have hreaches := reaches_site layout files previous.stubs
  have hfiles : ∀ {σ : Type} (indexers : List (Indexer σ)) (s : σ),
      ((site.rebuild indexers previous).run s).run.1.1.files = site.places.length := by
    intro σ indexers s
    exact (files_rebuild site previous s).trans hreaches.counted
  refine ⟨hperm, ?_, hreaches.taken, fun indexers s => ⟨?_, ?_⟩, fun indexer s => ?_⟩
  · exact hperm.nodup_iff.2 ((nodup_pageFiles layout files).map (MountedFile.place_injective _))
  · rw [hfiles, hperm.length_eq, List.length_map]
  · rw [← hreaches.pages]
    exact catalog_rebuild site indexers previous s
  · obtain ⟨hends, -⟩ := tally_rebuild site indexer previous s
    rw [List.countP_eq_length_filter, hreaches.taken, List.length_map, ← hfiles [indexer] s]
      at hends
    exact hends.symm

end SiteIndex.Site
