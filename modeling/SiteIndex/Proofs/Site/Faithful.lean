import SiteIndex.Proofs.Files.Overlay
import SiteIndex.Proofs.Site.Origins
import SiteIndex.Proofs.Site.Slots

/-!
# Which stubs a rebuild gets right

A rebuild keeps a stub that the last one knew, together with the home in which it was found then.
Where one shasum can be found in several homes, such as a mount and its directory of the default
language, the stub may so be read in a home whose file has changed since. This is the only way in
which a page is lost or a stub stands for other content than its own (`rebuild_faithful`).
-/

namespace SiteIndex.Site

open Files (File MemoryFiles cleanPath)
open Page (Home Origin Stub normalizeTag)

/-- The file that a stub reads has the content that its shasum was made of. -/
def Faithful (site : Site) (stub : Stub) : Prop :=
  ∃ bytes, site.bytesAt stub.home stub.source = some bytes ∧
    ((placeOf stub).origin bytes).shasum = stub.shasum

/-- The files and the catalog of a site after edits and rebuilds, whoever indexes it, with all
origins that the rebuilds have hashed. -/
inductive Reached (layout : Layout) : (Nat → MemoryFiles) → Catalog → List Origin → Prop where
  | start {files : Nat → MemoryFiles} : Clean files → Reached layout files {} []
  | write {files : Nat → MemoryFiles} {c : Catalog} {seen : List Origin} (number : Nat)
      (path : String) (file : File) : Reached layout files c seen →
      Reached layout (Function.update files number ((files number).write path file)) c seen
  | remove {files : Nat → MemoryFiles} {c : Catalog} {seen : List Origin} (number : Nat)
      (path : String) : Reached layout files c seen →
      Reached layout (Function.update files number ((files number).remove path).2) c seen
  | rebuild {files : Nat → MemoryFiles} {c : Catalog} {seen : List Origin} {σ : Type}
      (indexers : List (Indexer σ)) (s : σ) : Reached layout files c seen →
      Reached layout files (((layout.site files).rebuild indexers c).run s).run.1.2
        (seen ++ (layout.site files).origins)

/-! ## Clean names -/

section Clean

variable {files : Nat → MemoryFiles}

/-- Names stay clean if those of the files that change are clean. -/
theorem Clean.update (h : Clean files) (number : Nat) {m : MemoryFiles} (hm : m.IsClean) :
    Clean (Function.update files number m) := by
  intro other
  by_cases hother : other = number
  · rw [hother, Function.update_self]
    exact hm
  · rw [Function.update_of_ne hother]
    exact h other

/-- A file is written under a clean path. -/
theorem Clean.write (h : Clean files) (number : Nat) (path : String) (file : File) :
    Clean (Function.update files number ((files number).write path file)) :=
  h.update number (MemoryFiles.IsClean.write (h number) path file)

/-- The files that are left have the names that they had. -/
theorem Clean.remove (h : Clean files) (number : Nat) (path : String) :
    Clean (Function.update files number ((files number).remove path).2) :=
  h.update number (MemoryFiles.IsClean.remove (h number) path)

end Clean

/-! ## Stubs of earlier times -/

/-- The stub was derived from an origin that has been seen, at a place of the site. -/
structure Layout.Derives (layout : Layout) (seen : List Origin) (stub : Stub) : Prop where
  place : layout.IsPlace (placeOf stub)
  origin : ∃ bytes, (placeOf stub).origin bytes ∈ seen ∧
    ((placeOf stub).origin bytes).shasum = stub.shasum

/-- The stubs of a catalog stand under their shasums and were derived from origins that have been
seen. -/
structure Settled (layout : Layout) (seen : List Origin) (c : Catalog) : Prop where
  keyed : ∀ shasum stub, c.stubs.get? shasum = some stub → stub.shasum = shasum
  derives : ∀ shasum stub, c.stubs.get? shasum = some stub → layout.Derives seen stub

/-- A stub of a catalog is one of those for which pages were made. -/
theorem Catalog.exists_page_of_ofPages {pages : List (Stub × Page)} {shasum : String} {stub : Stub}
    (h : (ofPages pages).stubs.get? shasum = some stub) : ∃ page, (stub, page) ∈ pages := by
  have hslot : (ofPages pages).at? (.shasum shasum) = some stub := h
  obtain ⟨page, hpage, -⟩ := exists_page_of_at? hslot
  exact ⟨page, hpage⟩

section Stubs

variable {layout : Layout} {files : Nat → MemoryFiles} {previous : Catalog} {seen : List Origin}
  {place : Place} {file : File}

/-- The stub for some bytes has their shasum. -/
theorem Settled.shasum_stubAt (h : Settled layout seen previous) (place : Place) (bytes : Bytes) :
    (layout.stubAt previous.stubs place bytes).shasum = (place.origin bytes).shasum := by
  unfold Layout.stubAt
  cases hknown : previous.stubs.get? (place.origin bytes).shasum with
  | none => rfl
  | some known => exact h.keyed _ known hknown

/-- A stub that is not known is read at its place. -/
theorem faithful_of_unknown (hfile : layout.fileAt? files place.home place.source = some file)
    (hunknown : previous.stubs.get? (place.origin file.bytes).shasum = none) :
    Faithful (layout.site files) (layout.stubAt previous.stubs place file.bytes) := by
  rw [Layout.stubAt, hunknown]
  refine ⟨file.bytes, ?_, rfl⟩
  show (layout.site files).bytesAt place.home place.source = _
  rw [bytesAt_site, hfile]
  rfl

/-- A stub that was known in the home of its place is read at this place. -/
theorem Settled.faithful_of_home (h : Settled layout seen previous) (hplace : layout.IsPlace place)
    (hfile : layout.fileAt? files place.home place.source = some file)
    (horigin : place.origin file.bytes ∈ (layout.site files).origins)
    (hapart : Origin.Collisionless (seen ++ (layout.site files).origins)) {known : Stub}
    (hknown : previous.stubs.get? (place.origin file.bytes).shasum = some known)
    (hhome : known.home = place.home) : Faithful (layout.site files) known := by
  obtain ⟨hisPlace, bytes, hseen, hshasum⟩ := h.derives _ known hknown
  have hkeyed := h.keyed _ known hknown
  obtain ⟨hmount, hlanguage⟩ := hisPlace.same_home hplace hhome
  have hsource : known.source = place.source :=
    Origin.source_eq hapart (List.mem_append_left _ hseen) (List.mem_append_right _ horigin)
      (hshasum.trans hkeyed) hmount hlanguage
  have heq : placeOf known = place := Place.ext hhome hmount hlanguage hsource
  refine ⟨file.bytes, ?_, ?_⟩
  · rw [hhome, hsource, bytesAt_site, hfile]
    rfl
  · rw [heq, hkeyed]

/-- A faithful stub for the bytes of a file makes a page if the file does. -/
theorem exists_make?_of_faithful (hclean : Clean files) {stub : Stub}
    (hplace : layout.IsPlace (placeOf stub)) (hfaithful : Faithful (layout.site files) stub)
    (horigin : place.origin file.bytes ∈ (layout.site files).origins)
    (hshasum : stub.shasum = (place.origin file.bytes).shasum)
    (hapart : Origin.Collisionless (seen ++ (layout.site files).origins))
    (hgood : WellFormed file.bytes) : ∃ page, (layout.site files).make? stub = .ok page := by
  obtain ⟨bytes, hbytes, hsame⟩ := hfaithful
  rw [bytesAt_site] at hbytes
  obtain ⟨other, hother, rfl⟩ := Option.map_eq_some_iff.1 hbytes
  have hread : (placeOf stub).origin other.bytes ∈ (layout.site files).origins :=
    (mem_origins_iff hclean).2 ⟨placeOf stub, other, hplace, hother, rfl⟩
  have heq : other.bytes = file.bytes :=
    Origin.bytes_eq hapart (List.mem_append_right _ hread) (List.mem_append_right _ horigin)
      (hsame.trans hshasum)
  exact exists_make?_iff.2 ⟨other, hother, heq ▸ hgood⟩

/-- The stub for the bytes of a file was derived from an origin that has been seen. -/
theorem Settled.derives_stubAt (h : Settled layout seen previous) (hplace : layout.IsPlace place)
    (horigin : place.origin file.bytes ∈ (layout.site files).origins) :
    layout.Derives (seen ++ (layout.site files).origins)
      (layout.stubAt previous.stubs place file.bytes) := by
  unfold Layout.stubAt
  cases hknown : previous.stubs.get? (place.origin file.bytes).shasum with
  | none => exact ⟨hplace, file.bytes, List.mem_append_right _ horigin, rfl⟩
  | some known =>
      obtain ⟨hisPlace, bytes, hseen, hshasum⟩ := h.derives _ known hknown
      exact ⟨hisPlace, bytes, List.mem_append_left _ hseen, hshasum⟩

end Stubs

/-! ## From rebuild to rebuild -/

section Rebuilds

variable {layout : Layout} {files : Nat → MemoryFiles} {previous : Catalog} {seen : List Origin}
  {σ : Type} {indexers : List (Indexer σ)} {s : σ} {shasum : String} {stub : Stub}

/-- The pages that a rebuild makes are those of the stubs for the bytes of its files. -/
theorem mem_made_iff (hclean : Clean files) {page : Page} :
    (stub, page) ∈ (layout.site files).made previous.stubs ↔
      ∃ place file, layout.IsPlace place ∧
        layout.fileAt? files place.home place.source = some file ∧
        stub = layout.stubAt previous.stubs place file.bytes ∧
        (layout.site files).make? stub = .ok page := by
  rw [made, (reaches_site layout files previous.stubs).pages, List.mem_filterMap]
  simp only [mem_places_iff hclean]
  constructor
  · rintro ⟨place, ⟨hplace, -⟩, htake⟩
    cases hresult : (layout.site files).takeAt previous.stubs place with
    | error failure =>
        rw [hresult] at htake
        cases htake
    | ok entry =>
        rw [hresult] at htake
        obtain rfl : entry = (stub, page) := Option.some.inj htake
        obtain ⟨file, hfile, hstub, hmake⟩ := takeAt_eq_ok_iff.1 hresult
        exact ⟨place, file, hplace, hfile, hstub, hmake⟩
  · rintro ⟨place, file, hplace, hfile, hstub, hmake⟩
    refine ⟨place, ⟨hplace, file, hfile⟩, ?_⟩
    rw [takeAt_eq_ok_iff.2 ⟨file, hfile, hstub, hmake⟩]
    rfl

/-- A stub of the catalog after a rebuild is the one for the bytes of a file. -/
theorem exists_place_of_rebuild (hclean : Clean files)
    (h : (((layout.site files).rebuild indexers previous).run s).run.1.2.stubs.get? shasum
      = some stub) :
    stub.shasum = shasum ∧ ∃ place file, layout.IsPlace place ∧
      layout.fileAt? files place.home place.source = some file ∧
      stub = layout.stubAt previous.stubs place file.bytes := by
  rw [catalog_rebuild] at h
  refine ⟨Catalog.shasum_ofPages h, ?_⟩
  obtain ⟨page, hpage⟩ := Catalog.exists_page_of_ofPages h
  obtain ⟨place, file, hplace, hfile, hstub, -⟩ := (mem_made_iff hclean).1 hpage
  exact ⟨place, file, hplace, hfile, hstub⟩

/-- A rebuild leaves a catalog of stubs that were derived from what has been seen. -/
theorem Settled.rebuild (h : Settled layout seen previous) (hclean : Clean files) :
    Settled layout (seen ++ (layout.site files).origins)
      (((layout.site files).rebuild indexers previous).run s).run.1.2 := by
  constructor
  · intro shasum stub hstub
    exact (exists_place_of_rebuild hclean hstub).1
  · intro shasum stub hstub
    obtain ⟨-, place, file, hplace, hfile, rfl⟩ := exists_place_of_rebuild hclean hstub
    exact h.derives_stubAt hplace ((mem_origins_iff hclean).2 ⟨place, file, hplace, hfile, rfl⟩)

/-- Edits and rebuilds leave files under clean paths and a settled catalog. -/
theorem Reached.settled {c : Catalog} (h : Reached layout files c seen) :
    Clean files ∧ Settled layout seen c := by
  induction h with
  | start hclean => exact ⟨hclean, nofun, nofun⟩
  | write number path file _ ih => exact ⟨ih.1.write number path file, ih.2⟩
  | remove number path _ ih => exact ⟨ih.1.remove number path, ih.2⟩
  | rebuild indexers s _ ih => exact ⟨ih.1, ih.2.rebuild ih.1⟩

/-- A stub of the catalog after a rebuild is faithful, or it was known and is in no home in which
its shasum is found. -/
theorem Settled.faithful_or_kept (h : Settled layout seen previous) (hclean : Clean files)
    (hapart : Origin.Collisionless (seen ++ (layout.site files).origins))
    (hstub : (((layout.site files).rebuild indexers previous).run s).run.1.2.stubs.get? shasum
      = some stub) :
    Faithful (layout.site files) stub ∨ previous.stubs.get? shasum = some stub ∧
      ∀ place file, layout.IsPlace place →
        layout.fileAt? files place.home place.source = some file →
        (place.origin file.bytes).shasum = shasum → place.home ≠ stub.home := by
  obtain ⟨hshasum, place, file, hplace, hfile, rfl⟩ := exists_place_of_rebuild hclean hstub
  rw [h.shasum_stubAt] at hshasum
  cases hknown : previous.stubs.get? (place.origin file.bytes).shasum with
  | none => exact .inl (faithful_of_unknown hfile hknown)
  | some known =>
      rw [Layout.stubAt, hknown, Option.getD_some]
      by_cases hhome : ∃ place' file', layout.IsPlace place' ∧
          layout.fileAt? files place'.home place'.source = some file' ∧
          (place'.origin file'.bytes).shasum = shasum ∧ place'.home = known.home
      case pos =>
        obtain ⟨place', file', hplace', hfile', hsame, hhome⟩ := hhome
        have horigin := (mem_origins_iff hclean).2 ⟨place', file', hplace', hfile', rfl⟩
        refine .inl (h.faithful_of_home hplace' hfile' horigin hapart ?_ hhome.symm)
        rw [hsame, ← hshasum, hknown]
      case neg =>
        refine .inr ⟨hshasum ▸ hknown, fun place' file' hplace' hfile' hsame heq => hhome ?_⟩
        exact ⟨place', file', hplace', hfile', hsame, heq⟩

/-- If a shasum was not known, or known in the home of a file that has it, or to a stub that is
faithful still, all files that have it are given faithful stubs. -/
theorem Settled.faithful_stubAt (h : Settled layout seen previous) (hclean : Clean files)
    (hapart : Origin.Collisionless (seen ++ (layout.site files).origins)) {place : Place}
    {file : File} (hplace : layout.IsPlace place)
    (hfile : layout.fileAt? files place.home place.source = some file)
    (hall : ∀ known, previous.stubs.get? (place.origin file.bytes).shasum = some known →
      known.home = place.home ∨ Faithful (layout.site files) known) {place' : Place} {file' : File}
    (hfile' : layout.fileAt? files place'.home place'.source = some file')
    (hsame : (place'.origin file'.bytes).shasum = (place.origin file.bytes).shasum) :
    Faithful (layout.site files) (layout.stubAt previous.stubs place' file'.bytes) := by
  cases hknown : previous.stubs.get? (place.origin file.bytes).shasum with
  | none => exact faithful_of_unknown hfile' (hsame ▸ hknown)
  | some known =>
      rw [Layout.stubAt, hsame, hknown, Option.getD_some]
      rcases hall known hknown with hhome | hfaithful
      · have horigin := (mem_origins_iff hclean).2 ⟨place, file, hplace, hfile, rfl⟩
        exact h.faithful_of_home hplace hfile horigin hapart hknown hhome
      · exact hfaithful

/-- A well-formed file has a faithful stub after a rebuild if its shasum was not known, or known in
its own home, or to a stub that is faithful still. -/
theorem Settled.exists_faithful_iff (h : Settled layout seen previous) (hclean : Clean files)
    (hapart : Origin.Collisionless (seen ++ (layout.site files).origins)) {place : Place}
    {file : File} (hplace : layout.IsPlace place)
    (hfile : layout.fileAt? files place.home place.source = some file)
    (hgood : WellFormed file.bytes) :
    (∃ stub, (((layout.site files).rebuild indexers previous).run s).run.1.2.stubs.get?
        (place.origin file.bytes).shasum = some stub ∧ Faithful (layout.site files) stub) ↔
      ∀ known, previous.stubs.get? (place.origin file.bytes).shasum = some known →
        known.home = place.home ∨ Faithful (layout.site files) known := by
  have horigin := (mem_origins_iff hclean).2 ⟨place, file, hplace, hfile, rfl⟩
  constructor
  · rintro ⟨stub, hstub, hfaithful⟩ known hknown
    obtain ⟨hshasum, place', file', -, -, rfl⟩ := exists_place_of_rebuild hclean hstub
    rw [h.shasum_stubAt] at hshasum
    rw [Layout.stubAt, hshasum, hknown] at hfaithful
    exact .inr hfaithful
  · intro hall
    have hshasum := h.shasum_stubAt place file.bytes
    obtain ⟨page, hmake⟩ := exists_make?_of_faithful hclean (h.derives_stubAt hplace horigin).place
      (h.faithful_stubAt hclean hapart hplace hfile hall hfile rfl) horigin hshasum hapart hgood
    have hfirst : firstOf ((layout.site files).made previous.stubs)
        (place.origin file.bytes).shasum ≠ none :=
      firstOf_ne_none.2
        ⟨_, (mem_made_iff hclean).2 ⟨place, file, hplace, hfile, rfl, hmake⟩, hshasum⟩
    rw [← Catalog.contains_ofPages, ← catalog_rebuild _ indexers previous s] at hfirst
    obtain ⟨stub, hstub⟩ := Option.isSome_iff_exists.1 hfirst
    refine ⟨stub, hstub, ?_⟩
    obtain ⟨hsame, place', file', -, hfile', rfl⟩ := exists_place_of_rebuild hclean hstub
    rw [h.shasum_stubAt] at hsame
    exact h.faithful_stubAt hclean hapart hplace hfile hall hfile' hsame

end Rebuilds

/-- After a rebuild, the page of a well-formed file is in the catalog with a stub that stands for
its content, unless its shasum was known in another home and stands for other content there now;
and a stub of the catalog stands for its content unless it was kept from another home than those
in which its shasum is found. -/
theorem rebuild_faithful {layout : Layout} {files : Nat → MemoryFiles} {previous : Catalog}
    {seen : List Origin} (hreached : Reached layout files previous seen)
    (hapart : Origin.Collisionless (seen ++ (layout.site files).origins)) {σ : Type}
    (indexers : List (Indexer σ)) (s : σ) :
    let site := layout.site files
    let next := ((site.rebuild indexers previous).run s).run.1.2
    (∀ file ∈ layout.pageFiles files, ∀ mount content,
        layout.mounts[file.number]? = some mount →
        (files mount.2).files.get? file.path = some content → WellFormed content.bytes →
        let place := file.place site.defaultLanguage
        let shasum := (place.origin content.bytes).shasum
        (∃ stub, next.stubs.get? shasum = some stub ∧ Faithful site stub) ↔
          ∀ known, previous.stubs.get? shasum = some known →
            known.home = place.home ∨ Faithful site known) ∧
      ∀ shasum stub, next.stubs.get? shasum = some stub →
        Faithful site stub ∨ previous.stubs.get? shasum = some stub ∧
          ∀ place ∈ site.places, ∀ bytes, site.bytesAt place.home place.source = some bytes →
            (place.origin bytes).shasum = shasum → place.home ≠ stub.home := by
  intro site next
  obtain ⟨hclean, hsettled⟩ := hreached.settled
  constructor
  · intro file hfile mount content hmount hcontent hgood place shasum
    obtain ⟨mount', hmount', hpoint, hname, hknown⟩ := mem_pageFiles_iff.1 hfile
    obtain rfl := Option.some.inj (hmount.symm.trans hmount')
    have hpath := hclean mount.2 file.path hname
    have hplace : layout.IsPlace place := ⟨file, mount, hmount, hpoint, hpath, hknown, rfl⟩
    exact hsettled.exists_faithful_iff hclean hapart hplace
      ((fileAt?_place hmount hpath).trans hcontent) hgood
  · intro shasum stub hstub
    refine (hsettled.faithful_or_kept hclean hapart hstub).imp_right fun ⟨hknown, hothers⟩ => ?_
    refine ⟨hknown, fun place hplace bytes hbytes hsame => ?_⟩
    rw [bytesAt_site] at hbytes
    obtain ⟨file, hfile, rfl⟩ := Option.map_eq_some_iff.1 hbytes
    exact hothers place file ((mem_places_iff hclean).1 hplace).1 hfile hsame

/-! ## A shasum that is found twice -/

/-- Two file systems at one point. -/
def twinLayout : Layout := { mounts := [("/", 0), ("/", 1)], defaultLanguage := "en" }

/-- The same file is in both. -/
def twins : Nat → MemoryFiles := fun _ => MemoryFiles.write { name := "site" } "a.txt" (emptyFile 0)

/-- The catalog of both files: the stub that they share is found in the second file system. -/
def twinCatalog : Catalog :=
  (((twinLayout.site twins).rebuild ([] : List (Indexer Unit)) {}).run ()).run.1.2

/-- The file is taken away from the second file system. -/
def widowed : Nat → MemoryFiles := Function.update twins 1 ((twins 1).remove "a.txt").2

/-- What the shasum of the files is made of. -/
def twinOrigin : Origin := ⟨"/", "en", "a.txt", []⟩

/-- The file that is left is not in the catalog any more after the next rebuild. -/
theorem rebuild_faithful_widowed :
    let site := twinLayout.site widowed
    let next := ((site.rebuild ([] : List (Indexer Unit)) twinCatalog).run ()).run.1.2
    ⟨0, "/", "a.txt"⟩ ∈ twinLayout.pageFiles widowed ∧ WellFormed [] ∧
      ¬ ∃ stub, next.stubs.get? twinOrigin.shasum = some stub ∧ Faithful site stub := by
  intro site next
  have hclean : Clean twins := by
    intro _ name hname
    obtain rfl := List.mem_singleton.1 hname
    decide
  have hreached : Reached twinLayout widowed twinCatalog ([] ++ (twinLayout.site twins).origins) :=
    ((Reached.start hclean).rebuild ([] : List (Indexer Unit)) ()).remove 1 "a.txt"
  have horigins : ∀ o ∈ ([] ++ (twinLayout.site twins).origins) ++ site.origins,
      o = twinOrigin := by decide +kernel
  have hapart : Origin.Collisionless
      (([] ++ (twinLayout.site twins).origins) ++ site.origins) :=
    Origin.collisionless_of_forall_eq horigins (by decide +kernel)
  obtain ⟨hcomplete, -⟩ := rebuild_faithful hreached hapart ([] : List (Indexer Unit)) ()
  have hfile : ⟨0, "/", "a.txt"⟩ ∈ twinLayout.pageFiles widowed :=
    mem_pageFiles_iff.2 ⟨("/", 0), rfl, by decide, by decide, by decide⟩
  have hgood : WellFormed [] := ⟨"", _, by decide +kernel, rfl⟩
  have hcontent : (widowed 0).files.get? "a.txt" = some (emptyFile 0) := by
    rw [widowed, Function.update_of_ne (by decide)]
    exact NameMap.get?_insert.trans (if_pos (by decide))
  have hiff := hcomplete _ hfile ("/", 0) (emptyFile 0) rfl hcontent hgood
  have hplace : MountedFile.place (twinLayout.site widowed).defaultLanguage ⟨0, "/", "a.txt"⟩
      = ⟨{ mount := 0 }, "/", "en", "a.txt"⟩ := by decide +kernel
  rw [hplace] at hiff
  refine ⟨hfile, hgood, fun hfound => ?_⟩
  have hknown :
      (twinCatalog.stubs.get? twinOrigin.shasum).map (fun stub => (stub.home, stub.source))
      = some ({ mount := 1 }, "a.txt") := by decide +kernel
  obtain ⟨known, hknown, hwhere⟩ := Option.map_eq_some_iff.1 hknown
  obtain ⟨hhome, hsource⟩ := Prod.mk.inj hwhere
  have hlost : site.bytesAt { mount := 1 } "a.txt" = none := by decide +kernel
  rcases hiff.1 hfound known hknown with hsame | ⟨bytes, hbytes, -⟩
  · rw [hhome] at hsame
    exact absurd hsame (by decide)
  · rw [hhome, hsource, hlost] at hbytes
    cases hbytes

end SiteIndex.Site
