import SiteIndex.Proofs.Page.Identity
import SiteIndex.Proofs.Site.Places

/-!
# What the files of a site are read as

A place is read through the file system of its home. Over files in memory there is one file behind
it, and what comes of taking it up follows from that file and from the stubs that are known
(`takeAt_of_file`). The origins of a site are what its shasums are made of.
-/

namespace SiteIndex.Site

open Files (File FileSystem MemoryFiles cleanPath contentShasum)
open Page (Home Origin Stub isLanguageTag normalizeTag normalizeUrl)

/-! ## Files behind places -/

/-- The bytes at a path below a home. -/
def bytesAt (site : Site) (home : Home) (path : String) : Option Bytes :=
  (site.filesAt home).bind fun files => (files.read path).toOption

/-- All names of files are clean paths. -/
def Clean (files : Nat → MemoryFiles) : Prop :=
  ∀ number path, path ∈ (files number).files.names → cleanPath path = path

/-- The file at a path below a home. -/
def Layout.fileAt? (layout : Layout) (files : Nat → MemoryFiles) (home : Home) (path : String) :
    Option File := do
  let mount ← layout.mounts[home.mount]?
  (files mount.2).files.get? (cleanPath
    (match home.dir with
    | some dir => cleanPath dir ++ "/" ++ cleanPath path
    | none => path))

/-- What a file system shows at a path is what comes of looking up one file. -/
structure Shows (fs : FileSystem) (path : String) (found : Outcome File) : Prop where
  read : fs.read path = found.map (·.bytes)
  shasum : fs.shasum path = found.map (contentShasum ·.bytes)
  created : fs.created path = found.map (·.created)
  modified : fs.modified path = found.map (·.modified)

/-- What comes of looking up a file in memory, without the failure. -/
theorem toOption_find (m : MemoryFiles) (path : String) :
    (m.find path).toOption = m.files.get? (cleanPath path) := by
  rw [MemoryFiles.find]
  cases m.files.get? (cleanPath path) <;> rfl

section Memory

variable {layout : Layout} {files : Nat → MemoryFiles} {home : Home} {path : String}

/-- The file systems of a site are its files in memory. -/
theorem filesAt_site : (layout.site files).filesAt home
    = (layout.mounts[home.mount]?).map fun mount =>
      match home.dir with
      | some dir => (files mount.2).view.under dir
      | none => (files mount.2).view := by
  unfold filesAt
  rw [show (layout.site files).mounts[home.mount]?
    = (layout.mounts[home.mount]?).map (fun mount => .at mount.1 (files mount.2).view) from
      List.getElem?_map]
  cases layout.mounts[home.mount]? with
  | none => rfl
  | some mount => cases home.dir <;> rfl

/-- Without a file system there is no file. -/
theorem fileAt?_eq_none (h : (layout.site files).filesAt home = none) :
    layout.fileAt? files home path = none := by
  rw [filesAt_site, Option.map_eq_none_iff] at h
  rw [Layout.fileAt?, h]
  rfl

/-- The file system of a home shows the files of the site. -/
theorem exists_shows {fs : FileSystem} (h : (layout.site files).filesAt home = some fs)
    (path : String) :
    ∃ found, Shows fs path found ∧ found.toOption = layout.fileAt? files home path := by
  rw [filesAt_site] at h
  obtain ⟨mount, hmount, rfl⟩ := Option.map_eq_some_iff.1 h
  rw [Layout.fileAt?, hmount]
  cases home.dir with
  | none =>
      exact ⟨(files mount.2).find path, ⟨rfl, rfl, rfl, rfl⟩, toOption_find _ _⟩
  | some dir =>
      exact ⟨(files mount.2).find (cleanPath dir ++ "/" ++ cleanPath path), ⟨rfl, rfl, rfl, rfl⟩,
        toOption_find _ _⟩

/-- A file of a site is shown at its home. -/
theorem shows_of_file {file : File} (h : layout.fileAt? files home path = some file) :
    ∃ fs, (layout.site files).filesAt home = some fs ∧ Shows fs path (.ok file) := by
  cases hfs : (layout.site files).filesAt home with
  | none =>
      rw [fileAt?_eq_none hfs] at h
      cases h
  | some fs =>
      obtain ⟨found, hshows, hfound⟩ := exists_shows hfs path
      rw [h] at hfound
      cases found with
      | error failure => cases hfound
      | ok other =>
          obtain rfl : other = file := Option.some.inj hfound
          exact ⟨fs, rfl, hshows⟩

/-- Where a site has no file, a failure is shown. -/
theorem shows_of_no_file (h : layout.fileAt? files home path = none) {fs : FileSystem}
    (hfs : (layout.site files).filesAt home = some fs) :
    ∃ failure, Shows fs path (.error failure) := by
  obtain ⟨found, hshows, hfound⟩ := exists_shows hfs path
  rw [h] at hfound
  cases found with
  | error failure => exact ⟨failure, hshows⟩
  | ok file => cases hfound

/-- The bytes at a path are those of the file. -/
theorem bytesAt_site :
    (layout.site files).bytesAt home path = (layout.fileAt? files home path).map (·.bytes) := by
  unfold bytesAt
  cases hfs : (layout.site files).filesAt home with
  | none =>
      rw [fileAt?_eq_none hfs]
      rfl
  | some fs =>
      obtain ⟨found, hshows, hfound⟩ := exists_shows hfs path
      rw [Option.bind_some, hshows.read, ← hfound]
      cases found <;> rfl

end Memory

/-! ## Pages of files -/

/-- The bytes are a text in UTF-8 whose frontmatter can be read. -/
def WellFormed (bytes : Bytes) : Prop :=
  ∃ raw split, Text.Utf8.decode? bytes = some raw ∧ Page.Frontmatter.split raw = .ok split

/-- The place at which a stub looks for its file. -/
def placeOf (stub : Stub) : Place := ⟨stub.home, stub.mount, stub.language, stub.source⟩

namespace Place

/-- What the shasum of a stub is made of if the file at the place has the bytes. -/
def origin (place : Place) (bytes : Bytes) : Origin :=
  ⟨place.mount, place.language, place.source, bytes⟩

/-- The stub of a shasum at the place. -/
def stub (place : Place) (shasum fallback : String) : Stub :=
  ⟨shasum, place.source, place.mount, place.language, fallback, place.home⟩

end Place

section Pages

variable {layout : Layout} {files : Nat → MemoryFiles} {stub : Stub} {place : Place} {file : File}
  {previous : NameMap Stub}

/-- Without a file there is no page. -/
theorem make?_of_no_file (h : layout.fileAt? files stub.home stub.source = none) :
    ∃ failure, (layout.site files).make? stub = .error failure := by
  unfold make?
  cases hfs : (layout.site files).filesAt stub.home with
  | none => exact ⟨_, rfl⟩
  | some fs =>
      obtain ⟨failure, hshows⟩ := shows_of_no_file h hfs
      refine ⟨failure, ?_⟩
      show Page.make stub fs _ = _
      rw [Page.make, hshows.read]
      rfl

/-- The page of a stub is made from the text of its file. -/
theorem make?_of_text (h : layout.fileAt? files stub.home stub.source = some file) {raw : String}
    (hraw : Text.Utf8.decode? file.bytes = some raw) :
    (layout.site files).make? stub = Page.assemble stub raw file.created file.modified
      (layout.formats.find? (Markup.formatOf stub.source)) := by
  obtain ⟨fs, hfs, hshows⟩ := shows_of_file h
  rw [make?, hfs]
  show Page.make stub fs _ = _
  rw [Page.make, hshows.read, hshows.created, hshows.modified]
  simp only [bind, Except.bind, Except.map, hraw]
  rfl

/-- A file that is no text makes no page. -/
theorem make?_of_no_text (h : layout.fileAt? files stub.home stub.source = some file)
    (hraw : Text.Utf8.decode? file.bytes = none) :
    ∃ failure, (layout.site files).make? stub = .error failure := by
  obtain ⟨fs, hfs, hshows⟩ := shows_of_file h
  refine ⟨.notUtf8 fs.name stub.source, ?_⟩
  rw [make?, hfs]
  show Page.make stub fs _ = _
  rw [Page.make, hshows.read]
  simp only [bind, Except.bind, Except.map, hraw]
  rfl

/-- A file that makes a page is a text, of which the page is made. -/
theorem exists_text_of_make? {page : Page}
    (h : layout.fileAt? files stub.home stub.source = some file)
    (hmake : (layout.site files).make? stub = .ok page) :
    ∃ raw, Text.Utf8.decode? file.bytes = some raw ∧
      Page.assemble stub raw file.created file.modified
        (layout.formats.find? (Markup.formatOf stub.source)) = .ok page := by
  cases hraw : Text.Utf8.decode? file.bytes with
  | none =>
      obtain ⟨failure, hfails⟩ := make?_of_no_text h hraw
      cases hmake.symm.trans hfails
  | some raw => exact ⟨raw, rfl, (make?_of_text h hraw).symm.trans hmake⟩

/-- A text makes a page if its frontmatter can be read. -/
theorem exists_assemble_iff {raw : String} {created modified : Time.Instant}
    {format : Option Markup.Format} :
    (∃ page, Page.assemble stub raw created modified format = .ok page) ↔
      ∃ split, Page.Frontmatter.split raw = .ok split := by
  unfold Page.assemble
  cases Page.Frontmatter.split raw with
  | error failure => exact ⟨nofun, nofun⟩
  | ok split => exact ⟨fun _ => ⟨split, rfl⟩, fun _ => ⟨_, rfl⟩⟩

/-- A stub has a page if its file is there and is well formed. -/
theorem exists_make?_iff : (∃ page, (layout.site files).make? stub = .ok page) ↔
    ∃ file, layout.fileAt? files stub.home stub.source = some file ∧ WellFormed file.bytes := by
  cases hfile : layout.fileAt? files stub.home stub.source with
  | none =>
      obtain ⟨failure, hmake⟩ := make?_of_no_file hfile
      rw [hmake]
      exact ⟨nofun, nofun⟩
  | some file =>
      have hsome : (∃ other, some file = some other ∧ WellFormed other.bytes) ↔
          WellFormed file.bytes := by simp
      rw [hsome]
      cases hraw : Text.Utf8.decode? file.bytes with
      | none =>
          obtain ⟨failure, hmake⟩ := make?_of_no_text hfile hraw
          rw [hmake]
          simp [WellFormed, hraw]
      | some raw =>
          rw [make?_of_text hfile hraw, exists_assemble_iff]
          simp [WellFormed, hraw]

/-- Where there is no file, nothing is taken up. -/
theorem takeAt_of_no_file (previous : NameMap Stub)
    (h : layout.fileAt? files place.home place.source = none) :
    ∃ failure, (layout.site files).takeAt previous place = .error failure := by
  unfold takeAt
  cases hfs : (layout.site files).filesAt place.home with
  | none => exact ⟨_, rfl⟩
  | some fs =>
      obtain ⟨failure, hshows⟩ := shows_of_no_file h hfs
      refine ⟨failure, ?_⟩
      dsimp only
      rw [Stub.ofFile, hshows.shasum]
      rfl

/-- The stub that stands for the bytes at a place: the one that is known for their shasum, or else
one with this place. -/
def Layout.stubAt (layout : Layout) (previous : NameMap Stub) (place : Place) (bytes : Bytes) :
    Stub :=
  (previous.get? (place.origin bytes).shasum).getD
    (place.stub (place.origin bytes).shasum (normalizeTag layout.defaultLanguage))

/-- The page that is taken up at a place is that of the stub of its file. -/
theorem takeAt_of_file (h : layout.fileAt? files place.home place.source = some file) :
    (layout.site files).takeAt previous place
      = ((layout.site files).make? (layout.stubAt previous place file.bytes)).map
          fun page => (layout.stubAt previous place file.bytes, page) := by
  obtain ⟨fs, hfs, hshows⟩ := shows_of_file h
  rw [takeAt, hfs]
  dsimp only
  rw [Stub.ofFile, hshows.shasum]
  rfl

/-- What is taken up at a place is a stub for the bytes of a file with the page that it makes. -/
theorem takeAt_eq_ok_iff {page : Page} :
    (layout.site files).takeAt previous place = .ok (stub, page) ↔
      ∃ file, layout.fileAt? files place.home place.source = some file ∧
        stub = layout.stubAt previous place file.bytes ∧
        (layout.site files).make? stub = .ok page := by
  cases hfile : layout.fileAt? files place.home place.source with
  | none =>
      obtain ⟨failure, htake⟩ := takeAt_of_no_file previous hfile
      rw [htake]
      exact ⟨nofun, nofun⟩
  | some file =>
      rw [takeAt_of_file hfile]
      constructor
      · intro h
        cases hmake : (layout.site files).make? (layout.stubAt previous place file.bytes) with
        | error failure =>
            rw [hmake] at h
            cases h
        | ok made =>
            rw [hmake] at h
            obtain ⟨rfl, rfl⟩ := Prod.mk.inj (Except.ok.inj h)
            exact ⟨file, rfl, rfl, hmake⟩
      · rintro ⟨other, hother, rfl, hmake⟩
        obtain rfl := Option.some.inj hother
        rw [hmake]
        rfl

end Pages

/-! ## The places of a site -/

/-- A place at which a site may have a page. -/
def Layout.IsPlace (layout : Layout) (place : Place) : Prop :=
  ∃ (file : MountedFile) (mount : String × Nat), layout.mounts[file.number]? = some mount ∧
    file.point = normalizeUrl mount.1 ∧ cleanPath file.path = file.path ∧
    knows layout.formats file.path = true ∧
    place = file.place (normalizeTag layout.defaultLanguage)

/-- The language of the pages in a home. -/
def languageOf (defaultLanguage : String) (home : Home) : String :=
  match home.dir with
  | some dir => normalizeTag dir
  | none => defaultLanguage

section Places

variable {layout : Layout} {files : Nat → MemoryFiles} {file : MountedFile} {mount : String × Nat}
  {place place' : Place} {defaultLanguage : String}

/-- The home of a place is in the mount of the file. -/
theorem mount_place : (file.place defaultLanguage).home.mount = file.number := by
  unfold MountedFile.place
  cases languageDir? file.path <;> rfl

/-- A place is at the point of the mount. -/
theorem point_place : (file.place defaultLanguage).mount = file.point := by
  unfold MountedFile.place
  cases languageDir? file.path <;> rfl

/-- The language of a place is that of its home. -/
theorem language_place : (file.place defaultLanguage).language
    = languageOf defaultLanguage (file.place defaultLanguage).home := by
  unfold MountedFile.place
  cases languageDir? file.path <;> rfl

/-- A home is at one point and in one language. -/
theorem Layout.IsPlace.same_home (h : layout.IsPlace place) (h' : layout.IsPlace place')
    (hhome : place.home = place'.home) :
    place.mount = place'.mount ∧ place.language = place'.language := by
  obtain ⟨file, mount, hmount, hpoint, -, -, rfl⟩ := h
  obtain ⟨file', mount', hmount', hpoint', -, -, rfl⟩ := h'
  constructor
  · have hnumber := congrArg Home.mount hhome
    rw [mount_place, mount_place] at hnumber
    rw [hnumber, hmount'] at hmount
    rw [point_place, point_place, hpoint, hpoint', Option.some.inj hmount]
  · rw [language_place, language_place, hhome]

/-- The file at the place of a file is this one. -/
theorem fileAt?_place (hmount : layout.mounts[file.number]? = some mount)
    (hclean : cleanPath file.path = file.path) :
    layout.fileAt? files (file.place defaultLanguage).home (file.place defaultLanguage).source
      = (files mount.2).files.get? file.path := by
  rw [Layout.fileAt?, mount_place, hmount]
  show (files mount.2).files.get? (cleanPath _) = _
  unfold MountedFile.place
  cases hdir : languageDir? file.path with
  | none =>
      dsimp only
      rw [hclean]
  | some parts =>
      obtain ⟨dir, rest⟩ := parts
      obtain ⟨hpath, htag⟩ := languageDir?_eq_some_iff.1 hdir
      have hpart := Page.isPart_of_isLanguageTag htag
      have hrest : cleanPath rest = rest := by
        rw [hpath] at hclean
        exact Files.cleanPath_of_append hclean hpart.no_slash
      dsimp only
      rw [hpart.cleanPath_eq, hrest, ← hpath, hclean]

/-- The files of a site are those of its mounts. -/
theorem mem_pageFiles_iff : file ∈ layout.pageFiles files ↔
    ∃ mount, layout.mounts[file.number]? = some mount ∧ file.point = normalizeUrl mount.1 ∧
      file.path ∈ (files mount.2).files.names ∧ knows layout.formats file.path = true := by
  unfold Layout.pageFiles
  rw [List.mem_flatMap]
  constructor
  · rintro ⟨⟨mount, number⟩, hmount, hfile⟩
    obtain ⟨path, hpath, rfl⟩ := List.mem_map.1 hfile
    obtain ⟨hname, hknown⟩ := List.mem_filter.1 hpath
    exact ⟨mount, List.mem_zipIdx_iff_getElem?.1 hmount, rfl, hname, hknown⟩
  · rintro ⟨mount, hmount, hpoint, hname, hknown⟩
    refine ⟨(mount, file.number), List.mem_zipIdx_iff_getElem?.2 hmount, ?_⟩
    exact List.mem_map.2 ⟨file.path, List.mem_filter.2 ⟨hname, hknown⟩, by rw [← hpoint]⟩

/-- A rebuild takes up the places at which there is a file. -/
theorem mem_places_iff (hclean : Clean files) : place ∈ (layout.site files).places ↔
    layout.IsPlace place ∧ ∃ file, layout.fileAt? files place.home place.source = some file := by
  rw [(places_perm layout files).mem_iff, List.mem_map]
  constructor
  · rintro ⟨file, hfile, rfl⟩
    obtain ⟨mount, hmount, hpoint, hname, hknown⟩ := mem_pageFiles_iff.1 hfile
    have hpath := hclean mount.2 file.path hname
    refine ⟨⟨file, mount, hmount, hpoint, hpath, hknown, rfl⟩, ?_⟩
    rw [fileAt?_place hmount hpath]
    exact Option.isSome_iff_exists.1 (NameMap.mem_names_iff.1 hname)
  · rintro ⟨⟨file, mount, hmount, hpoint, hpath, hknown, rfl⟩, content, hcontent⟩
    rw [fileAt?_place hmount hpath] at hcontent
    refine ⟨file, mem_pageFiles_iff.2 ⟨mount, hmount, hpoint, ?_, hknown⟩, rfl⟩
    exact NameMap.mem_names_iff.2 (Option.isSome_iff_exists.2 ⟨content, hcontent⟩)

end Places

/-! ## Origins -/

/-- What the shasums of a site are made of. -/
def origins (site : Site) : List Origin :=
  site.places.filterMap fun place =>
    (site.bytesAt place.home place.source).map place.origin

/-- The origins of a site are those of its files. -/
theorem mem_origins_iff {layout : Layout} {files : Nat → MemoryFiles} (hclean : Clean files)
    {o : Origin} : o ∈ (layout.site files).origins ↔
      ∃ place file, layout.IsPlace place ∧
        layout.fileAt? files place.home place.source = some file ∧ o = place.origin file.bytes := by
  rw [origins, List.mem_filterMap]
  simp only [mem_places_iff hclean, bytesAt_site]
  constructor
  · rintro ⟨place, ⟨hplace, file, hfile⟩, ho⟩
    rw [hfile] at ho
    exact ⟨place, file, hplace, hfile, (Option.some.inj ho).symm⟩
  · rintro ⟨place, file, hplace, hfile, rfl⟩
    exact ⟨place, ⟨hplace, file, hfile⟩, by rw [hfile]; rfl⟩

end SiteIndex.Site
