import Mathlib.Data.List.Basic
import Mathlib.Data.List.Induction
import SiteIndex.Files.Memory
import SiteIndex.Proofs.Files.Path
import SiteIndex.Proofs.NameMap
import SiteIndex.Proofs.Outcome

/-!
# Directories as file systems of their own

The view of a directory strips the directory from the paths that it lists and puts it before those
that it is asked for, and views may be stacked. Whatever they are views of, a stack of them asks for
paths behind the parts of all its directories (`exists_asks`) and lists what is left of the paths
below these (`list_stack`). Over files in memory it shows the files below the joined directory and
no others (`stack_eq_below`).
-/

namespace SiteIndex

/-! ## Entries behind a text -/

/-- Texts that go on from one text are in the order of what follows it. -/
theorem lt_of_append_lt {front a b : String} (h : front ++ a < front ++ b) : a < b := by
  rw [String.lt_iff, String.toList_append, String.toList_append] at h
  rw [String.lt_iff]
  generalize front.toList = cs at h
  induction cs with
  | nil => exact h
  | cons c rest ih => exact ih (List.cons_lt_cons_self.1 h)

namespace NameMap

variable {β : Type}

/-- The entries whose names start with a text, under what follows it. -/
def behind (front : String) (m : NameMap β) : NameMap β where
  entries := m.entries.filterMap fun e => (Files.dropFront? front e.1).map (·, e.2)
  ascending := by
    refine m.ascending.filterMap _ fun e e' hlt b hb b' hb' => ?_
    obtain ⟨rest, hrest, rfl⟩ := Option.map_eq_some_iff.1 hb
    obtain ⟨rest', hrest', rfl⟩ := Option.map_eq_some_iff.1 hb'
    rw [Files.dropFront?_eq_some_iff.1 hrest, Files.dropFront?_eq_some_iff.1 hrest'] at hlt
    exact lt_of_append_lt hlt

variable {front : String} {m : NameMap β}

/-- A look-up behind a text is one of the whole name. -/
theorem get?_behind (name : String) : (m.behind front).get? name = m.get? (front ++ name) := by
  refine Option.ext fun value => ?_
  rw [get?_eq_some_iff, get?_eq_some_iff, behind, List.mem_filterMap]
  constructor
  · rintro ⟨e, he, hmap⟩
    obtain ⟨rest, hrest, heq⟩ := Option.map_eq_some_iff.1 hmap
    obtain ⟨rfl, rfl⟩ := Prod.mk.inj heq
    rwa [← Files.dropFront?_eq_some_iff.1 hrest]
  · intro hmem
    exact ⟨_, hmem, by rw [Files.dropFront?_eq_some_iff.2 rfl]; rfl⟩

/-- The names behind a text are what follows it in the names that start with it. -/
theorem names_behind : (m.behind front).names = m.names.filterMap (Files.dropFront? front) := by
  rw [names, names, behind, List.map_filterMap, List.filterMap_map]
  congr 1
  funext e
  exact (Option.map_map ..).trans (Option.map_id' ..)

end NameMap

namespace Files

/-- A text that is two texts is dropped one after the other. -/
theorem dropFront?_append (front front' text : String) :
    dropFront? (front ++ front') text = (dropFront? front text).bind (dropFront? front') := by
  refine Option.ext fun rest => ?_
  rw [Option.bind_eq_some_iff]
  simp only [dropFront?_eq_some_iff]
  constructor
  · rintro rfl
    exact ⟨front' ++ rest, String.append_assoc .., rfl⟩
  · rintro ⟨_, rfl, rfl⟩
    exact (String.append_assoc ..).symm

namespace MemoryFiles

/-! ## Files in memory -/

/-- What is done to files in memory. -/
inductive Edit where
  | write (path : String) (file : File)
  | remove (path : String)

/-- The files after an edit. -/
def edit (m : MemoryFiles) : Edit → MemoryFiles
  | .write path file => m.write path file
  | .remove path => (m.remove path).2

/-- Files in memory that have come about by edits. -/
def after (name : String) (edits : List Edit) : MemoryFiles := edits.foldl edit { name }

/-- All names of the files are clean paths. -/
def IsClean (m : MemoryFiles) : Prop := ∀ path ∈ m.files.names, cleanPath path = path

/-- A file is written under a clean path. -/
theorem IsClean.write {m : MemoryFiles} (h : m.IsClean) (path : String) (file : File) :
    (m.write path file).IsClean := by
  intro name hname
  rw [NameMap.mem_names_iff, MemoryFiles.write, NameMap.contains_insert] at hname
  rcases hname with rfl | hname
  · exact cleanPath_cleanPath path
  · exact h name (NameMap.mem_names_iff.2 hname)

/-- The files that are left have the names that they had. -/
theorem IsClean.remove {m : MemoryFiles} (h : m.IsClean) (path : String) :
    (m.remove path).2.IsClean := by
  intro name hname
  obtain ⟨entry, hentry, rfl⟩ := List.mem_map.1 hname
  exact h _ (List.mem_map_of_mem (List.mem_of_mem_filter hentry))

/-- Files that have come about by edits have clean names. -/
theorem isClean_after (name : String) (edits : List Edit) : (after name edits).IsClean := by
  induction edits using List.reverseRecOn with
  | nil => exact fun _ hname => absurd hname List.not_mem_nil
  | append_singleton front last ih =>
      rw [after, List.foldl_append]
      cases last with
      | write path file => exact IsClean.write ih path file
      | remove path => exact IsClean.remove ih path

/-- The files below a directory, under their paths from there. -/
def below (m : MemoryFiles) (dir : String) : MemoryFiles :=
  { name := m.name ++ "/" ++ dir, files := m.files.behind (dir ++ "/") }

/-- A path below a directory is clean, as the whole path is, and it is not empty. -/
theorem IsClean.below {m : MemoryFiles} (h : m.IsClean) {parts : List String} (hne : parts ≠ [])
    (hparts : ∀ part ∈ parts, IsPart part) {path : String}
    (hpath : path ∈ (m.below (joinPath parts)).files.names) :
    cleanPath path = path ∧ cleanPath path ≠ "" := by
  have hwhole : cleanPath (joinPath parts ++ "/" ++ path) = joinPath parts ++ "/" ++ path := by
    refine h _ (NameMap.mem_names_iff.2 ?_)
    rw [NameMap.mem_names_iff, NameMap.contains] at hpath
    rwa [NameMap.contains, ← NameMap.get?_behind]
  rw [cleanPath, pathParts_append, pathParts_joinPath hparts] at hwhole
  have hnil : pathParts path ≠ [] := by
    intro hnil
    rw [hnil, List.append_nil, String.append_assoc] at hwhole
    have hempty := congrArg String.toList (String.append_eq_left_iff.1 hwhole.symm)
    rw [String.toList_append] at hempty
    cases hempty
  rw [joinPath_append hne hnil] at hwhole
  exact ⟨(String.append_right_inj _).1 hwhole, cleanPath_ne_empty_iff.2 hnil⟩

end MemoryFiles

/-! ## Views of views -/

/-- A file system answers for a path what another one answers for the path behind some parts. -/
structure Asks (fs other : FileSystem) (parts : List String) (path full : String) : Prop where
  pathParts_eq : pathParts full = parts ++ pathParts path
  read : fs.read path = other.read full
  shasum : fs.shasum path = other.shasum full
  created : fs.created path = other.created full
  modified : fs.modified path = other.modified full

/-- A stack of views asks for a path behind the parts of all its directories. -/
theorem exists_asks (fs : FileSystem) (dirs : List String) (path : String) :
    ∃ full, Asks (dirs.foldl FileSystem.under fs) fs (dirs.flatMap pathParts) path full := by
  induction dirs using List.reverseRecOn generalizing path with
  | nil => exact ⟨path, rfl, rfl, rfl, rfl, rfl⟩
  | append_singleton front dir ih =>
      obtain ⟨full, hparts, hread, hshasum, hcreated, hmodified⟩ :=
        ih (cleanPath dir ++ "/" ++ cleanPath path)
      rw [List.foldl_append]
      refine ⟨full, ?_, hread, hshasum, hcreated, hmodified⟩
      rw [hparts, pathParts_append, pathParts_cleanPath, pathParts_cleanPath, List.flatMap_append,
        List.flatMap_singleton, List.append_assoc]

/-- What stands before the paths below the directory of the parts. -/
def frontOf (parts : List String) : String := if parts = [] then "" else joinPath parts ++ "/"

/-- What stands before the paths below a directory of a directory. -/
theorem frontOf_append (parts : List String) {others : List String} (h : others ≠ []) :
    frontOf (parts ++ others) = frontOf parts ++ (joinPath others ++ "/") := by
  rw [frontOf, if_neg (List.append_ne_nil_of_right_ne_nil _ h), frontOf]
  split
  case isTrue hnil => rw [hnil, List.nil_append, String.empty_append]
  case isFalse hne =>
    rw [joinPath_append hne h]
    simp only [String.append_assoc]

/-- A stack of views lists what is left of the paths below the joined directory. -/
theorem list_stack (fs : FileSystem) {dirs : List String} (h : ∀ dir ∈ dirs, cleanPath dir ≠ "") :
    (dirs.foldl FileSystem.under fs).list
      = fs.list.map (·.filterMap (dropFront? (frontOf (dirs.flatMap pathParts)))) := by
  induction dirs using List.reverseRecOn with
  | nil =>
      have hall : dropFront? "" = some := funext fun _ => dropFront?_eq_some_iff.2 rfl
      show fs.list = fs.list.map (·.filterMap (dropFront? ""))
      simp only [hall, List.filterMap_some]
      cases fs.list <;> rfl
  | append_singleton front dir ih =>
      have hdir : pathParts dir ≠ [] := cleanPath_ne_empty_iff.1 (h dir (by simp))
      have hfront : dropFront? (frontOf ((front ++ [dir]).flatMap pathParts))
          = fun path => (dropFront? (frontOf (front.flatMap pathParts)) path).bind
            (dropFront? (cleanPath dir ++ "/")) := by
        rw [List.flatMap_append, List.flatMap_singleton, frontOf_append _ hdir]
        exact funext (dropFront?_append _ _)
      rw [List.foldl_append, hfront]
      simp only [← List.filterMap_filterMap]
      show (front.foldl FileSystem.under fs).list.map _ = _
      rw [ih fun dir hdir => h dir (List.mem_append_left _ hdir)]
      cases fs.list <;> rfl

/-- A view of a directory has the directories that its paths start with. -/
theorem dirs_stack (fs : FileSystem) {dirs : List String} (h : dirs ≠ []) :
    (dirs.foldl FileSystem.under fs).dirs = (dirs.foldl FileSystem.under fs).list.map dirsOf := by
  obtain ⟨front, last, rfl⟩ := List.eq_nil_or_concat dirs |>.resolve_left h
  rw [List.concat_eq_append, List.foldl_append]
  rfl

/-! ## Answers -/

/-- What is given is the same, or else something is missing on both sides. -/
inductive SameAnswer {α : Type} : Outcome α → Outcome α → Prop where
  | ok (a : α) : SameAnswer (.ok a) (.ok a)
  | missing {f g : Failure} : f.kind = .notFound → g.kind = .notFound →
      SameAnswer (.error f) (.error g)

/-- What is made of the same answers is the same. -/
theorem SameAnswer.map {α β : Type} {x y : Outcome α} (h : SameAnswer x y) (f : α → β) :
    SameAnswer (x.map f) (y.map f) := by
  cases h with
  | ok a => exact .ok (f a)
  | missing hf hg => exact .missing hf hg

/-- Two file systems give the same for a path. -/
structure AnswersAlike (fs other : FileSystem) (path : String) : Prop where
  read : SameAnswer (fs.read path) (other.read path)
  shasum : SameAnswer (fs.shasum path) (other.shasum path)
  created : SameAnswer (fs.created path) (other.created path)
  modified : SameAnswer (fs.modified path) (other.modified path)

namespace MemoryFiles

/-- A file is found under the clean form of a path. -/
theorem find_eq_ok_iff {m : MemoryFiles} {path : String} {file : File} :
    m.find path = .ok file ↔ m.files.get? (cleanPath path) = some file := by
  rw [find]
  cases m.files.get? (cleanPath path) with
  | none => exact ⟨nofun, nofun⟩
  | some other => simp

/-- A path below a directory is found as it is among the files below the directory. -/
theorem find_below (m : MemoryFiles) {dir full path : String}
    (h : cleanPath full = dir ++ "/" ++ cleanPath path) :
    SameAnswer (m.find full) ((m.below dir).find path) := by
  have hget : (m.below dir).files.get? (cleanPath path) = m.files.get? (cleanPath full) := by
    rw [h]
    exact NameMap.get?_behind _
  rw [find, find, hget]
  cases m.files.get? (cleanPath full) with
  | none => exact .missing rfl rfl
  | some file => exact .ok file

end MemoryFiles

/-- A stack of views of directories shows just the files below the joined directory: it lists them
under what is left of their paths and answers for every path in any spelling what they would answer
as files in memory of their own. So it can read what it lists, and what it reads is in a file below
the joined directory. -/
theorem stack_eq_below (name : String) (edits : List MemoryFiles.Edit) (dirs : List String)
    (hne : dirs ≠ []) (h : ∀ dir ∈ dirs, cleanPath dir ≠ "") :
    let m := MemoryFiles.after name edits
    let dir := joinPath (dirs.flatMap pathParts)
    let stack := dirs.foldl FileSystem.under m.view
    let alone := (m.below dir).view
    (m.below dir).IsClean ∧ stack.list = alone.list ∧ stack.dirs = alone.dirs ∧
      (∀ path, cleanPath path ≠ "" → AnswersAlike stack alone path) ∧
      (∃ paths, stack.list = .ok paths ∧ ∀ path ∈ paths, ∃ bytes, stack.read path = .ok bytes) ∧
      ∀ path bytes, cleanPath path ≠ "" → stack.read path = .ok bytes →
        ∃ file, m.files.get? (dir ++ "/" ++ cleanPath path) = some file ∧ file.bytes = bytes := by
  intro m dir stack alone
  have hisPart : ∀ part ∈ dirs.flatMap pathParts, IsPart part := by
    intro part hpart
    obtain ⟨dir, -, hpart⟩ := List.mem_flatMap.1 hpart
    exact isPart_of_mem_pathParts hpart
  have hparts : dirs.flatMap pathParts ≠ [] := by
    obtain ⟨first, others, rfl⟩ := List.exists_cons_of_ne_nil hne
    rw [List.flatMap_cons]
    exact List.append_ne_nil_of_left_ne_nil (cleanPath_ne_empty_iff.1 (h first (by simp))) _
  have hbelow : ∀ path ∈ (m.below dir).files.names, cleanPath path = path ∧ cleanPath path ≠ "" :=
    fun _ => (MemoryFiles.isClean_after name edits).below hparts hisPart
  have hlist : stack.list = .ok (m.below dir).files.names := by
    rw [show stack.list = _ from list_stack m.view h, frontOf, if_neg hparts]
    exact congrArg Except.ok NameMap.names_behind.symm
  have hasks : ∀ path, cleanPath path ≠ "" → ∃ full,
      Asks stack m.view (dirs.flatMap pathParts) path full ∧
        cleanPath full = dir ++ "/" ++ cleanPath path := by
    intro path hpath
    obtain ⟨full, hfull⟩ := exists_asks m.view dirs path
    refine ⟨full, hfull, ?_⟩
    rw [cleanPath, hfull.pathParts_eq, joinPath_append hparts (cleanPath_ne_empty_iff.1 hpath),
      cleanPath]
  have hread : ∀ path bytes, cleanPath path ≠ "" → (stack.read path = .ok bytes ↔
      ∃ file, m.files.get? (dir ++ "/" ++ cleanPath path) = some file ∧ file.bytes = bytes) := by
    intro path bytes hpath
    obtain ⟨full, hfull, hname⟩ := hasks path hpath
    rw [hfull.read, ← hname]
    simp only [← MemoryFiles.find_eq_ok_iff]
    exact map_eq_ok_iff
  refine ⟨fun path hpath => (hbelow path hpath).1, hlist, ?_, fun path hpath => ?_,
    ⟨_, hlist, fun path hpath => ?_⟩, fun path bytes hpath => (hread path bytes hpath).1⟩
  · have hdirs : stack.dirs = stack.list.map dirsOf := dirs_stack m.view hne
    rw [hdirs, hlist]
    rfl
  · obtain ⟨full, hfull, hname⟩ := hasks path hpath
    have hfind := m.find_below hname
    constructor
    · exact hfull.read ▸ hfind.map _
    · exact hfull.shasum ▸ hfind.map _
    · exact hfull.created ▸ hfind.map _
    · exact hfull.modified ▸ hfind.map _
  · obtain ⟨hclean, hnotEmpty⟩ := hbelow path hpath
    obtain ⟨file, hfile⟩ := Option.isSome_iff_exists.1 (NameMap.mem_names_iff.1 hpath)
    refine ⟨file.bytes, (hread path _ hnotEmpty).2 ⟨file, ?_, rfl⟩⟩
    rw [hclean, ← NameMap.get?_behind]
    exact hfile

/-- A view of a view in other spellings leaves out a name that only starts alike, and takes two
points for a part of a name. -/
theorem stack_eq_below_twoDeep :
    let file (n : UInt8) : File := ⟨[n], .epoch, .epoch⟩
    let edits : List MemoryFiles.Edit := [.write "fr/blog/post.md" (file 1),
      .write "fresh/blog/x.md" (file 2), .write "fr/index.md" (file 3),
      .write "/fr//blog/../index.md" (file 4), .remove ".\\fr\\index.md"]
    let m := MemoryFiles.after "site" edits
    let stack := ["./fr", "blog\\"].foldl FileSystem.under m.view
    stack.list = .ok ["../index.md", "post.md"] ∧
      AnswersAlike stack (m.below "fr/blog").view "..\\index.md" ∧
      stack.read "..\\index.md" = .ok [4] := by
  intro file edits m stack
  obtain ⟨-, hlist, -, halike, -, -⟩ :=
    stack_eq_below "site" edits ["./fr", "blog\\"] (by decide) (by decide)
  exact ⟨hlist.trans (by decide), halike "..\\index.md" (by decide), by decide⟩

end Files

end SiteIndex
