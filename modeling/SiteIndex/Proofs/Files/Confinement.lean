import Mathlib.Data.List.Basic
import SiteIndex.Files.Disk
import SiteIndex.Proofs.Files.Overlay

/-!
# Reads that stay in their directory

A directory of a disk that serves as a file system looks for every path at its own parts followed by
those of the path, whatever the spelling. A part of two points is refused before anything is looked
for (`find_eq`), so that a path leads down from the directory and nowhere else (`stands_of_walk`).
This is still so under a stack of views, whose directories only put more parts before the path
(`reads_confined`).
-/

namespace SiteIndex

namespace Files

/-- A character that is neither a slash nor a point stands in a path exactly if it stands in one of
its parts. -/
theorem mem_toList_iff_exists_part {path : String} {c : Char} (hslash : c ≠ '/')
    (hback : c ≠ '\\') (hpoint : c ≠ '.') :
    c ∈ path.toList ↔ ∃ part ∈ pathParts path, c ∈ part.toList := by
  unfold pathParts
  constructor
  · intro hc
    obtain ⟨piece, hpiece, hmem⟩ : ∃ piece ∈ Text.splitBy (fun c => c = '/' || c = '\\')
        path.toList, c ∈ piece := Text.exists_piece hc (by simp [hslash, hback])
    have hmem' : c ∈ (String.ofList piece).toList := by rwa [String.toList_ofList]
    have hempty : String.ofList piece ≠ "" := by
      intro heq
      rw [heq] at hmem'
      cases hmem'
    have honePoint : String.ofList piece ≠ "." := by
      intro heq
      rw [heq] at hmem'
      exact hpoint (List.mem_singleton.1 hmem')
    exact ⟨.ofList piece,
      List.mem_filter.2 ⟨List.mem_map_of_mem hpiece, by simp [hempty, honePoint]⟩, hmem'⟩
  · rintro ⟨part, hpart, hc⟩
    obtain ⟨piece, hpiece, rfl⟩ := List.mem_map.1 (List.mem_of_mem_filter hpart)
    exact Text.mem_of_mem_splitBy hpiece (by simpa using hc)

/-- A part of a path, without slashes of its own, that leads down to what it names. -/
structure LeadsDown (part : String) : Prop extends IsPart part where
  ne_points : part ≠ ".."

namespace Disk

variable {d : Disk} {base front parts : List String} {entry : Entry}

/-- The entry stands at the path of the parts. -/
def Stands (d : Disk) (parts : List String) : Entry → Prop
  | .file file => d.files.get? (joinPath parts) = some file
  | .folder place => place = parts ∧ d.hasFolder parts = true

/-- A walk that leads down ends at the path of its parts. -/
theorem stands_of_walk (hparts : ∀ part ∈ parts, LeadsDown part)
    (h : d.walk base parts = .ok entry) : d.Stands (base ++ parts) entry := by
  induction parts generalizing base with
  | nil =>
      rw [List.append_nil]
      unfold walk at h
      split at h
      case h_1 file hfile =>
        obtain rfl := Except.ok.inj h
        exact hfile
      case h_2 =>
        split at h
        case isTrue hfolder =>
          obtain rfl := Except.ok.inj h
          exact ⟨rfl, hfolder⟩
        case isFalse => cases h
  | cons part rest ih =>
      obtain ⟨hpart, hrest⟩ := List.forall_mem_cons.1 hparts
      have hplain : ¬ (part = "" ∨ part = ".") := not_or.2 ⟨hpart.ne_empty, hpart.ne_point⟩
      unfold walk at h
      simp only [hplain, hpart.ne_points, if_false] at h
      split at h
      case isTrue => cases h
      split at h
      case isTrue => cases h
      split at h
      case isTrue => cases h
      have hstands := ih hrest h
      rwa [List.append_assoc] at hstands

/-- A walk over a directory goes on from there. -/
theorem walk_append {place : List String} (h : d.walk base front = .ok (.folder place)) :
    d.walk base (front ++ parts) = d.walk place parts := by
  induction front generalizing base with
  | nil =>
      unfold walk at h
      split at h
      case h_1 => cases h
      case h_2 =>
        split at h
        case isTrue =>
          obtain rfl := Entry.folder.inj (Except.ok.inj h)
          rfl
        case isFalse => cases h
  | cons part rest ih =>
      rw [walk.eq_2] at h
      rw [List.cons_append, walk.eq_2]
      split_ifs at h ⊢
      · exact ih h
      · exact ih h
      · exact ih h

/-- What the disk has below a directory, for parts that the operating system is asked for. No name
may hold a NUL. -/
def entryBelow (d : Disk) (base parts : List String) : Outcome Entry :=
  if parts.any (·.toList.contains '\x00') then .error (.path .nulByte)
  else (d.walk base parts).mapError .path

/-- What is found below a directory stands at the path of all parts. -/
theorem stands_of_entryBelow (hparts : ∀ part ∈ parts, LeadsDown part)
    (h : d.entryBelow base parts = .ok entry) : d.Stands (base ++ parts) entry := by
  unfold entryBelow at h
  split at h
  case isTrue => cases h
  case isFalse =>
    cases hwalk : d.walk base parts with
    | error fault =>
        rw [hwalk] at h
        cases h
    | ok found =>
        rw [hwalk] at h
        obtain rfl := Except.ok.inj h
        exact stands_of_walk hparts hwalk

/-- A failure below a directory is one of the operating system. -/
theorem exists_fault_of_entryBelow {failure : Failure}
    (h : d.entryBelow base parts = .error failure) : ∃ fault, failure = .path fault := by
  unfold entryBelow at h
  split at h
  case isTrue => exact ⟨_, (Except.error.inj h).symm⟩
  case isFalse =>
    cases hwalk : d.walk base parts with
    | error fault =>
        rw [hwalk] at h
        exact ⟨fault, (Except.error.inj h).symm⟩
    | ok found =>
        rw [hwalk] at h
        cases h

/-- A path with a part of two points is refused, and any other is looked for at its parts. -/
theorem find_eq {name : String} {root : List String} (hroot : d.walk [] root = .ok (.folder base))
    (path : String) : d.find name root path
      = if ".." ∈ pathParts path then .error (.escapingPath path name)
        else d.entryBelow base (pathParts path) := by
  have hnul : path.contains '\x00' = (pathParts path).any (·.toList.contains '\x00') := by
    rw [Bool.eq_iff_iff, List.any_eq_true]
    simp only [String.contains_char_eq, List.contains_iff_mem, decide_eq_true_eq]
    exact mem_toList_iff_exists_part (c := '\x00') (by decide) (by decide) (by decide)
  unfold find resolve
  by_cases hpoints : ".." ∈ pathParts path
  · rw [if_pos hpoints, if_pos (List.contains_iff_mem.2 hpoints)]
    rfl
  · rw [if_neg hpoints, if_neg fun h => hpoints (List.contains_iff_mem.1 h), entryBelow, ← hnul,
      ← walk_append hroot]
    show (if path.contains '\x00' = true then _ else _ : Outcome Entry) = _
    split_ifs
    · rfl
    · cases d.walk [] (root ++ pathParts path) <;> rfl

end Disk

/-! ## Answers -/

/-- The outcome is a failure of a kind. -/
def FailsAs {α : Type} (kind : FailureKind) (x : Outcome α) : Prop :=
  ∃ failure, x = .error failure ∧ failure.kind = kind

/-- Changing a result does not change how a step fails. -/
theorem failsAs_map_iff {α β : Type} {kind : FailureKind} {x : Outcome α} {f : α → β} :
    FailsAs kind (x.map f) ↔ FailsAs kind x :=
  exists_congr fun _ => and_congr_left' map_eq_error_iff

/-- A file system answers for a path what is found for it on a disk. -/
structure Tells (fs : FileSystem) (path : String) (found : Outcome Disk.Entry) : Prop where
  read : fs.read path = found >>= Disk.Entry.bytes
  shasum : fs.shasum path = (found >>= Disk.Entry.bytes).map contentShasum
  created : fs.created path = found.map (Disk.Entry.time (·.created))
  modified : fs.modified path = found.map (Disk.Entry.time (·.modified))

/-- Whatever is asked about a path, it fails with a kind if and only if a condition holds. -/
structure FailsIff (fs : FileSystem) (path : String) (kind : FailureKind) (condition : Prop) :
    Prop where
  read : FailsAs kind (fs.read path) ↔ condition
  shasum : FailsAs kind (fs.shasum path) ↔ condition
  created : FailsAs kind (fs.created path) ↔ condition
  modified : FailsAs kind (fs.modified path) ↔ condition

section Answers

variable {fs : FileSystem} {path : String} {found : Outcome Disk.Entry}

/-- A directory of a disk answers what is found in it. -/
theorem tells_view (d : Disk) (name : String) (root : List String) (path : String) :
    Tells (d.view name root) path (d.find name root path) := by
  refine ⟨rfl, ?_, rfl, rfl⟩
  show (do return contentShasum (← (← d.find name root path).bytes)) = _
  cases d.find name root path with
  | error failure => rfl
  | ok entry => cases entry <;> rfl

/-- The path of a view of a directory is answered as the whole path. -/
theorem Asks.tells {other : FileSystem} {parts : List String} {full : String}
    (h : Asks fs other parts path full) (htells : Tells other full found) :
    Tells fs path found where
  read := h.read.trans htells.read
  shasum := h.shasum.trans htells.shasum
  created := h.created.trans htells.created
  modified := h.modified.trans htells.modified

/-- An argument is invalid to whatever is asked if it is so where it is looked for. -/
theorem Tells.failsIff (h : Tells fs path found) :
    FailsIff fs path .invalidArgument (FailsAs .invalidArgument found) := by
  have hbytes : FailsAs .invalidArgument (found >>= Disk.Entry.bytes) ↔
      FailsAs .invalidArgument found := by
    constructor
    · rintro ⟨failure, hfailure, hkind⟩
      rcases bind_eq_error_iff.1 hfailure with hfound | ⟨entry, -, hentry⟩
      · exact ⟨failure, hfound, hkind⟩
      · cases entry with
        | file file => cases hentry
        | folder parts =>
            cases hentry
            cases hkind
    · rintro ⟨failure, hfound, hkind⟩
      exact ⟨failure, bind_eq_error_iff.2 (.inl hfound), hkind⟩
  constructor
  · rw [h.read, hbytes]
  · rw [h.shasum, failsAs_map_iff, hbytes]
  · rw [h.created, failsAs_map_iff]
  · rw [h.modified, failsAs_map_iff]

end Answers

/-- An argument is invalid for the directory of a disk exactly if a part of it is two points. -/
theorem Disk.failsAs_find_iff {d : Disk} {name : String} {root base : List String}
    (hroot : d.walk [] root = .ok (.folder base)) (path : String) :
    FailsAs .invalidArgument (d.find name root path) ↔ ".." ∈ pathParts path := by
  rw [d.find_eq hroot]
  split_ifs with hpoints
  · exact iff_of_true ⟨_, rfl, rfl⟩ hpoints
  · refine iff_of_false ?_ hpoints
    rintro ⟨failure, hfailure, hkind⟩
    obtain ⟨fault, rfl⟩ := Disk.exists_fault_of_entryBelow hfailure
    cases fault <;> cases hkind

/-- Reads of a directory on a disk stay below it. Under any stack of views and for a path in any
spelling, what is asked fails as an invalid argument if and only if one of the parts of the
directories and the path is two points. All else is answered from what stands below the root at
these parts, each of which leads down. -/
theorem reads_confined (d : Disk) (name : String) {root base : List String}
    (hroot : d.walk [] root = .ok (.folder base)) (dirs : List String) (path : String) :
    let fs := dirs.foldl FileSystem.under (d.view name root)
    let parts := dirs.flatMap pathParts ++ pathParts path
    FailsIff fs path .invalidArgument (".." ∈ parts) ∧
      (".." ∉ parts → (∀ part ∈ parts, LeadsDown part) ∧ Tells fs path (d.entryBelow base parts) ∧
        ∀ entry, d.entryBelow base parts = .ok entry → d.Stands (base ++ parts) entry) := by
  intro fs parts
  obtain ⟨full, hasks⟩ := exists_asks (d.view name root) dirs path
  have hparts : pathParts full = parts := hasks.pathParts_eq
  have htells := hasks.tells (tells_view d name root full)
  constructor
  · rw [← hparts, ← Disk.failsAs_find_iff hroot]
    exact htells.failsIff
  · intro hpoints
    have hdown : ∀ part ∈ parts, LeadsDown part := by
      intro part hpart
      exact ⟨isPart_of_mem_pathParts (hparts ▸ hpart), fun heq => hpoints (heq ▸ hpart)⟩
    refine ⟨hdown, ?_, fun entry => Disk.stands_of_entryBelow hdown⟩
    rwa [d.find_eq hroot, hparts, if_neg hpoints] at htells

/-- A French page of a site. -/
def frenchPage : File := ⟨[1], .epoch, .epoch⟩

/-- A disk with a French page and another file of the same site. -/
def frenchDisk : Disk :=
  (Disk.write {} "site/fr/a.md" frenchPage).write "site/b.md" ⟨[2], .epoch, .epoch⟩

/-- The French page is read in any spelling, and the other file in none. -/
theorem reads_confined_french :
    let fs := ["./fr"].foldl FileSystem.under (frenchDisk.view "site" ["site"])
    frenchDisk.walk [] ["site"] = .ok (.folder ["site"]) ∧
      FailsAs .invalidArgument (fs.read "x\\..//../b.md") ∧
      Tells fs "\\.\\a.md" (.ok (.file frenchPage)) ∧
      frenchDisk.Stands ["site", "fr", "a.md"] (.file frenchPage) := by
  intro fs
  have hroot : frenchDisk.walk [] ["site"] = .ok (.folder ["site"]) := rfl
  have hfound : frenchDisk.entryBelow ["site"] ["fr", "a.md"] = .ok (.file frenchPage) := rfl
  obtain ⟨hfails, -⟩ := reads_confined frenchDisk "site" hroot ["./fr"] "x\\..//../b.md"
  obtain ⟨-, hread⟩ := reads_confined frenchDisk "site" hroot ["./fr"] "\\.\\a.md"
  obtain ⟨-, htells, hstands⟩ := hread (by decide)
  exact ⟨hroot, hfails.read.2 (by decide), hfound ▸ htells, hstands _ hfound⟩

end Files

end SiteIndex
