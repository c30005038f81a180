import SiteIndex.Files.Basic

/-!
# Files in memory

Files that a program holds itself, under clean paths. A path may be asked for in any spelling.
-/

namespace SiteIndex.Files

/-- A tree of files in memory. -/
structure MemoryFiles where
  name : String
  files : NameMap File := ∅

namespace MemoryFiles

/-- Puts a file under a path, over one that is there. -/
def write (m : MemoryFiles) (path : String) (file : File) : MemoryFiles :=
  { m with files := m.files.insert (cleanPath path) file }

/-- Takes a file away; says whether it was there. -/
def remove (m : MemoryFiles) (path : String) : Bool × MemoryFiles :=
  (m.files.contains (cleanPath path), { m with files := m.files.erase (cleanPath path) })

/-- The file under a path. -/
def find (m : MemoryFiles) (path : String) : Outcome File :=
  match m.files.get? (cleanPath path) with
  | some file => .ok file
  | none => .error (.missingFile m.name path)

/-- The files as they stand. -/
def view (m : MemoryFiles) : FileSystem :=
  { name := m.name
    list := .ok m.files.names
    dirs := .ok (dirsOf m.files.names)
    read := fun path => (m.find path).map (·.bytes)
    shasum := fun path => (m.find path).map (contentShasum ·.bytes)
    created := fun path => (m.find path).map (·.created)
    modified := fun path => (m.find path).map (·.modified) }

end MemoryFiles

end SiteIndex.Files
