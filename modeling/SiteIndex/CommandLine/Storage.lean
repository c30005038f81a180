import SiteIndex.Files.Disk
import SiteIndex.Store.Image

/-!
# The file of a store

Where a store is kept on a disk. To open it is to make the directories on the way to it, as far
as they are missing, and to read its image, or to put an empty one there.
-/

namespace SiteIndex.CommandLine

open Files (Disk)
open Store (BackendKind OrderedMap)

/-- The file of a store. -/
structure Storage where
  backend : BackendKind
  /-- Its path below the directory of the disk. -/
  place : String
  entries : OrderedMap Bytes

namespace Storage

/-- The content of the file. -/
def bytes (s : Storage) : Bytes := Store.Image.encode s.backend s.entries

/-- The disk with the file. -/
def writeTo (s : Storage) (disk : Disk) : Disk :=
  disk.write s.place ⟨s.bytes, .epoch, .epoch⟩

/-- The directories of a path, the last one first. -/
def folders (path : String) : List String :=
  ((Disk.rawParts path).filter fun part => part ≠ "" && part ≠ ".").reverse.tail

/-- The place of a file by its path. The path ends in a name, and its directory is there. -/
def place? (disk : Disk) (path : String) : Option String :=
  match (Disk.rawParts path).reverse with
  | [] => none
  | last :: front =>
    if ["", ".", ".."].contains last then none
    else
      match disk.walk [] front.reverse with
      | .ok (.folder base) => some (Files.joinPath (base ++ [last]))
      | _ => none

/-- The entries of the file at a place; there are none if there is no file. Anything else than
an image of the backend cannot be opened. -/
def entriesAt? (disk : Disk) (backend : BackendKind) (path place : String) :
    Option (OrderedMap Bytes) :=
  match disk.look path with
  | .ok (.file _) => do Store.Image.decode? backend (← disk.files.get? place).bytes
  | .error .noEntry => some ∅
  | _ => none

/-- Opens the file of a store. Gives it with the disk that holds it. -/
def ofPath (disk : Disk) (backend : BackendKind) (path : String) : Outcome (Storage × Disk) :=
  match disk.makeFolders (folders path) with
  | .error fault => .error (.path fault)
  | .ok disk =>
    let found : Option Storage := do
      let place ← place? disk path
      return { backend, place, entries := ← entriesAt? disk backend path place }
    match found with
    | some storage => .ok (storage, storage.writeTo disk)
    | none => .error (.unusableStorage backend.name)

end Storage

end SiteIndex.CommandLine
