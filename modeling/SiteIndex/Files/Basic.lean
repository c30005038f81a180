import SiteIndex.Digest.Sha256
import SiteIndex.Failure
import SiteIndex.Files.Path
import SiteIndex.NameMap
import SiteIndex.Time.Instant

/-!
# File systems

A `FileSystem` is what the site sees of a tree of files at one moment: the paths of the files,
the directories right below its root, and the content and the times of each file. Any of these
may fail. `FileSystem.under` is the view of one directory as a file system of its own.
-/

namespace SiteIndex.Files

open Time (Instant)

/-- A file. -/
structure File where
  bytes : Bytes
  created : Instant
  modified : Instant

/-- A tree of files at one moment. -/
structure FileSystem where
  /-- The label of the file system in messages. -/
  name : String
  /-- The paths of all files, in ascending order. -/
  list : Outcome (List String)
  /-- The directories right below the root, in ascending order. -/
  dirs : Outcome (List String)
  read : String → Outcome Bytes
  /-- The digest of a file's content. -/
  shasum : String → Outcome String
  created : String → Outcome Instant
  modified : String → Outcome Instant

/-- The digest of a content in hexadecimal digits. -/
def contentShasum (bytes : Bytes) : String := Bytes.hex (Digest.sha256 bytes)

/-- The first parts of the paths that have more than one. -/
def dirsOf (paths : List String) : List String :=
  (NameMap.ofList ((paths.filterMap splitFirst?).map fun (dir, _) => (dir, ()))).names

namespace FileSystem

/-- A directory of a file system as a file system of its own. -/
def under (fs : FileSystem) (dir : String) : FileSystem :=
  let top := cleanPath dir
  let full (path : String) := top ++ "/" ++ cleanPath path
  let paths := fs.list.map (·.filterMap (dropFront? (top ++ "/")))
  { name := fs.name ++ "/" ++ top
    list := paths
    dirs := paths.map dirsOf
    read := fun path => fs.read (full path)
    shasum := fun path => fs.shasum (full path)
    created := fun path => fs.created (full path)
    modified := fun path => fs.modified (full path) }

end FileSystem

end SiteIndex.Files
