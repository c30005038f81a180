import SiteIndex.Files.Path

/-!
# Addresses of pages

A page stands at the path of its file without the last part of the name, below the point where
its files are mounted; a file named `index` stands for its directory. An address starts with a
slash and ends with none, but for the root.
-/

namespace SiteIndex.Page

open Files (pathParts joinPath cleanPath fileName splitLastPoint? splitFirst?)

/-- The one spelling of an address. -/
def normalizeUrl (url : String) : String := "/" ++ cleanPath url

/-- A file name without what follows its last point; a point in front is part of the name. -/
def stemOf (name : String) : String :=
  match splitLastPoint? name with
  | some (stem, _) => if stem = "" then name else stem
  | none => name

/-- The parts of the address of a file. -/
def addressParts (source : List String) : List String :=
  match source.getLast? with
  | none => []
  | some name => source.dropLast ++ (if stemOf name = "index" then [] else [stemOf name])

/-- The address of a file below a mount point. -/
def urlForPath (mount source : String) : String :=
  normalizeUrl (joinPath (pathParts mount ++ addressParts (pathParts source)))

/-- The title of a file that has no other: its name without what follows the last point. -/
def defaultTitle (source : String) : String :=
  match splitLastPoint? (fileName source) with
  | some (stem, _) => stem
  | none => fileName source

/-- The section of a file: the first directory of its path. -/
def sectionOf (source : String) : String :=
  match splitFirst? (cleanPath source) with
  | some (dir, _) => dir
  | none => ""

end SiteIndex.Page
