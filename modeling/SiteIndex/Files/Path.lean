import SiteIndex.Text.Blank

/-!
# Paths of files

Paths within a file system are relative and their parts are joined by slashes. They are written
in many ways: `cleanPath` takes backslashes for slashes and drops empty parts and single
points, so that no clean path starts or ends with a slash. A part of two points stays.
-/

namespace SiteIndex.Files

/-- The parts of a path in any spelling. -/
def pathParts (path : String) : List String :=
  ((Text.splitBy (fun c => c = '/' || c = '\\') path.toList).map .ofList).filter
    fun part => part ≠ "" && part ≠ "."

/-- A path of parts. -/
def joinPath (parts : List String) : String := "/".intercalate parts

/-- The one spelling of a path. -/
def cleanPath (path : String) : String := joinPath (pathParts path)

/-- A text before and after its first slash. -/
def splitFirst? (path : String) : Option (String × String) :=
  match path.toList.dropWhile (· ≠ '/') with
  | [] => none
  | _ :: rest => some (.ofList (path.toList.takeWhile (· ≠ '/')), .ofList rest)

/-- The text after a text that it starts with. -/
def dropFront? (front text : String) : Option String :=
  if front.toList.isPrefixOf text.toList then
    some (.ofList (text.toList.drop front.toList.length))
  else none

/-- The last part of a path: what follows its last slash. -/
def fileName (path : String) : String :=
  .ofList (path.toList.reverse.takeWhile (· ≠ '/')).reverse

/-- A file name before and after its last point. -/
def splitLastPoint? (name : String) : Option (String × String) :=
  match name.toList.reverse.dropWhile (· ≠ '.') with
  | [] => none
  | _ :: stem =>
    some (.ofList stem.reverse, .ofList (name.toList.reverse.takeWhile (· ≠ '.')).reverse)

end SiteIndex.Files
