import SiteIndex.Files.Basic

/-!
# Directories on a disk

A `Disk` is the content of a directory of an operating system: files and directories, some of
them empty. Part of it serves as a file system (`Disk.view?`). A path is looked up part by
part; what stands in the way is reported in the operating system's words. Paths that would
leave the directory are refused, and so are not listed the files that desktop programs leave
behind.
-/

namespace SiteIndex.Files

/-- The content of a directory. -/
structure Disk where
  files : NameMap File := ∅
  /-- Directories that need not hold any file. -/
  folders : List String := []

/-- What stands at a path. -/
inductive Disk.Entry where
  | file (file : File)
  /-- A directory, by the parts of its path. -/
  | folder (parts : List String)

/-- Names of files that are never listed. -/
def ignoredNames : List String := [".DS_Store", "Thumbs.db"]

namespace Disk

/-- The parts of a path between its slashes; a backslash is part of a name. -/
def parts (path : String) : List String :=
  ((Text.splitBy (· = '/') path.toList).map .ofList).filter fun part => part ≠ "" && part ≠ "."

/-- A directory stands at the path of the parts. -/
def hasFolder (d : Disk) (parts : List String) : Bool :=
  let path := joinPath parts
  let front := path ++ "/"
  parts.isEmpty || d.folders.contains path
    || d.folders.any (fun folder => (dropFront? front folder).isSome)
    || d.files.names.any (fun name => (dropFront? front name).isSome)

/-- What stands at the path of the parts, seen from the directory of `base`. Only a directory
has parts below it, an empty part or a point among them, which lead nowhere else. What lies
outside the directory of the disk is not known. -/
def walk (d : Disk) (base : List String) : List String → Except PathFault Entry
  | [] =>
    match d.files.get? (joinPath base) with
    | some file => .ok (.file file)
    | none => if d.hasFolder base then .ok (.folder base) else .error .noEntry
  | part :: rest =>
    if (d.files.get? (joinPath base)).isSome then .error .notDirectory
    else if !d.hasFolder base then .error .noEntry
    else if part = "" ∨ part = "." then d.walk base rest
    else if 255 < part.utf8ByteSize then .error .nameTooLong
    else if part = ".." then
      if base.isEmpty then .error .noEntry else d.walk base.dropLast rest
    else d.walk (base ++ [part]) rest

/-- The parts of a path between its slashes as they are written. -/
def rawParts (path : String) : List String :=
  (Text.splitBy (· = '/') path.toList).map .ofList

/-- What stands at a path. -/
def look (d : Disk) (path : String) : Except PathFault Entry :=
  if path = "" ∨ path.startsWith "/" then .error .noEntry else d.walk [] (rawParts path)

/-- The content of the file at a path. -/
def read (d : Disk) (path : String) : Outcome Bytes :=
  match d.look path with
  | .ok (.file f) => .ok f.bytes
  | .ok (.folder _) => .error (.path .isDirectory)
  | .error fault => .error (.path fault)

/-- Puts a file under a path; its directories come into being with it. -/
def write (d : Disk) (path : String) (file : File) : Disk :=
  { d with files := d.files.insert (joinPath (parts path)) file }

/-- Makes a directory. -/
def makeFolder (d : Disk) (path : String) : Disk :=
  { d with folders := d.folders ++ [joinPath (parts path)] }

/-- A directory stands at the path of the parts. -/
def leadsToFolder (d : Disk) (parts : List String) : Bool :=
  match d.walk [] parts with
  | .ok (.folder _) => true
  | _ => false

/-- Makes the last directory of a path. -/
def makeLast (d : Disk) (front : List String) (last : String) : Except PathFault Disk :=
  match d.walk [] front with
  | .error fault => .error fault
  | .ok (.file _) => .error .notDirectory
  | .ok (.folder base) =>
    match d.walk base [last] with
    | .ok _ => .error .exists
    | .error .noEntry => .ok (d.makeFolder (joinPath (base ++ [last])))
    | .error fault => .error fault

/-- Makes a directory and those on the way to it, as far as they are missing. The parts are
given from the last one on. -/
def makeFolders (d : Disk) : List String → Except PathFault Disk
  | [] => .ok d
  | last :: front =>
    let make (d : Disk) (otherwise : PathFault → Except PathFault Disk) : Except PathFault Disk :=
      match d.makeLast front.reverse last with
      | .ok d => .ok d
      | .error fault =>
        if d.leadsToFolder (front.reverse ++ [last]) then .ok d else otherwise fault
    make d fun
      | .noEntry => do make (← makeFolders d front) .error
      | fault => .error fault

/-- The paths of the files below a directory, seen from it. -/
def below (d : Disk) (root : List String) : List String :=
  if root.isEmpty then d.files.names
  else d.files.names.filterMap (dropFront? (joinPath root ++ "/"))

/-- The directories right below a directory. -/
def foldersBelow (d : Disk) (root : List String) : List String :=
  let front := if root.isEmpty then "" else joinPath root ++ "/"
  let folders := (d.folders.filterMap (dropFront? front)).filter (· ≠ "")
  (NameMap.ofList
    (((folders.map fun folder => ((splitFirst? folder).map (·.1)).getD folder)
      ++ dirsOf (d.below root)).map fun dir => (dir, ()))).names

/-- The path below a root that a path within its file system stands for. -/
def resolve (root path : String) : Outcome (List String) :=
  let parts := pathParts path
  if parts.contains ".." then .error (.escapingPath path root) else .ok parts

/-- What stands at a path within the file system of a root. -/
def find (d : Disk) (name : String) (root : List String) (path : String) : Outcome Entry := do
  let below ← resolve name path
  if path.contains '\x00' then throw (.path .nulByte)
  match d.walk [] (root ++ below) with
  | .ok entry => return entry
  | .error fault => throw (.path fault)

/-- The content of a file. -/
def Entry.bytes : Entry → Outcome Bytes
  | file f => .ok f.bytes
  | folder _ => .error (.path .isDirectory)

/-- A time of a file; the time of a directory is of no interest. -/
def Entry.time (f : File → Time.Instant) : Entry → Time.Instant
  | file x => f x
  | folder _ => .epoch

/-- The directory of the parts as a file system. -/
def view (d : Disk) (name : String) (root : List String) : FileSystem :=
  let paths := (d.below root).filter fun path => !ignoredNames.contains (fileName path)
  { name
    list := .ok (NameMap.ofList (paths.map fun path => (cleanPath path, ()))).names
    dirs := .ok (d.foldersBelow root)
    read := fun path => do (← d.find name root path).bytes
    shasum := fun path => do return contentShasum (← (← d.find name root path).bytes)
    created := fun path => do return (← d.find name root path).time (·.created)
    modified := fun path => do return (← d.find name root path).time (·.modified) }

/-- The directory at a path as a file system, named by the path; there is none if no directory
of the disk stands there. -/
def view? (d : Disk) (path : String) : Outcome FileSystem :=
  match d.look path with
  | .ok (.folder root) => .ok (d.view path root)
  | _ => .error (.notDirectory path)

end Disk

end SiteIndex.Files
