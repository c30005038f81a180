import SiteIndex.CommandLine.Arguments
import SiteIndex.CommandLine.Storage
import SiteIndex.Precache

/-!
# The command line

A run of the program in a directory. It builds the index of the directories that are mounted,
with the configuration of a file if one is named, and leaves it in the file of the store. It
ends with an exit code, and with a report or a failure.
-/

namespace SiteIndex.CommandLine

open Files (Disk)
open Store (BackendKind OrderedMap)

/-- How a run of the program ends. -/
inductive Ending where
  | help
  | version
  /-- The words make no sense. -/
  | misuse
  /-- The file of the store has no path. -/
  | noPath (backend : BackendKind)
  | finished (report : Precache.Report)
  | failed (failure : Failure)

/-- The exit code of an ending. -/
def Ending.code : Ending → Nat
  | help | version => 0
  | misuse => 2
  | noPath _ | failed _ => 1
  | finished report => if report.isSuccess then 0 else 1

/-- The ending of a run by its outcome. -/
def Ending.ofOutcome : Outcome Precache.Report → Ending
  | .ok report => .finished report
  | .error failure => .failed failure

/-- The line about a run that has finished. -/
def reportLine (r : Precache.Report) : String :=
  "indexed " ++ toString r.indexed ++ " of " ++ toString r.files ++ " pages ("
    ++ toString r.failed ++ " failed), " ++ toString r.keywords ++ " keywords, "
    ++ toString r.attributes ++ " attributes"

/-- The line about a run that has failed. -/
def failureLine (f : Failure) : String := "Error: " ++ f.kind.name ++ ": " ++ f.message

/-- The configuration in a file. -/
def readConfig (disk : Disk) (path : String) : Outcome Config := do
  match Text.Utf8.decode? (← disk.read path) with
  | some text => Config.ofToml text
  | none => throw (.path .notText)

/-- The configuration of a run. The backend and the path of its file are always those of the
command line. -/
def configOf (disk : Disk) (backend : BackendKind) (o : Options) : Outcome Config := do
  let base ← match o.config with
    | some path => readConfig disk path
    | none => pure {}
  return { base with backend, storagePath := o.path }

/-- The mount of an argument: a point, an equals sign and a directory, or a directory alone. -/
def mountOf (disk : Disk) (argument : String) : Outcome Site.Mount :=
  match argument.toList.dropWhile (· ≠ '=') with
  | [] => do return .at "/" (← disk.view? argument)
  | _ :: dir => do
    return .at (.ofList (argument.toList.takeWhile (· ≠ '='))) (← disk.view? (.ofList dir))

/-- The mounts of the arguments; without any the directory itself is mounted. -/
def mountsOf (disk : Disk) (arguments : List String) : Outcome (List Site.Mount) :=
  (if arguments.isEmpty then ["."] else arguments).mapM (mountOf disk)

/-- Opens the file of a store if the backend has one, and gives the disk as it is then. -/
def openStorage (disk : Disk) (config : Config) : Outcome (Option Storage × Disk) :=
  match config.storagePath with
  | some path =>
    if config.backend.isFileBacked then do
      let (storage, disk) ← Storage.ofPath disk config.backend path
      return (some storage, disk)
    else .ok (none, disk)
  | none => .ok (none, disk)

/-- All that a run needs before it looks for pages. -/
def prepare (disk : Disk) (backend : BackendKind) (o : Options) :
    Outcome (Config × Option Storage × Disk) := do
  let config ← configOf disk backend o
  let _ ← mountsOf disk o.mounts
  config.validate
  return (config, ← openStorage disk config)

/-- Builds the index of the mounted directories over the entries of a store. -/
def build (disk : Disk) (config : Config) (o : Options) (stored : OrderedMap Bytes) :
    Outcome Precache.Report × OrderedMap Bytes :=
  match mountsOf disk o.mounts with
  | .error failure => (.error failure, stored)
  | .ok mounts =>
    let site := Site.make mounts config.defaultLanguage
    let (outcome, _, entries) := Precache.run config stored [.ofSite site] ()
    (outcome, entries)

/-- Builds an index. Gives the ending, and the file of the store if it was opened. -/
def precache (disk : Disk) (backend : BackendKind) (o : Options) : Ending × Option Storage :=
  if backend.isFileBacked && o.path.isNone then (.noPath backend, none)
  else
    match prepare disk backend o with
    | .error failure => (.failed failure, none)
    | .ok (config, storage, disk) =>
      let (outcome, entries) := build disk config o ((storage.map (·.entries)).getD ∅)
      (.ofOutcome outcome, storage.map ({ · with entries }))

/-- Runs the program in a directory. -/
def run (disk : Disk) (words : List String) : Ending × Option Storage :=
  match Request.ofWords? words with
  | none => (.misuse, none)
  | some .help => (.help, none)
  | some .version => (.version, none)
  | some (.precache backend o) => precache disk backend o

end SiteIndex.CommandLine
