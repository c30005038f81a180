import SiteIndex.CommandLine.Run

/-!
# The program

Builds the index of directories below the working directory. The files that there are come from
standard input, one path a line; a path may be followed by the times at which the file was
created and modified, as RFC 3339 texts after tabs.
-/

namespace SiteIndex.Main

open CommandLine (Ending Storage)
open Files (Disk File)
open Time (Instant)

/-- How the program is called. -/
def usage : String :=
  "Usage: siteindex [-v]... precache <memory|redb|sqlite> [OPTIONS] < FILES\n"
    ++ "\n"
    ++ "  --path <PATH>      storage file of the index\n"
    ++ "  --mount <DIR>      directory to index, optionally as /point=dir; repeatable\n"
    ++ "  --config <CONFIG>  TOML configuration applied before the command line\n"
    ++ "\n"
    ++ "FILES names the files of the working directory, one path a line."

/-- A time in a field of a line, if there is one. -/
def timeOf (fields : List String) (index : Nat) : Instant :=
  ((fields[index]?).bind Instant.ofRfc3339?).getD .epoch

/-- Puts the file of a line on the disk. -/
def addLine (disk : Disk) (line : String) : IO Disk := do
  let fields := (Text.splitBy (· = '\t') (line.toList.filter (· ≠ '\n'))).map String.ofList
  match fields with
  | path :: times =>
    if path = "" then return disk
    let bytes ← IO.FS.readBinFile path
    return disk.write path ⟨bytes.toList, timeOf times 0, timeOf times 1⟩
  | [] => return disk

/-- Reads lines up to the end of the input. -/
partial def readLines (input : IO.FS.Stream) (disk : Disk) : IO Disk := do
  let line ← input.getLine
  if line.isEmpty then return disk
  readLines input (← addLine disk line)

/-- Writes the file of a store. -/
def save (storage : Storage) : IO Unit := do
  let folder := (Files.pathParts storage.place).dropLast
  unless folder.isEmpty do IO.FS.createDirAll (Files.joinPath folder)
  IO.FS.writeBinFile storage.place (ByteArray.mk storage.bytes.toArray)

/-- Tells how a run has ended. -/
def tell (milliseconds : Nat) : Ending → IO Unit
  | .help => IO.println usage
  | .version => IO.println "siteindex 0.1.0"
  | .misuse => IO.eprintln usage
  | .noPath _ => IO.eprintln usage
  | .finished report =>
    IO.println (CommandLine.reportLine report ++ " in " ++ toString milliseconds ++ "ms")
  | .failed failure => IO.eprintln (CommandLine.failureLine failure)

end SiteIndex.Main

open SiteIndex in
/-- Reads the files, runs the program and keeps the store. -/
def main (words : List String) : IO UInt32 := do
  let started ← IO.monoMsNow
  let disk ← match CommandLine.Request.ofWords? words with
    | some (.precache _ _) => Main.readLines (← IO.getStdin) {}
    | _ => pure {}
  let (ending, storage) := CommandLine.run disk words
  storage.forM Main.save
  Main.tell ((← IO.monoMsNow) - started) ending
  return .ofNat ending.code
