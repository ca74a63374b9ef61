import MethodCorpus.CommandLine.Program
import MethodCorpus.Corpus.Listed

/-!
# The executable

The working directory is read as a whole, the program works on what was read, and what it has changed
is written back.
-/

namespace MethodCorpus

/-- How deep directories are read. -/
def maxFolderDepth : Nat := 256

/-- The path of a place from the working directory. -/
def pathOf (place : Route) : String := "/".intercalate ("." :: place)

/-- Reads a directory and what is below it into a file system. -/
def readBelow (depth : Nat) (place : Route) (fs : FileSystem) : IO FileSystem := do
  match depth with
  | 0 => return fs
  | depth + 1 =>
    let folder := (← IO.currentDir) / pathOf place
    let mut fs := fs
    for entry in ← folder.readDir do
      let inside := place ++ [entry.fileName]
      if ← entry.path.isDir then
        fs ← readBelow depth inside (fs.put inside .directory)
      else
        fs := fs.put inside (.file (← IO.FS.readBinFile entry.path))
    return fs

/-- Writes what has changed back to the working directory. -/
def writeBack (changes : FileSystem.Changes) : IO Unit := do
  for (place, item) in changes.written do
    match item with
    | .directory => IO.FS.createDirAll (pathOf place)
    | .file contents => IO.FS.writeBinFile (pathOf place) contents
  for place in changes.removed do
    IO.FS.removeFile (pathOf place)

/-- Does what the arguments ask for, and says how it went. -/
def runProgram (arguments : List String) : IO UInt32 := do
  -- nothing is read for arguments that are not used rightly
  let isAsked := (CommandLine.command? arguments).isSome
  let before ← if isAsked then readBelow maxFolderDepth [] .empty else pure .empty
  let start ← IO.monoMsNow
  let (after, result) :=
    CommandLine.perform (Source.parserOf (Source.listed before)) arguments before
  writeBack (FileSystem.changes before after)
  match result with
  | none =>
    IO.eprintln "usage: init [PATH] [-i DIR] | run CONFIG [-j] | split FILE [-p PARSER]"
  | some (.error error) => IO.eprint (CommandLine.failure error)
  | some (.ok answer) =>
    IO.print (answer.output ((← IO.monoMsNow) - start))
    IO.eprint answer.remark
  return CommandLine.status result

end MethodCorpus

/-- Runs the program with the arguments of the command line. -/
def main (arguments : List String) : IO UInt32 := MethodCorpus.runProgram arguments
