import MethodCorpus.Corpus.Unit
import MethodCorpus.FileSystem.Access

/-!
# The store of a corpus

A store is a directory with one file, in which every record stands on a line of its own. Opening a
store empties it.
-/

namespace MethodCorpus.Store

/-- The name of the file in a store's directory. -/
def fileName : String := "labeled.jsonl"

/-- Where the records of a store stand. -/
def filePath (directory : String) : String := Path.join directory fileName

/-- The contents of a store. -/
def contents (records : List Record) : String := String.join (records.map Record.line)

/-- Opens a store in a directory, which is made if it is not there. -/
def create (fs : FileSystem) (directory : String) : FileSystem × Except Error Unit :=
  match fs.createDirectories directory with
  | (fs, some fault) =>
    (fs, .error (.storage s!"failed to create storage directory: {fault.text}" directory))
  | (fs, none) =>
    let path := filePath directory
    match fs.writeFile path .empty with
    | .error fault => (fs, .error (.storage s!"failed to create storage file: {fault.text}" path))
    | .ok fs => (fs, .ok ())

/-- Writes the records of a store that is open. -/
def write (fs : FileSystem) (directory : String) (records : List Record) :
    FileSystem × Except Error Unit :=
  let path := filePath directory
  match fs.writeFile path (contents records).toUTF8 with
  | .error fault => (fs, .error (.storage s!"failed to write labeled unit: {fault.text}" path))
  | .ok fs => (fs, .ok ())

end MethodCorpus.Store
