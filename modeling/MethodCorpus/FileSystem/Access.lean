import MethodCorpus.FileSystem.Basic
import MethodCorpus.Path

/-!
# Reading and writing by path

A path is walked segment by segment from the working directory, and every segment has to be looked
up in a directory. An absolute path is walked from the working directory as well, since nothing else
is kept.

What stands at the end of a path decides what can be done there; why something cannot be done is a
`Fault`. A fault leaves the file system as it was, except that directories which were made on the way
to one that cannot be made stay.
-/

namespace MethodCorpus.FileSystem

/-- Why a path cannot be read or written. -/
inductive Fault where
  | notFound
  | busy
  | exists
  | notDirectory
  | isDirectory
  | nameTooLong
  /-- A name holds the character that ends names. -/
  | badName
  /-- The contents are no text. -/
  | notText
  deriving DecidableEq

/-- The report of a fault. -/
def Fault.text : Fault → String
  | notFound => "No such file or directory (os error 2)"
  | busy => "Device or resource busy (os error 16)"
  | «exists» => "File exists (os error 17)"
  | notDirectory => "Not a directory (os error 20)"
  | isDirectory => "Is a directory (os error 21)"
  | nameTooLong => "File name too long (os error 36)"
  | badName => "file name contained an unexpected NUL byte"
  | notText => "stream did not contain valid UTF-8"

/-- The greatest number of bytes of a name. -/
def maxNameBytes : Nat := 255

/-- The greatest number of bytes of a path. -/
def maxPathBytes : Nat := 4095

/-- The segments of a path that can be walked. -/
def usableSegments (path : String) : Except Fault (List String) :=
  if path.toList.contains '\x00' then .error .badName
  else if path.isEmpty then .error .notFound
  else if maxPathBytes < path.utf8ByteSize then .error .nameTooLong
  else .ok (Path.segments path)

variable (fs : FileSystem)

/-- The place that a segment leads to; there may be nothing yet. -/
def step (place : Route) (segment : String) : Except Fault Route :=
  match fs.lookup place with
  | none => .error .notFound
  | some (.file _) => .error .notDirectory
  | some .directory =>
    if Path.isIdle segment then .ok place
    else if segment = ".." then .ok place.dropLast
    else if maxNameBytes < segment.utf8ByteSize then .error .nameTooLong
    else .ok (place ++ [segment])

/-- The place that segments lead to from the working directory. -/
def walk (segments : List String) : Except Fault Route := segments.foldlM fs.step []

/-- The place that a path leads to. -/
def locate (path : String) : Except Fault Route := do
  fs.walk (← usableSegments path)

/-- The place of a directory, if the path leads to one. -/
def directory? (path : String) : Option Route :=
  (fs.locate path).toOption.filter fun place => fs.lookup place = some .directory

/-- Whether a path leads to a directory. -/
def isDirectory (path : String) : Bool := (fs.directory? path).isSome

/-- The contents of the file at a path. -/
def readFile (path : String) : Except Fault ByteArray := do
  match fs.lookup (← fs.locate path) with
  | none => .error .notFound
  | some .directory => .error .isDirectory
  | some (.file contents) => .ok contents

/-- The contents of the file at a path, as text. -/
def readText (path : String) : Except Fault String := do
  match String.fromUTF8? (← fs.readFile path) with
  | some text => .ok text
  | none => .error .notText

/-- What the end of a path names. -/
inductive Goal where
  /-- A name in a directory, and whether slashes follow it. -/
  | name (place : Route) (asDirectory : Bool)
  /-- A place in relation to another one, such as the directory above. -/
  | relative (place : Route)

/-- What the end of a path names, once everything before it has been walked. -/
def goal (path : String) : Except Fault Goal := do
  let segments ← usableSegments path
  match segments.reverse.dropWhile (· == "") with
  | [] => .ok (.relative [])
  | last :: before =>
    let place ← fs.walk (last :: before).reverse
    if last = "." || last = ".." then .ok (.relative place)
    else .ok (.name place (segments.getLast? = some ""))

/-- Makes a directory at a path where there is nothing. -/
def createDirectory (path : String) : Except Fault FileSystem := do
  match ← fs.goal path with
  | .relative _ => .error .exists
  | .name place _ =>
    if (fs.lookup place).isSome then .error .exists else .ok (fs.put place .directory)

/-- Makes a directory at a path unless there is one. -/
def ensureDirectory (path : String) : FileSystem × Option Fault :=
  match fs.createDirectory path with
  | .ok fs => (fs, none)
  | .error fault => (fs, if fs.isDirectory path then none else some fault)

/-- Makes the first directory of a list unless there is one. The others are the paths above it; they
are made first if it has nothing to stand in. -/
def ensureFirst (fs : FileSystem) : List String → FileSystem × Option Fault
  | [] => (fs, none)
  | path :: above =>
    match fs.ensureDirectory path with
    | (fs, some .notFound) =>
      match ensureFirst fs above with
      | (fs, none) => fs.ensureDirectory path
      | failed => failed
    | done => done

/-- Makes a directory and all directories above it, as far as they are not there. -/
def createDirectories (path : String) : FileSystem × Option Fault :=
  if path.isEmpty then (fs, none)
  else fs.ensureFirst (path :: Path.above (Path.trim (Path.segments path)))

/-- Writes a file, in place of the one that may stand there. -/
def writeFile (path : String) (contents : ByteArray) : Except Fault FileSystem := do
  match ← fs.goal path with
  | .relative _ | .name _ true => .error .isDirectory
  | .name place false =>
    if fs.lookup place = some .directory then .error .isDirectory
    else .ok (fs.put place (.file contents))

/-- Moves a file, in place of the one that may stand at the new path. -/
def moveFile (source target : String) : Except Fault FileSystem := do
  match ← fs.goal source, ← fs.goal target with
  | .name source sourceSlash, .name target targetSlash =>
    match fs.lookup source with
    | none => .error .notFound
    | some .directory => .error .isDirectory
    | some (.file contents) =>
      if sourceSlash || targetSlash then .error .notDirectory
      else if fs.lookup target = some .directory then .error .isDirectory
      else .ok ((fs.erase source).put target (.file contents))
  | _, _ => .error .busy

end MethodCorpus.FileSystem
