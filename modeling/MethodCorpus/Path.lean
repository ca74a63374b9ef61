/-!
# Paths

A path is a text whose segments are divided by slashes. Empty segments and single dots say nothing
behind another segment, so a path is read without those at its end; two dots step up. An absolute
path starts with a slash, its first segment is empty.

The functions here look at the text alone. What stands at a path is for `MethodCorpus.FileSystem` to
say.

* `split_ne_nil`: a text has at least one segment.
* `length_trim_le`: segments that say nothing are only ever left out, so steps up come to an end.
-/

namespace MethodCorpus.Path

/-- The sign between two segments. -/
def separator : Char := '/'

/-- The parts of a text between its slashes. -/
def split : List Char → List (List Char)
  | [] => [[]]
  | c :: rest =>
    if c = separator then [] :: split rest
    else match split rest with
      | [] => [[c]]
      | part :: parts => (c :: part) :: parts

theorem split_ne_nil (text : List Char) : split text ≠ [] := by
  fun_cases split text <;> simp_all

/-- The segments of a path, empty ones included. -/
def segments (path : String) : List String := (split path.toList).map String.ofList

/-- Whether a segment stays where it is. -/
def isIdle (segment : String) : Bool := segment == "" || segment == "."

/-- The segments up to the last one that says something; the first one is kept in any case. -/
def trim : List String → List String
  | [] => []
  | first :: rest => first :: (rest.reverse.dropWhile isIdle).reverse

/-- The path of a list of segments. -/
def ofSegments : List String → String
  | [""] => "/"
  | segments => "/".intercalate segments

/-- Whether the path starts at the root and not at the working directory. -/
def isAbsolute (path : String) : Bool := path.toList.head? == some separator

/-- The last segment, if it is a name. -/
def fileName? (path : String) : Option String :=
  (trim (segments path)).getLast?.filter fun name => !isIdle name && name != ".."

/-- The path without its last segment; a root and an empty path have none to leave out. -/
def parent? (path : String) : Option String :=
  match trim (segments path) with
  | [] => none
  | [only] => if only = "" then none else some ""
  | segments => some (ofSegments (trim segments.dropLast))

theorem length_trim_le (segments : List String) : (trim segments).length ≤ segments.length := by
  cases segments with
  | nil => exact Nat.le_refl _
  | cons first rest =>
    have shorter := (List.dropWhile_suffix (p := isIdle) (l := rest.reverse)).length_le
    simpa [trim] using shorter

/-- The paths above a path that is given by its segments, nearest first, without the empty one. -/
def above : List String → List String
  | [] | [_] => []
  | first :: second :: rest =>
    let upper := trim (first :: second :: rest).dropLast
    ofSegments upper :: above upper
termination_by segments => segments.length
decreasing_by
  have shorter := length_trim_le (first :: second :: rest).dropLast
  simp only [List.length_dropLast, List.length_cons] at shorter ⊢
  omega

/-- The part of a name up to its last dot, and what stands behind that dot. A dot at the front divides
nothing. -/
def splitName (name : String) : String × Option String :=
  let behind := name.toList.reverse.takeWhile (· != '.')
  match name.toList.reverse.dropWhile (· != '.') with
  | [] | [_] => (name, none)
  | _ :: before => (String.ofList before.reverse, some (String.ofList behind.reverse))

/-- What stands behind the last dot of the file name. -/
def extension? (path : String) : Option String := (fileName? path).bind (splitName · |>.2)

/-- The path with another ending put behind the stem of its file name, in place of what follows the
stem; a path without a file name is left as it is. -/
def setExtension (path ending : String) : String :=
  match fileName? path with
  | none => path
  | some name =>
    let stem := (splitName name).1
    let folder := (trim (segments path)).dropLast
    let before := folder.foldl (fun length segment => length + segment.length + 1) 0
    String.ofList (path.toList.take (before + stem.length)) ++ "." ++ ending

/-- The path with its extension replaced, or with a new one if it has none. The old extension is cut
off before the stem is looked for. -/
def withExtension (path ending : String) : String :=
  let old := (extension? path).getD ""
  setExtension (String.ofList (path.toList.take (path.length - old.length))) ending

/-- A path continued by another one, which stands alone if it is absolute. -/
def join (path further : String) : String :=
  if isAbsolute further then further
  else if path.isEmpty || path.toList.getLast? == some separator then path ++ further
  else path ++ "/" ++ further

end MethodCorpus.Path
