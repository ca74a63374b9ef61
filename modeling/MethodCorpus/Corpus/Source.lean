import MethodCorpus.FileSystem.Access
import MethodCorpus.Glob
import MethodCorpus.Signature.Split
import MethodCorpus.SyntaxTree.Markup
import MethodCorpus.Tree.Copy
import MethodCorpus.Tree.Dump

/-!
# Source files

The source files of a language are all files with its extension below a directory, in the order of
their names. Files and folders whose name starts with a dot are left out, and files that a pattern
excludes. A folder that cannot be opened is passed over.

A source is loaded as a tree of one of the two dialects: a srcML tree is built from the syntax tree
of its text, which a parser for the language has to provide; an ANTLR tree is read from the dump that
stands beside the source.
-/

namespace MethodCorpus

/-- A language in which sources are written. -/
inductive Language where
  | java
  deriving DecidableEq

/-- The language's name. -/
def Language.name : Language → String
  | java => "java"

/-- How the names of its source files end. -/
def Language.extension : Language → String
  | java => "java"

/-- The name of a dialect. -/
def Dialect.name : Dialect → String
  | antlr => "antlr"
  | srcml => "srcml"

namespace Source

/-- Where the dump of a source stands. -/
def dumpPath (path : String) : String := path ++ ".antlr.json"

/-- The srcML tree of a source. -/
def srcmlTree (parser : String → SyntaxTree) (text : String) : Except Tree.Fault Tree :=
  Tree.ofRaw (parser text).unitMarkup

/-- Reads the dump that stands beside a source. -/
def loadDump (fs : FileSystem) (path : String) : Except Error Tree :=
  let dump := dumpPath path
  match fs.readText dump with
  | .error fault => .error (.file s!"failed to read parse tree dump: {fault.text}" dump)
  | .ok text =>
    match RawTree.ofDump? text with
    | none => .error (.parse "invalid parse tree dump: not a tree" dump)
    | some raw => (Tree.ofRaw raw).mapError Tree.Fault.error

/-- Reads a source and builds its srcML tree. -/
def loadText (parser : String → SyntaxTree) (fs : FileSystem) (path : String) :
    Except Error Tree :=
  match fs.readText path with
  | .error fault => .error (.file s!"failed to read source: {fault.text}" path)
  | .ok text => (srcmlTree parser text).mapError Tree.Fault.error

/-- The tree of a source. -/
def load (parser : String → SyntaxTree) (dialect : Dialect) (fs : FileSystem) (path : String) :
    Except Error Tree :=
  match dialect with
  | .antlr => loadDump fs path
  | .srcml => loadText parser fs path

/-- Whether a name is hidden. -/
def isHidden (name : String) : Bool := name.toList.head? == some '.'

/-- Whether the directory in which a file stands can be opened, which it cannot if its path is too
long. -/
def isReachable (root : String) (names : Route) : Bool :=
  (names.dropLast.foldl Path.join root).utf8ByteSize ≤ FileSystem.maxPathBytes

/-- Whether a file, given by the names that lead to it from the directory that is searched, is a
source. -/
def isWanted (root extension : String) (exclude : List String) (names : Route) : Bool :=
  let path := "/".intercalate names
  isReachable root names && !names.any isHidden && Path.extension? path == some extension &&
    !Glob.isExcluded exclude path

/-- The source files below a directory, with the directory's path in front. -/
def findAll (fs : FileSystem) (root extension : String) (exclude : List String) :
    Except Error (List String) :=
  match fs.directory? root with
  | none => .error (.file "input directory does not exist" root)
  | some place =>
    .ok <| ((fs.filesBelow place).filter (isWanted root extension exclude)).map fun names =>
      names.foldl Path.join root

end Source

end MethodCorpus
