import MethodCorpus.Corpus.Source
import MethodCorpus.SyntaxTree.Listing

/-!
# Parsers by listing

A parser for sources need not be a part of this library. Where the syntax trees of some sources are
known, looking up the text of a source among them is a parser; of any other text it makes a tree with
nothing in it.
-/

namespace MethodCorpus.Source

/-- The tree of a source of which nothing is known. -/
def blankTree (text : String) : SyntaxTree := ⟨"program", true, none, text, []⟩

/-- The parser that knows the trees of some texts. -/
def parserOf (known : List (String × SyntaxTree)) (text : String) : SyntaxTree :=
  (known.lookup text).getD (blankTree text)

/-- Where the listing of a source stands. -/
def listingPath (path : String) : String := path ++ ".cst.json"

/-- The text of a file and its syntax tree, if a listing stands beside the file. -/
def listed? (fs : FileSystem) (path : String) : Option (String × SyntaxTree) := do
  let listing ← (fs.readText (listingPath path)).toOption
  let text ← (fs.readText path).toOption
  let tree ← SyntaxTree.ofJson? text (← Json.parse listing)
  return (text, tree)

/-- The texts and syntax trees of all files beside which a listing stands. -/
def listed (fs : FileSystem) : List (String × SyntaxTree) :=
  (fs.filesBelow []).filterMap fun names => listed? fs ("/".intercalate names)

end MethodCorpus.Source
