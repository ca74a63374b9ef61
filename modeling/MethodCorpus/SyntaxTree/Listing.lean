import MethodCorpus.Json.Record
import MethodCorpus.SyntaxTree.Basic

/-!
# Listings of syntax trees

A concrete syntax tree is handed over as the list of its nodes in pre-order, each with its depth and
with the bytes of the source that it covers. From the end of the list a node collects the deeper
nodes that come right behind it.

In JSON a node of a listing is an array of its depth, its kind, one or zero for a named part or a mere
sign, its role or null, and the two bytes.
-/

namespace MethodCorpus.SyntaxTree

/-- One node of a listing. -/
structure Line where
  depth : Nat
  kind : String
  named : Bool
  field : Option SyntaxField
  /-- The first byte of the source that the node covers. -/
  start : Nat
  /-- The byte behind the last one that the node covers. -/
  stop : Nat

/-- The text between two bytes of a source; empty if they cut a character. -/
def slice (source : ByteArray) (start stop : Nat) : String :=
  (String.fromUTF8? (source.extract start stop)).getD ""

/-- Puts a node in front of a list of trees with their depths; the deeper ones at the front of the
list are its children. -/
def collect (source : ByteArray) (line : Line) (trees : List (Nat × SyntaxTree)) :
    List (Nat × SyntaxTree) :=
  let inside := trees.takeWhile (line.depth < ·.1)
  let behind := trees.dropWhile (line.depth < ·.1)
  (line.depth, ⟨line.kind, line.named, line.field, slice source line.start line.stop,
    inside.map Prod.snd⟩) :: behind

/-- The tree of a listing, if it has exactly one root. -/
def ofListing? (source : String) (lines : List Line) : Option SyntaxTree :=
  match lines.foldr (collect source.toUTF8) [] with
  | [(0, tree)] => some tree
  | _ => none

/-- A node of a listing as a JSON value describes it. -/
def Line.ofJson? : Json → Option Line
  | .array [depth, kind, named, field, start, stop] => do
    return {
      depth := ← depth.nat?
      kind := ← kind.text?
      named := (← named.nat?) != 0
      field := ← field.option? fun role => role.text?.bind SyntaxField.ofLabel?
      start := ← start.nat?
      stop := ← stop.nat? }
  | _ => none

/-- The tree of a listing that a JSON value describes. -/
def ofJson? (source : String) (listing : Json) : Option SyntaxTree := do
  ofListing? source (← listing.list? Line.ofJson?)

end MethodCorpus.SyntaxTree
