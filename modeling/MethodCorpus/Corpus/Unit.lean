import MethodCorpus.Digest.Sha256
import MethodCorpus.Tree.Copy
import MethodCorpus.Tree.Dump

/-!
# Units of a corpus

A unit is a subtree that was found worth keeping, with its label and the path of the file that it
comes from. Its identifier is made from the path, the label and the place of the subtree, so it
stays the same from run to run. A unit is stored as a `Record`, which keeps the subtree by value.
-/

namespace MethodCorpus

/-- The number of digits of an identifier. -/
def Record.idDigits : Nat := 32

/-- The identifier of the unit with a label at a place of a file. -/
def Record.idOf (path label : String) (place : Nat) : String :=
  "unit:" ++ String.ofList
    ((Digest.sha256 s!"{path}:{label}:{place}".toUTF8.toList).take Record.idDigits)

/-- A unit as it is stored. -/
structure Record where
  id : String
  label : String
  path : String
  tree : RawTree

namespace Record

/-- The record as a JSON value. -/
def toJson (record : Record) : Json :=
  .ofMembers [("id", .ofText record.id), ("label", .ofText record.label),
    ("path", .ofText record.path), ("tree", record.tree.toJson)]

/-- The record on a line of its own. -/
def line (record : Record) : String := record.toJson.compact ++ "\n"

end Record

/-- A subtree that is kept, with its label. -/
structure LabeledUnit (tree : Tree) where
  root : Tree.Node tree
  label : String
  filePath : String

namespace LabeledUnit

variable {tree : Tree}

/-- The identifier of a unit. -/
def id (unit : LabeledUnit tree) : String :=
  Record.idOf unit.filePath unit.label unit.root.index

/-- What is stored of a unit. -/
def record (unit : LabeledUnit tree) : Record :=
  ⟨unit.id, unit.label, unit.filePath, unit.root.toRaw⟩

end LabeledUnit

end MethodCorpus
