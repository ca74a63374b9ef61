import MethodCorpus.Signature.Antlr
import MethodCorpus.Signature.Srcml

/-!
# All signatures of a tree

A tree is split into the methods below a node. Every method is read on its own: one that cannot be
read leaves a diagnostic in its place and does not disturb the others.
-/

namespace MethodCorpus

/-- A sort of trees that methods can be read from. -/
inductive Dialect where
  /-- Trees of the ANTLR grammar, with collapsed chains. -/
  | antlr
  /-- Trees of srcML elements. -/
  | srcml
  deriving DecidableEq

namespace Dialect

/-- The name of the reader of a dialect. -/
def readerName : Dialect → String
  | antlr => "antlr-java"
  | srcml => "srcml-java"

/-- The last segment that marks a method. -/
def methodLabel : Dialect → String
  | antlr => AntlrRule.methodDeclaration.text
  | srcml => SrcmlElement.function.text

/-- The first segment of the child that holds a method's name. -/
def nameLabel : Dialect → String
  | antlr => AntlrRule.identifier.text
  | srcml => SrcmlElement.name.text

/-- Reads a method from a node, whatever the node's label. -/
def read {tree : Tree} (dialect : Dialect) (node : Tree.Node tree) (filePath : String) :
    Reading (Signature tree) :=
  match dialect with
  | antlr => Signature.Antlr.read node filePath
  | srcml => Signature.Srcml.read node filePath

/-- The name by which a method that could not be read is reported. -/
def methodName? {tree : Tree} (dialect : Dialect) (node : Tree.Node tree) : Option String :=
  (node.children.find? (·.firstLabel == dialect.nameLabel)).bind Tree.Node.token?

/-- The methods below and including a node, in pre-order. -/
def methods {tree : Tree} (dialect : Dialect) (node : Tree.Node tree) : List (Tree.Node tree) :=
  node.preOrder.filter (·.lastLabel == dialect.methodLabel)

end Dialect

/-- The methods that were read from a tree, and what was left out. -/
structure Split (tree : Tree) where
  signatures : List (Signature tree)
  diagnostics : List Diagnostic

namespace Split

variable {tree : Tree}

/-- What the reading of one method adds to the diagnostics: its notes, and the failure if it has no
signature. -/
def diagnosticsOf (dialect : Dialect) (filePath : String) (method : Tree.Node tree) :
    List Diagnostic :=
  let reading := dialect.read method filePath
  reading.notes ++ match reading.result with
    | .ok _ => []
    | .error error => [.ofError error filePath (dialect.methodName? method)]

/-- Reads every method below and including a node. -/
def ofNode (dialect : Dialect) (filePath : String) (node : Tree.Node tree) : Split tree where
  signatures := (dialect.methods node).filterMap fun method =>
    (dialect.read method filePath).result.toOption
  diagnostics := (dialect.methods node).flatMap (diagnosticsOf dialect filePath)

end Split

end MethodCorpus
