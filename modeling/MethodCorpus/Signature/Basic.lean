import MethodCorpus.Diagnostic
import MethodCorpus.Tree.Traversal

/-!
# Method signatures

A signature is what is known of one method without looking into its body: its name, its parameters,
its return type, its modifiers and annotations, and the declaration around it. It keeps the nodes
it was read from; its `Summary` does not, and outlives the tree.
-/

namespace MethodCorpus

/-- A parameter of a method. -/
structure Parameter where
  name : String
  type : Option String
  deriving DecidableEq

/-- What sort of declaration stands around a method. -/
inductive EnclosingKind where
  | classDeclaration
  | enumDeclaration
  deriving DecidableEq

/-- The nearest class or enumeration around a method. -/
structure Enclosing (tree : Tree) where
  kind : EnclosingKind
  /-- The simple name; an anonymous declaration has none. -/
  name : Option String
  root : Tree.Node tree
  deriving DecidableEq

/-- What is known of one method. -/
structure Signature (tree : Tree) where
  root : Tree.Node tree
  filePath : String
  nameNode : Option (Tree.Node tree)
  /-- The parameters in order, none if one of them could not be read. -/
  parameters : Option (List Parameter)
  returnType : Option String
  enclosing : Option (Enclosing tree)
  annotations : Option (List String)
  modifiers : Option (List String)
  body : Option (Tree.Node tree)
  isConstructor : Bool
  deriving DecidableEq

/-- A signature without the nodes it was read from. -/
structure Summary where
  name : Option String
  filePath : String
  returnType : Option String
  parameters : Option (List Parameter)
  enclosingKind : Option EnclosingKind
  enclosingName : Option String
  annotations : Option (List String)
  modifiers : Option (List String)
  isConstructor : Bool
  hasBody : Bool
  deriving DecidableEq

namespace Signature

variable {tree : Tree}

/-- The method's name, if its name node is a leaf. -/
def name (signature : Signature tree) : Option String :=
  signature.nameNode.bind Tree.Node.token?

/-- The signature without its nodes. -/
def summary (signature : Signature tree) : Summary where
  name := signature.name
  filePath := signature.filePath
  returnType := signature.returnType
  parameters := signature.parameters
  enclosingKind := signature.enclosing.map Enclosing.kind
  enclosingName := signature.enclosing.bind Enclosing.name
  annotations := signature.annotations
  modifiers := signature.modifiers
  isConstructor := signature.isConstructor
  hasBody := signature.body.isSome

end Signature

/-- The outcome of reading a method: the method or why there is none, and notes on list entries
that were left out of it. -/
structure Reading (α : Type) where
  result : Except Error α
  notes : List Diagnostic

end MethodCorpus
