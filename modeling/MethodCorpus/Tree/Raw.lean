/-!
# Trees by value

A raw tree is a parse tree as it is written down: a label, a token for a leaf, and the children in
source order. Nothing keeps a raw tree from giving a token to an inner node or none to a leaf; the
node table of `MethodCorpus.Tree` does.

* `RawTree.length_subtrees`: a tree has as many subtrees as it has nodes.
-/

namespace MethodCorpus

/-- A tree by value, not checked for tokens. -/
structure RawTree where
  label : String
  token : Option String
  children : List RawTree

namespace RawTree

/-- A node without children that carries a token. -/
def leaf (label token : String) : RawTree := ⟨label, some token, []⟩

/-- A node with the given children and no token. -/
def inner (label : String) (children : List RawTree) : RawTree := ⟨label, none, children⟩

mutual

/-- The number of nodes of a tree. -/
def size : RawTree → Nat
  | ⟨_, _, children⟩ => 1 + sizes children

/-- The number of nodes of a list of trees. -/
def sizes : List RawTree → Nat
  | [] => 0
  | tree :: rest => tree.size + sizes rest

end

mutual

/-- A tree and all trees below it, each before its children, in source order. -/
def subtrees : RawTree → List RawTree
  | ⟨label, token, children⟩ => ⟨label, token, children⟩ :: forestSubtrees children

/-- The subtrees of each tree of a list, one after the other. -/
def forestSubtrees : List RawTree → List RawTree
  | [] => []
  | tree :: rest => tree.subtrees ++ forestSubtrees rest

end

mutual

/-- Equality of trees can be decided. -/
protected def decEq : (s t : RawTree) → Decidable (s = t)
  | ⟨label, token, children⟩, ⟨label', token', children'⟩ =>
    match decEq label label', decEq token token', RawTree.forestDecEq children children' with
    | isTrue h, isTrue h', isTrue h'' => isTrue (by rw [h, h', h''])
    | isFalse h, _, _ => isFalse fun e => h (congrArg RawTree.label e)
    | _, isFalse h, _ => isFalse fun e => h (congrArg RawTree.token e)
    | _, _, isFalse h => isFalse fun e => h (congrArg RawTree.children e)

/-- Equality of lists of trees can be decided. -/
protected def forestDecEq : (s t : List RawTree) → Decidable (s = t)
  | [], [] => isTrue rfl
  | [], _ :: _ => isFalse nofun
  | _ :: _, [] => isFalse nofun
  | tree :: rest, tree' :: rest' =>
    match RawTree.decEq tree tree', RawTree.forestDecEq rest rest' with
    | isTrue h, isTrue h' => isTrue (by rw [h, h'])
    | isFalse h, _ => isFalse fun e => h (List.cons.inj e).1
    | _, isFalse h => isFalse fun e => h (List.cons.inj e).2

end

instance : DecidableEq RawTree := RawTree.decEq

mutual

/-- A tree has as many subtrees as it has nodes. -/
theorem length_subtrees : (tree : RawTree) → tree.subtrees.length = tree.size
  | ⟨_, _, children⟩ => by
    rw [subtrees, size, List.length_cons, length_forestSubtrees children, Nat.add_comm]

/-- A list of trees has as many subtrees as it has nodes. -/
theorem length_forestSubtrees : (trees : List RawTree) → (forestSubtrees trees).length = sizes trees
  | [] => rfl
  | tree :: rest => by
    rw [forestSubtrees, sizes, List.length_append, length_subtrees tree, length_forestSubtrees rest]

end

end RawTree

end MethodCorpus
