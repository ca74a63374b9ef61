import MethodCorpus.Count
import MethodCorpus.Tree.Node

/-!
# Walking a subtree

Dumps of expression chains are thousands of levels deep, so a subtree is walked with an explicit
stack and not by recursion on the node. The stack holds the nodes still to be visited, next first;
a visited node puts its children on it.

* `Node.weight`: the number of nodes below and including a node, by recursion on its children. It is
  what the loops have still to do.
* `Node.preOrder`: the walk, each node before its descendants and siblings in source order.
-/

namespace MethodCorpus.Tree.Node

variable {tree : Tree}

/-- One more than the weights of the children together. -/
def weight (node : Node tree) : Nat :=
  1 + total (node.children.attach.map fun child => weight child.1)
termination_by tree.size - node.index
decreasing_by
  have below := index_lt_of_mem_children child.2
  have inside := child.1.isLt
  simp only [Tree.size]
  omega

theorem weight_eq (node : Node tree) :
    node.weight = 1 + total (node.children.map weight) := by
  rw [weight]
  simp only [List.map_attach_eq_pmap, List.pmap_eq_map]

/-- What a stack has still to do. -/
def weights (stack : List (Node tree)) : Nat := total (stack.map weight)

theorem weights_children_append (node : Node tree) (stack : List (Node tree)) :
    weights (node.children ++ stack) < weights (node :: stack) := by
  simp only [weights, List.map_append, total_append, List.map_cons, total, weight_eq node]
  omega

/-- Visits every node below the nodes of a stack, after those already visited. -/
def visit (stack : List (Node tree)) (visited : Array (Node tree)) : Array (Node tree) :=
  match stack with
  | [] => visited
  | node :: rest => visit (node.children ++ rest) (visited.push node)
termination_by weights stack
decreasing_by exact weights_children_append node rest

/-- The node and everything below it: each node before its descendants, siblings in source order. -/
def preOrder (node : Node tree) : List (Node tree) :=
  (visit [node] #[]).toList

/-- The number of nodes below and including the node. -/
def size (node : Node tree) : Nat := node.preOrder.length

/-- The tokens of the leaves below and including the node, in source order. -/
def leafTokens (node : Node tree) : List String :=
  node.preOrder.filterMap token?

/-- The tokens of the leaves put together, with nothing between them. -/
def text (node : Node tree) : String := String.join node.leafTokens

end MethodCorpus.Tree.Node
