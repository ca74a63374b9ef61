import MethodCorpus.Proofs.Tree.RoundTrip

/-!
# Places are pre-order numbers

A table may list siblings with rows of other nodes between them. In a table that was made from a
tree by value there is nothing between a node and the nodes below it: the walk of a node meets the
places from its own on, one after the other.

* `map_index_children`: where the children of a node stand;
* `map_index_preOrder`: the places that the walk of a node meets;
* `map_index_preOrder_root`: the walk of the root meets all places in order.
-/

namespace MethodCorpus.Tree

open RawTree (places)

variable {raw : RawTree} {tree : Tree}

/-- A node has the number of its copy among the subtrees. -/
theorem getElem?_subtrees_of_ofRaw (h : ofRaw raw = .ok tree) (node : Node tree) :
    raw.subtrees[node.index]? = some node.toRaw := by
  have inside : node.index < raw.subtrees.length := by
    rw [← size_of_ofRaw h]
    exact node.isLt
  have numbered := List.getElem?_eq_getElem inside
  rw [numbered, toRaw_of_ofRaw h numbered]

/-- The first child of a node stands behind it, and each other one behind what is below the last. -/
theorem map_index_children (h : ofRaw raw = .ok tree) (node : Node tree) :
    node.children.map Node.index = places (node.index + 1) (node.children.map Node.toRaw) := by
  obtain ⟨-, -, children⟩ := entry_of_ofRaw h (getElem?_subtrees_of_ofRaw h node)
  rw [Node.toRaw_children] at children
  rw [← children, Node.children, List.map_pmap, List.pmap_eq_map, List.map_id']

/-- Nodes that stand one behind the other are walked from the first place on, if each of them is
walked from its own place on. -/
theorem map_index_flatMap_preOrder {nodes : List (Node tree)} {place : Nat}
    (numbered : nodes.map Node.index = places place (nodes.map Node.toRaw))
    (each : ∀ node ∈ nodes,
      node.preOrder.map Node.index = List.range' node.index node.toRaw.size) :
    (nodes.flatMap Node.preOrder).map Node.index =
      List.range' place (RawTree.sizes (nodes.map Node.toRaw)) := by
  induction nodes generalizing place with
  | nil => rfl
  | cons node rest ih =>
    rw [List.map_cons, List.map_cons, places] at numbered
    obtain ⟨here, others⟩ := List.cons.inj numbered
    rw [List.flatMap_cons, List.map_append, each node List.mem_cons_self, here,
      ih others fun other mem => each other (List.mem_cons_of_mem _ mem), List.map_cons,
      RawTree.sizes, List.range'_append_1]

/-- The walk of a node meets as many places as its copy has nodes, from its own place on. -/
theorem map_index_preOrder (h : ofRaw raw = .ok tree) (node : Node tree) :
    node.preOrder.map Node.index = List.range' node.index node.toRaw.size := by
  induction node using Node.childInduction with
  | step node ih =>
    rw [Node.preOrder_eq, List.map_cons, map_index_flatMap_preOrder (map_index_children h node) ih,
      RawTree.size_eq, Node.toRaw_children, Nat.add_comm 1 (RawTree.sizes _), List.range'_succ]

/-- The walk of the root meets all places in order. -/
theorem map_index_preOrder_root (h : ofRaw raw = .ok tree) :
    tree.root.preOrder.map Node.index = List.range tree.size := by
  rw [map_index_preOrder h, toRaw_root_of_ofRaw h, ← RawTree.length_subtrees, ← size_of_ofRaw h,
    List.range_eq_range']
  rfl

end MethodCorpus.Tree
