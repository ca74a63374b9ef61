import Mathlib.Data.List.Basic
import MethodCorpus.Tree.Copy

/-!
# The loops over a subtree as recursions

`Node.preOrder` and `Node.toRaw` run over a subtree with a stack of their own. What they return is
what a recursion over the children would return:

* `Node.preOrder_eq`: the node, then the walks of its children;
* `Node.toRaw_eq`: the node's label and token over the copies of its children;
* `Node.map_toRaw_preOrder`: the copies of the nodes of the walk are the subtrees of the copy.

`Node.childInduction` is the induction that goes with these equations.
-/

namespace MethodCorpus

/-! ## Trees by value -/

namespace RawTree

/-- A statement about trees that holds of a tree if it holds of its children. -/
@[elab_as_elim, induction_eliminator]
theorem childInduction {motive : RawTree → Prop}
    (node : ∀ label token children, (∀ child ∈ children, motive child) →
      motive ⟨label, token, children⟩) (tree : RawTree) : motive tree :=
  RawTree.rec (motive_1 := motive) (motive_2 := fun trees => ∀ child ∈ trees, motive child)
    (fun label token children ih => node label token children ih)
    (fun _ h => absurd h List.not_mem_nil)
    (fun _ _ ih ihs child h => by
      rcases List.mem_cons.1 h with rfl | h
      · exact ih
      · exact ihs child h) tree

theorem forestSubtrees_eq (trees : List RawTree) :
    forestSubtrees trees = trees.flatMap subtrees := by
  induction trees with
  | nil => rfl
  | cons tree rest ih => rw [forestSubtrees, ih, List.flatMap_cons]

theorem subtrees_eq (tree : RawTree) : tree.subtrees = tree :: tree.children.flatMap subtrees := by
  obtain ⟨label, token, children⟩ := tree
  rw [subtrees, forestSubtrees_eq]

end RawTree

namespace Tree.Node

variable {tree : Tree}

/-- A statement about nodes that holds of a node if it holds of its children. -/
@[elab_as_elim]
theorem childInduction {motive : Node tree → Prop}
    (step : ∀ node, (∀ child ∈ node.children, motive child) → motive node) (node : Node tree) :
    motive node :=
  step node fun child _below => childInduction step child
termination_by tree.size - node.index
decreasing_by
  have deeper := index_lt_of_mem_children _below
  have inside := child.isLt
  simp only [Tree.size]
  omega

/-! ## The walk -/

/-- The loop visits the nodes of its stack and all that is below them, one after the other. -/
theorem toList_visit (stack : List (Node tree)) (visited : Array (Node tree)) :
    (visit stack visited).toList = visited.toList ++ stack.flatMap preOrder := by
  match stack with
  | [] => rw [visit, List.flatMap_nil, List.append_nil]
  | node :: rest =>
    have below := toList_visit (node.children ++ []) #[node]
    have behind := toList_visit (node.children ++ rest) (visited.push node)
    have whole : node.preOrder = node :: node.children.flatMap preOrder := by
      rw [preOrder, visit, List.push_toArray, List.nil_append, below, List.append_nil,
        List.singleton_append]
    rw [visit, behind, List.flatMap_cons, whole, Array.toList_push, List.flatMap_append]
    simp only [List.append_assoc, List.cons_append, List.nil_append]
termination_by weights stack
decreasing_by
  · have alone := weights_children_append node []
    simp only [weights, List.map_cons, List.map_nil, total] at alone ⊢
    omega
  · exact weights_children_append node rest

/-- A node is walked before its children, and those in source order. -/
theorem preOrder_eq (node : Node tree) :
    node.preOrder = node :: node.children.flatMap preOrder := by
  rw [preOrder, visit, toList_visit, List.append_nil, List.push_toArray, List.nil_append,
    List.singleton_append]

/-! ## The copy -/

/-- The turns that enter some nodes, if each of them puts its copy on what is done. -/
theorem copy_enters (nodes : List (Node tree)) (rest : List (Turn tree)) (done : List RawTree)
    (each : ∀ node ∈ nodes, ∀ rest done,
      copy (.enter node :: rest) done = copy rest (node.toRaw :: done)) :
    copy (nodes.map .enter ++ rest) done = copy rest ((nodes.map toRaw).reverse ++ done) := by
  induction nodes generalizing done with
  | nil => rfl
  | cons node nodes ih =>
    rw [List.map_cons, List.cons_append, each node List.mem_cons_self,
      ih _ fun other h => each other (List.mem_cons_of_mem _ h)]
    simp only [List.map_cons, List.reverse_cons, List.append_assoc, List.singleton_append]

/-- A node that is entered leaves its copy on what is done, if its children do. -/
theorem copy_enter_of_children (node : Node tree) (rest : List (Turn tree)) (done : List RawTree)
    (each : ∀ child ∈ node.children, ∀ rest done,
      copy (.enter child :: rest) done = copy rest (child.toRaw :: done)) :
    copy (.enter node :: rest) done =
      copy rest (⟨node.label, node.entry.token, node.children.map toRaw⟩ :: done) := by
  have count : node.children.length = (node.children.map toRaw).reverse.length := by
    rw [List.length_reverse, List.length_map]
  rw [copy, copy_enters _ _ _ each, copy, count, List.take_left, List.drop_left,
    List.reverse_reverse]

/-- A node that is entered leaves its copy on what is done. -/
theorem copy_enter (node : Node tree) : ∀ (rest : List (Turn tree)) (done : List RawTree),
    copy (.enter node :: rest) done = copy rest (node.toRaw :: done) := by
  induction node using childInduction with
  | step node ih =>
    have alone : node.toRaw = ⟨node.label, node.entry.token, node.children.map toRaw⟩ := by
      rw [toRaw, copy_enter_of_children node [] [] ih, copy]
    intro rest done
    rw [copy_enter_of_children node rest done ih, alone]

/-- The copy of a node has its label and token, and the copies of its children. -/
theorem toRaw_eq (node : Node tree) :
    node.toRaw = ⟨node.label, node.entry.token, node.children.map toRaw⟩ := by
  rw [toRaw, copy_enter_of_children node [] [] fun child _ => copy_enter child, copy]

@[simp] theorem toRaw_label (node : Node tree) : node.toRaw.label = node.label := by
  rw [toRaw_eq]

@[simp] theorem toRaw_token (node : Node tree) : node.toRaw.token = node.entry.token := by
  rw [toRaw_eq]

@[simp] theorem toRaw_children (node : Node tree) :
    node.toRaw.children = node.children.map toRaw := by
  rw [toRaw_eq]

/-- The copies of the nodes of a walk are the subtrees of the copy. -/
theorem map_toRaw_preOrder (node : Node tree) : node.preOrder.map toRaw = node.toRaw.subtrees := by
  induction node using childInduction with
  | step node ih =>
    rw [preOrder_eq, RawTree.subtrees_eq, toRaw_children, List.map_cons, List.map_flatMap,
      List.flatMap_map, List.flatMap_congr ih]

end Tree.Node

end MethodCorpus
