import MethodCorpus.Label.Vocabulary
import MethodCorpus.Tree.Table

/-!
# Nodes of a finished tree

A node is a place in the table of a given tree, so two nodes are equal exactly if they stand at the
same place of the same tree. From a node one reads its labels and its token, and steps to its
children, its parent and its ancestors.

Questions about labels come in two sorts. A node is asked for a child by the child's first segment,
the rule that the node's own rule mentions. What a node is (its `kind`) is told by its last segment,
the rule whose children it has.

* `index_lt_of_mem_children`, `index_parent?_lt`: steps down go to larger places, steps up to
  smaller ones, so both end.
-/

namespace MethodCorpus.Tree

/-- A node of a tree. -/
structure Node (tree : Tree) where
  index : Nat
  isLt : index < tree.entries.size
  deriving DecidableEq

/-- The node at a place, if the tree is that large. -/
def node? (tree : Tree) (index : Nat) : Option (Node tree) :=
  if isLt : index < tree.entries.size then some ⟨index, isLt⟩ else none

/-- The first node, which is the only one without a parent. -/
def root (tree : Tree) : Node tree := ⟨0, tree.size_pos⟩

namespace Node

variable {tree : Tree}

/-- The row of the table at which the node stands. -/
def entry : Node tree → Entry
  | ⟨index, _inside⟩ => tree.entries[index]

theorem getElem?_index (node : Node tree) : tree.entries[node.index]? = some node.entry :=
  Array.getElem?_eq_getElem node.isLt

/-- The whole label. -/
def label (node : Node tree) : String := node.entry.label

/-- The first segment of the label. -/
def firstLabel (node : Node tree) : String := Label.firstSegment node.label

/-- The last segment of the label. -/
def lastLabel (node : Node tree) : String := Label.lastSegment node.label

/-- A listed child is a row of the table. -/
theorem isLt_of_mem_children {node : Node tree} {child : Nat} (h : child ∈ node.entry.children) :
    child < tree.entries.size := by
  obtain ⟨_, hd, -⟩ := (tree.linked.mem_children_iff node.getElem?_index).1 h
  exact (Array.getElem?_eq_some_iff.1 hd).1

/-- The children in source order. -/
def children (node : Node tree) : List (Node tree) :=
  node.entry.children.pmap Node.mk fun _ h => isLt_of_mem_children h

/-- A row that is named as a parent is a row of the table. -/
theorem isLt_of_parent {node : Node tree} {parent : Nat} (h : node.entry.parent = some parent) :
    parent < tree.entries.size :=
  Nat.lt_trans (tree.linked.parent_lt node.getElem?_index h) node.isLt

/-- The parent; the root has none. -/
def parent? (node : Node tree) : Option (Node tree) :=
  match h : node.entry.parent with
  | none => none
  | some parent => some ⟨parent, isLt_of_parent h⟩

/-- A child stands behind its parent. -/
theorem index_lt_of_mem_children {node child : Node tree} (h : child ∈ node.children) :
    node.index < child.index := by
  obtain ⟨index, mem, rfl⟩ := List.mem_pmap.1 h
  obtain ⟨_, hd, hparent⟩ := (tree.linked.mem_children_iff node.getElem?_index).1 mem
  exact tree.linked.parent_lt hd hparent

/-- A parent stands before its child. -/
theorem index_parent?_lt {node parent : Node tree} (h : node.parent? = some parent) :
    parent.index < node.index := by
  unfold parent? at h
  split at h
  · simp at h
  · next place hp =>
    obtain rfl := Option.some.inj h
    exact tree.linked.parent_lt node.getElem?_index hp

/-- The proper ancestors, nearest first. -/
def ancestors (node : Node tree) : List (Node tree) :=
  match _above : node.parent? with
  | none => []
  | some parent => parent :: parent.ancestors
termination_by node.index
decreasing_by exact index_parent?_lt _above

/-- Whether the node has no children. -/
def isLeaf (node : Node tree) : Bool := node.entry.children.isEmpty

/-- The token of a leaf; an inner node has none. -/
def token (node : Node tree) : Except Error String :=
  match node.entry.token, node.isLeaf with
  | some token, true => .ok token
  | _, _ => .error (.notALeaf node.label)

/-- The token of a leaf, if the node is one. -/
def token? (node : Node tree) : Option String := node.token.toOption

section Vocabulary

variable {α : Type} [Vocabulary α]

/-- The first child whose first segment is the given label. -/
def child? (node : Node tree) (label : α) : Option (Node tree) :=
  node.children.find? (·.firstLabel == Vocabulary.text label)

/-- All children whose first segment is the given label. -/
def childrenOf (node : Node tree) (label : α) : List (Node tree) :=
  node.children.filter (·.firstLabel == Vocabulary.text label)

/-- The member of the vocabulary that the last segment names. -/
def kind? (α : Type) [Vocabulary α] (node : Node tree) : Option α :=
  Vocabulary.ofText? α node.lastLabel

/-- Whether the last segment is the given label. -/
def hasLastLabel (node : Node tree) (label : α) : Bool :=
  node.lastLabel == Vocabulary.text label

/-- Whether the whole label is one of the given ones. -/
def labelIsOneOf (node : Node tree) (labels : List α) : Bool :=
  labels.any (Vocabulary.text · == node.label)

/-- Whether the first segment is one of the given labels. -/
def firstLabelIn (node : Node tree) (labels : List α) : Bool :=
  labels.any (Vocabulary.text · == node.firstLabel)

/-- Whether the last segment is one of the given labels. -/
def lastLabelIn (node : Node tree) (labels : List α) : Bool :=
  labels.any (Vocabulary.text · == node.lastLabel)

end Vocabulary

/-- The nearest of the node and its ancestors that passes a test. -/
def findUp? (node : Node tree) (test : Node tree → Bool) : Option (Node tree) :=
  (node :: node.ancestors).find? test

end Node

end MethodCorpus.Tree
