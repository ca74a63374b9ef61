import MethodCorpus.Proofs.Traverse
import MethodCorpus.Proofs.Tree.Walk

/-!
# What a node tells by its copy

All that is asked of a node without going up can be asked of its copy. The questions of
`MethodCorpus.Tree.Node` are put to trees by value here, and the two give the same answers:

* `Node.map_toRaw_child?`, `Node.map_toRaw_childrenOf`: the children found by a label;
* `Node.token?_eq`, `Node.text_eq`: the token of a leaf and the text of a subtree.
-/

namespace MethodCorpus

/-! ## Questions to a tree by value -/

namespace RawTree

/-- The first segment of the label. -/
def firstLabel (tree : RawTree) : String := Label.firstSegment tree.label

/-- The last segment of the label. -/
def lastLabel (tree : RawTree) : String := Label.lastSegment tree.label

/-- The tokens put together, with nothing between them. -/
def text (tree : RawTree) : String := String.join (tree.subtrees.filterMap token)

section Vocabulary

variable {α : Type} [Vocabulary α]

/-- The first child whose first segment is the given label. -/
def child? (tree : RawTree) (label : α) : Option RawTree :=
  tree.children.find? (·.firstLabel == Vocabulary.text label)

/-- All children whose first segment is the given label. -/
def childrenOf (tree : RawTree) (label : α) : List RawTree :=
  tree.children.filter (·.firstLabel == Vocabulary.text label)

/-- Whether the last segment is the given label. -/
def hasLastLabel (tree : RawTree) (label : α) : Bool :=
  tree.lastLabel == Vocabulary.text label

end Vocabulary

end RawTree

/-! ## The same questions to a node -/

namespace Tree.Node

variable {tree : Tree}

@[simp] theorem toRaw_firstLabel (node : Node tree) : node.toRaw.firstLabel = node.firstLabel := by
  rw [RawTree.firstLabel, toRaw_label, firstLabel]

@[simp] theorem toRaw_lastLabel (node : Node tree) : node.toRaw.lastLabel = node.lastLabel := by
  rw [RawTree.lastLabel, toRaw_label, lastLabel]

/-- Exactly the leaves of a finished tree carry a token. -/
theorem isSome_token_iff (node : Node tree) :
    node.entry.token.isSome = true ↔ node.isLeaf = true := by
  rw [tree.isSome_token_iff node.getElem?_index, isLeaf, List.isEmpty_iff]

theorem isLeaf_iff (node : Node tree) : node.isLeaf = true ↔ node.children = [] := by
  rw [isLeaf, List.isEmpty_iff, children, List.pmap_eq_nil_iff]

/-- The token of a leaf, which an inner node does not have. -/
theorem token?_eq (node : Node tree) : node.token? = node.toRaw.token := by
  have rule := node.isSome_token_iff
  rw [toRaw_token, token?, token]
  cases found : node.entry.token with
  | none => rfl
  | some token =>
    rw [found] at rule
    rw [rule.1 rfl]
    rfl

theorem token_comp_toRaw : RawTree.token ∘ toRaw = (token? : Node tree → Option String) :=
  funext fun node => (token?_eq node).symm

theorem token?_eq_some_iff {node : Node tree} {token : String} :
    node.token? = some token ↔ node.token = .ok token :=
  toOption_eq_some_iff

theorem isSome_token?_iff (node : Node tree) : node.token?.isSome = true ↔ node.isLeaf = true := by
  rw [token?_eq, toRaw_token, isSome_token_iff]

theorem text_eq (node : Node tree) : node.text = node.toRaw.text := by
  rw [text, leafTokens, RawTree.text, ← map_toRaw_preOrder, List.filterMap_map, token_comp_toRaw]

theorem text_comp_toRaw : RawTree.text ∘ toRaw = (text : Node tree → String) :=
  funext fun node => (text_eq node).symm

section Vocabulary

variable {α : Type} [Vocabulary α]

theorem map_toRaw_child? (node : Node tree) (label : α) :
    (node.child? label).map toRaw = node.toRaw.child? label := by
  rw [child?, RawTree.child?, toRaw_children, List.find?_map]
  simp only [Function.comp_def, toRaw_firstLabel]

theorem map_toRaw_childrenOf (node : Node tree) (label : α) :
    (node.childrenOf label).map toRaw = node.toRaw.childrenOf label := by
  rw [childrenOf, RawTree.childrenOf, toRaw_children, List.filter_map]
  simp only [Function.comp_def, toRaw_firstLabel]

theorem exists_child?_of_toRaw {node : Node tree} {label : α} {copy : RawTree}
    (h : node.toRaw.child? label = some copy) :
    ∃ child, node.child? label = some child ∧ child.toRaw = copy := by
  rwa [← map_toRaw_child?, Option.map_eq_some_iff] at h

theorem exists_mem_childrenOf_of_toRaw {node : Node tree} {label : α} {copy : RawTree}
    (h : copy ∈ node.toRaw.childrenOf label) :
    ∃ child ∈ node.childrenOf label, child.toRaw = copy := by
  rwa [← map_toRaw_childrenOf, List.mem_map] at h

@[simp] theorem toRaw_hasLastLabel (node : Node tree) (label : α) :
    node.toRaw.hasLastLabel label = node.hasLastLabel label := by
  rw [RawTree.hasLastLabel, toRaw_lastLabel, hasLastLabel]

end Vocabulary

end Tree.Node

end MethodCorpus
