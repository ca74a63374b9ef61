import Mathlib.Data.List.Nodup
import Mathlib.Data.List.Perm.Subperm
import MethodCorpus.Proofs.Tree.Lineage

/-!
# The order of a walk

A table lists its rows in the order in which they were made, and a parent may get children long
after rows of other nodes were made. The walk of a node does not depend on that. It meets the node
and what is below it, each node once, in document order: a node comes before what is below it, and
what is below a child comes before what is below the next child. The way up from a node goes to
smaller and smaller places and ends at the root.

* `Precedes`: document order, told by the links alone;
* `pairwise_preOrder`, `precedes_asymm`: a walk is in document order and in no other;
* `getLast?_ancestors`: the way up ends at the root;
* `size_root`: the walk of the root meets every node.
-/

namespace MethodCorpus.Tree.Node

variable {tree : Tree}

/-! ## Document order -/

/-- Whether a node comes before another one in document order. It stands above the other one, or the
two stand below children of one node, and the child above the first is the earlier one. -/
def Precedes (node other : Node tree) : Prop :=
  node ∈ other.ancestors ∨
    ∃ parent : Node tree, ∃ left ∈ parent.children, ∃ right ∈ parent.children,
      left.index < right.index ∧ node ∈ left.preOrder ∧ other ∈ right.preOrder

theorem index_injective : Function.Injective (index : Node tree → Nat) := by
  rintro ⟨index, isLt⟩ ⟨index', isLt'⟩ same
  obtain rfl : index = index' := same
  rfl

/-- The children of a node are listed in the order of the table. -/
theorem pairwise_children (node : Node tree) :
    node.children.Pairwise fun left right => left.index < right.index := by
  rw [children, List.pairwise_pmap]
  exact (tree.linked.children_sorted node.getElem?_index).imp fun less _ _ => less

/-- A walk meets its nodes in document order. -/
theorem pairwise_preOrder (node : Node tree) : node.preOrder.Pairwise Precedes := by
  induction node using childInduction with
  | step node ih =>
    rw [preOrder_eq, List.pairwise_cons, List.pairwise_flatMap]
    refine ⟨fun other mem => .inl ?_, ih, ?_⟩
    · obtain ⟨child, listed, below⟩ := List.mem_flatMap.1 mem
      exact mem_ancestors_iff_child.2 ⟨child, listed, mem_preOrder_iff.1 below⟩
    · refine node.pairwise_children.imp_of_mem fun {left right} listed listed' less => ?_
      exact fun first below second below' =>
        .inr ⟨node, left, listed, right, listed', less, below, below'⟩

/-! ## It is an order -/

theorem mem_preOrder_trans {node middle other : Node tree} (upper : middle ∈ node.preOrder)
    (lower : other ∈ middle.preOrder) : other ∈ node.preOrder := by
  rcases mem_preOrder_iff.1 upper with rfl | above
  · exact lower
  rcases mem_preOrder_iff.1 lower with rfl | above'
  · exact upper
  · exact mem_preOrder_iff.2 (.inr (mem_ancestors_trans above above'))

/-- No child is below another child of the same node. -/
theorem eq_of_mem_preOrder {parent left right : Node tree} (h : left ∈ parent.children)
    (h' : right ∈ parent.children) (below : right ∈ left.preOrder) : right = left := by
  rcases mem_preOrder_iff.1 below with same | above
  · exact same
  obtain ⟨above', named, higher⟩ := mem_ancestors_iff.1 above
  obtain rfl := Option.some.inj (named.symm.trans (parent?_eq_some_iff.2 h'))
  have deeper := index_lt_of_mem_children h
  rcases higher with same | higher
  · rw [same] at deeper
    exact absurd deeper (Nat.lt_irrefl _)
  · exact absurd (Nat.lt_trans deeper (index_lt_of_mem_ancestors higher)) (Nat.lt_irrefl _)

/-- What is below two children of a node is below the same child. -/
theorem eq_of_common {parent left right common : Node tree} (h : left ∈ parent.children)
    (h' : right ∈ parent.children) (below : common ∈ left.preOrder)
    (below' : common ∈ right.preOrder) : left = right := by
  rcases mem_preOrder_or below below' with inside | inside
  · exact eq_of_mem_preOrder h' h inside
  · exact (eq_of_mem_preOrder h h' inside).symm

/-- Two nodes below different children of one node cannot both stand below one child of a node
above it. -/
theorem not_mem_ancestors_of_split {upper lower left right node other : Node tree}
    (h : left ∈ upper.children) (h' : right ∈ upper.children) (apart : left ≠ right)
    (below : node ∈ left.preOrder) (below' : other ∈ right.preOrder)
    (within : node ∈ lower.preOrder) (within' : other ∈ lower.preOrder) :
    upper ∉ lower.ancestors := by
  intro above
  obtain ⟨child, listed, inside⟩ := mem_ancestors_iff_child.1 above
  have lowerInside : lower ∈ child.preOrder := mem_preOrder_iff.2 inside
  have first := eq_of_common h listed below (mem_preOrder_trans lowerInside within)
  have second := eq_of_common h' listed below' (mem_preOrder_trans lowerInside within')
  exact apart (first.trans second.symm)

/-- Of two nodes at most one comes before the other. -/
theorem precedes_asymm {node other : Node tree} (h : node.Precedes other) :
    ¬ other.Precedes node := by
  -- a node above another one stands below the same child as the other, wherever it stands
  have crossed : ∀ {upper lower : Node tree}, upper ∈ lower.ancestors →
      ¬ ∃ parent : Node tree, ∃ left ∈ parent.children, ∃ right ∈ parent.children,
        left.index < right.index ∧ lower ∈ left.preOrder ∧ upper ∈ right.preOrder := by
    rintro upper lower above ⟨parent, left, listed, right, listed', less, below, below'⟩
    have inside := mem_preOrder_trans below' (mem_preOrder_iff.2 (.inr above))
    rw [eq_of_common listed listed' below inside] at less
    exact Nat.lt_irrefl _ less
  rintro (above | apart)
  · rcases h with above' | apart'
    · exact Nat.lt_asymm (index_lt_of_mem_ancestors above) (index_lt_of_mem_ancestors above')
    · exact crossed above apart'
  rcases h with above' | apart'
  · exact crossed above' apart
  obtain ⟨parent, left, listed, right, listed', less, below, below'⟩ := apart'
  obtain ⟨parent', left', named, right', named', less', inside, inside'⟩ := apart
  have differ : left ≠ right := fun same => Nat.ne_of_lt less (congrArg index same)
  have differ' : left' ≠ right' := fun same => Nat.ne_of_lt less' (congrArg index same)
  -- both nodes stand below both parents, so one parent stands above the other or they are the same
  have first := mem_preOrder_of_child listed below
  have second := mem_preOrder_of_child listed' below'
  have first' := mem_preOrder_of_child named' inside'
  have second' := mem_preOrder_of_child named inside
  have same : parent = parent' := by
    rcases mem_preOrder_or first first' with nested | nested
    · rcases mem_preOrder_iff.1 nested with same | above
      · exact same
      · exact absurd above
          (not_mem_ancestors_of_split named' named differ'.symm inside' inside first second)
    · rcases mem_preOrder_iff.1 nested with same | above
      · exact same.symm
      · exact absurd above
          (not_mem_ancestors_of_split listed listed' differ below below' first' second')
  subst same
  have leftmost := eq_of_common listed named' below inside'
  have rightmost := eq_of_common listed' named below' inside
  rw [leftmost, rightmost] at less
  exact Nat.lt_asymm less less'

theorem nodup_preOrder (node : Node tree) : node.preOrder.Nodup :=
  node.pairwise_preOrder.imp fun {first second} precedes => by
    rintro rfl
    exact precedes_asymm precedes precedes

/-! ## The way up -/

/-- The root is the only node without a parent. -/
theorem eq_root_of_parent? {node : Node tree} (h : node.parent? = none) : node = tree.root := by
  refine index_injective ((tree.linked.parent_eq_none_iff node.getElem?_index).1 ?_)
  unfold parent? at h
  split at h
  · assumption
  · cases h

/-- The way up from a node ends at the root. -/
theorem getLast?_ancestors (node : Node tree) :
    (node :: node.ancestors).getLast? = some tree.root := by
  induction node using parentInduction with
  | step node ih =>
    cases h : node.parent? with
    | none => rw [ancestors_of_parent?_eq_none h, eq_root_of_parent? h]; rfl
    | some parent => rw [ancestors_of_parent? h, List.getLast?_cons_cons, ih parent h]

/-- The way up from a node goes to smaller and smaller places. -/
theorem pairwise_index_ancestors (node : Node tree) :
    (node :: node.ancestors).Pairwise fun lower upper => upper.index < lower.index :=
  List.pairwise_cons.2 ⟨fun _ above => index_lt_of_mem_ancestors above,
    node.pairwise_ancestors.imp index_lt_of_mem_ancestors⟩

theorem mem_preOrder_root (node : Node tree) : node ∈ tree.root.preOrder := by
  have last := List.mem_of_getLast? node.getLast?_ancestors
  exact mem_preOrder_iff.2 ((List.mem_cons.1 last).imp Eq.symm id)

/-! ## Sizes -/

theorem nodup_map_index (node : Node tree) : (node.preOrder.map index).Nodup :=
  node.nodup_preOrder.map index_injective

/-- No walk meets more nodes than there are. -/
theorem size_le (node : Node tree) : node.size ≤ tree.size := by
  have inside : node.preOrder.map index ⊆ List.range tree.size := by
    intro place mem
    obtain ⟨other, -, rfl⟩ := List.mem_map.1 mem
    exact List.mem_range.2 other.isLt
  have fewer := (List.subperm_of_subset node.nodup_map_index inside).length_le
  rwa [List.length_map, List.length_range] at fewer

/-- The walk of the root meets every node. -/
theorem size_root (tree : Tree) : tree.root.size = tree.size := by
  refine Nat.le_antisymm tree.root.size_le ?_
  have every : List.range tree.size ⊆ tree.root.preOrder.map index := by
    intro place mem
    exact List.mem_map.2 ⟨⟨place, List.mem_range.1 mem⟩, mem_preOrder_root _, rfl⟩
  have more := (List.subperm_of_subset List.nodup_range every).length_le
  rwa [List.length_range, List.length_map] at more

/-! ## Both ways together -/

/-- What holds of the walk of a node and of the way up from it. -/
structure InOrder (node : Node tree) : Prop where
  /-- The walk meets the nodes that have the node among themselves and what is above them. -/
  mem_iff : ∀ other, other ∈ node.preOrder ↔ node ∈ other :: other.ancestors
  nodup : node.preOrder.Nodup
  ordered : node.preOrder.Pairwise fun before after =>
    before.Precedes after ∧ ¬ after.Precedes before
  /-- The walk ends. -/
  size_le : node.size ≤ tree.size
  /-- The way up goes to smaller and smaller places. -/
  decreasing : (node :: node.ancestors).Pairwise fun lower upper => upper.index < lower.index
  ends : (node :: node.ancestors).getLast? = some tree.root

theorem inOrder (node : Node tree) : node.InOrder where
  mem_iff other := by rw [mem_preOrder_iff, List.mem_cons, eq_comm]
  nodup := node.nodup_preOrder
  ordered := node.pairwise_preOrder.imp fun precedes => ⟨precedes, precedes_asymm precedes⟩
  size_le := node.size_le
  decreasing := node.pairwise_index_ancestors
  ends := node.getLast?_ancestors

end MethodCorpus.Tree.Node
