import MethodCorpus.Proofs.Signature.TypeText

/-!
# To which function a parameter belongs

The reader looks upwards from every parameter it meets below a function, and keeps those that find
the function they were met from. Seen from above, these are the parameters that one reaches from the
function without passing through another one.

* `slots_eq`: the slots of a function are the parameters below it with no function between;
* `existsUnique_slots`: a parameter below some function is a slot of exactly one;
* `map_toRaw_slots`: the slots can be told from the copy of the function.
-/

namespace MethodCorpus

namespace RawTree

mutual

/-- The parameters at and below a tree that no function of the tree has around it. -/
def looseParameters : RawTree → List RawTree
  | ⟨label, token, children⟩ =>
    let tree : RawTree := ⟨label, token, children⟩
    if tree.hasLastLabel SrcmlElement.function then []
    else if tree.hasLastLabel SrcmlElement.parameter then
      tree :: forestLooseParameters children
    else forestLooseParameters children

/-- The loose parameters of each tree of a list, one after the other. -/
def forestLooseParameters : List RawTree → List RawTree
  | [] => []
  | tree :: rest => tree.looseParameters ++ forestLooseParameters rest

end

theorem forestLooseParameters_eq (trees : List RawTree) :
    forestLooseParameters trees = trees.flatMap looseParameters := by
  induction trees with
  | nil => rfl
  | cons tree rest ih => rw [forestLooseParameters, ih, List.flatMap_cons]

theorem looseParameters_eq (tree : RawTree) :
    tree.looseParameters = if tree.hasLastLabel SrcmlElement.function then []
      else if tree.hasLastLabel SrcmlElement.parameter then
        tree :: tree.children.flatMap looseParameters
      else tree.children.flatMap looseParameters := by
  obtain ⟨label, token, children⟩ := tree
  rw [looseParameters, forestLooseParameters_eq]

/-- The parameters of a function that do not belong to a function in its body. -/
def slots (function : RawTree) : List RawTree := function.children.flatMap looseParameters

end RawTree

namespace Signature.Srcml

open MethodCorpus.Tree

variable {tree : Tree}

/-- Whether a node stands below a function with no other function strictly between. -/
def Owns (function node : Node tree) : Prop :=
  function ∈ node.ancestors ∧
    ∀ between ∈ node.ancestors, function ∈ between.ancestors →
      between.hasLastLabel SrcmlElement.function = false

instance (function node : Node tree) : Decidable (Owns function node) :=
  inferInstanceAs (Decidable (_ ∧ _))

/-- The parameters below a function with no other function between, in source order. -/
def ownSlots (function : Node tree) : List (Node tree) :=
  function.preOrder.filter fun node =>
    node.hasLastLabel SrcmlElement.parameter && decide (Owns function node)

theorem mem_ownSlots_iff {function node : Node tree} :
    node ∈ ownSlots function ↔
      node.hasLastLabel SrcmlElement.parameter = true ∧ Owns function node := by
  rw [ownSlots, List.mem_filter, Bool.and_eq_true, decide_eq_true_iff, Node.mem_preOrder_iff]
  exact and_iff_right_of_imp fun h => .inr h.2.1

theorem not_owns_self (node : Node tree) : ¬ Owns node node :=
  fun h => absurd (Node.index_lt_of_mem_ancestors h.1) (Nat.lt_irrefl _)

/-! ## Looking up and looking down -/

theorem owner?_eq (node : Node tree) :
    owner? node = node.ancestors.find? (·.hasLastLabel SrcmlElement.function) := by
  have test : ∀ above : Node tree, decide (above.kind? SrcmlElement = some .function) =
      above.hasLastLabel SrcmlElement.function := by
    intro above
    rw [Bool.eq_iff_iff, decide_eq_true_iff, Node.kind?_eq_some_iff]
  rw [owner?, funext test]

theorem owner?_eq_some_iff {function node : Node tree} :
    owner? node = some function ↔
      function.hasLastLabel SrcmlElement.function = true ∧ Owns function node := by
  rw [owner?_eq, Node.find?_ancestors_eq_some_iff, Owns]

/-- What a function's parameters look up to, looking down. -/
theorem slots_eq {function : Node tree}
    (isFunction : function.hasLastLabel SrcmlElement.function = true) :
    slots function = ownSlots function := by
  have test : ∀ node : Node tree, (decide (node.kind? SrcmlElement = some .parameter) &&
      decide (owner? node = some function)) =
        (node.hasLastLabel SrcmlElement.parameter && decide (Owns function node)) := by
    intro node
    rw [Bool.eq_iff_iff, Bool.and_eq_true, Bool.and_eq_true, decide_eq_true_iff,
      decide_eq_true_iff, decide_eq_true_iff, Node.kind?_eq_some_iff, owner?_eq_some_iff,
      and_iff_right isFunction]
  rw [slots, ownSlots, funext test, Node.preOrder_eq, List.tail_cons,
    List.filter_cons_of_neg (by simp [not_owns_self])]

/-- A parameter below some function is a slot of exactly one. -/
theorem existsUnique_slots {node : Node tree}
    (isParameter : node.hasLastLabel SrcmlElement.parameter = true)
    (below : ∃ above ∈ node.ancestors, above.hasLastLabel SrcmlElement.function = true) :
    ∃! function, function.hasLastLabel SrcmlElement.function = true ∧ node ∈ ownSlots function := by
  simp only [mem_ownSlots_iff, and_iff_right isParameter, ← owner?_eq_some_iff]
  obtain ⟨above, mem, isFunction⟩ := below
  have found : (owner? node).isSome = true := by
    rw [owner?_eq, List.find?_isSome]
    exact ⟨above, mem, isFunction⟩
  obtain ⟨function, same⟩ := Option.isSome_iff_exists.1 found
  exact ⟨function, same, fun other same' => Option.some.inj (same'.symm.trans same)⟩

/-! ## The slots of a copy -/

/-- What a function owns of a child's subtree, seen one level farther down. -/
theorem owns_child_iff {function node child : Node tree} (h : child ∈ node.children) :
    Owns function child ↔ function = node ∨
      Owns function node ∧ node.hasLastLabel SrcmlElement.function = false := by
  have up : child.ancestors = node :: node.ancestors :=
    Node.ancestors_of_parent? (Node.parent?_eq_some_iff.2 h)
  rw [Owns, Owns, up]
  constructor
  · rintro ⟨mem, clear⟩
    rcases List.mem_cons.1 mem with same | mem
    · exact .inl same
    · exact .inr ⟨⟨mem, fun between h => clear between (List.mem_cons_of_mem _ h)⟩,
        clear node List.mem_cons_self mem⟩
  · rintro (rfl | ⟨⟨mem, clear⟩, other⟩)
    -- nothing stands between a node and its child
    · refine ⟨List.mem_cons_self, fun between mem above => ?_⟩
      have higher := Node.index_lt_of_mem_ancestors above
      rcases List.mem_cons.1 mem with rfl | mem
      · exact absurd higher (Nat.lt_irrefl _)
      · exact absurd (Nat.lt_trans higher (Node.index_lt_of_mem_ancestors mem)) (Nat.lt_irrefl _)
    · refine ⟨List.mem_cons_of_mem _ mem, fun between h above => ?_⟩
      rcases List.mem_cons.1 h with rfl | h
      · exact other
      · exact clear between h above

/-- What a function owns of a subtree whose root it owns. -/
theorem map_toRaw_filter_owns {function node : Node tree} (owned : Owns function node) :
    (node.preOrder.filter fun below =>
      below.hasLastLabel SrcmlElement.parameter && decide (Owns function below)).map Node.toRaw =
        node.toRaw.looseParameters := by
  induction node using Node.childInduction with
  | step node ih =>
    rw [RawTree.looseParameters_eq, Node.toRaw_hasLastLabel, Node.toRaw_hasLastLabel,
      Node.toRaw_children]
    by_cases isFunction : node.hasLastLabel SrcmlElement.function = true
    -- a function is no parameter itself, and stands around everything below it
    · rw [if_pos isFunction, List.map_eq_nil_iff, List.filter_eq_nil_iff]
      intro below mem passes
      rw [Bool.and_eq_true, decide_eq_true_iff] at passes
      rcases Node.mem_preOrder_iff.1 mem with rfl | above
      · exact absurd (Node.element_unique isFunction passes.1) (by decide)
      · have clear := passes.2.2 node above owned.1
        rw [clear] at isFunction
        cases isFunction
    · have below : ∀ child ∈ node.children, Owns function child := fun child mem =>
        (owns_child_iff mem).2 (.inr ⟨owned, Bool.eq_false_iff.2 isFunction⟩)
      rw [if_neg isFunction, List.flatMap_map, Node.preOrder_eq, List.filter_cons,
        List.filter_flatMap]
      simp only [owned, decide_true, Bool.and_true]
      have rest := List.flatMap_congr fun child mem => ih child mem (below child mem)
      rw [← rest]
      split <;> simp only [List.map_cons, List.map_flatMap]

/-- The slots of a function can be told from its copy. -/
theorem map_toRaw_slots {function : Node tree}
    (isFunction : function.hasLastLabel SrcmlElement.function = true) :
    (slots function).map Node.toRaw = function.toRaw.slots := by
  rw [slots_eq isFunction, ownSlots, Node.preOrder_eq,
    List.filter_cons_of_neg (by simp [not_owns_self]), List.filter_flatMap,
    List.map_flatMap, RawTree.slots, Node.toRaw_children, List.flatMap_map]
  exact List.flatMap_congr fun child mem =>
    map_toRaw_filter_owns ((owns_child_iff mem).2 (.inl rfl))

end Signature.Srcml

end MethodCorpus
