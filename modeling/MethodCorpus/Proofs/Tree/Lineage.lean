import MethodCorpus.Proofs.Tree.Walk

/-!
# Up and down in a tree

The parent of a node and the children of a node are kept apart in the table. They tell the same, and
so do the walks that follow them:

* `Node.parent?_eq_some_iff`: a node is the parent of its children and of no other node;
* `Node.mem_preOrder_iff`: the walk of a node meets the node and all nodes that have it among their
  ancestors;
* `Node.mem_preOrder_or`: two walks are nested or have no node in common;
* `Node.find?_ancestors_eq_some_iff`: what a search upwards finds, with nothing between.
-/

namespace MethodCorpus.Tree.Node

variable {tree : Tree}

/-! ## One step -/

theorem mem_children_iff {node child : Node tree} :
    child ∈ node.children ↔ child.index ∈ node.entry.children := by
  constructor
  · intro h
    obtain ⟨index, mem, rfl⟩ := List.mem_pmap.1 h
    exact mem
  · intro h
    exact List.mem_pmap.2 ⟨child.index, h, rfl⟩

theorem parent?_eq_some_iff {node child : Node tree} :
    child.parent? = some node ↔ child ∈ node.children := by
  rw [mem_children_iff, tree.linked.mem_children_iff node.getElem?_index]
  have here := child.getElem?_index
  constructor
  · intro h
    unfold parent? at h
    split at h
    · simp at h
    · next place named =>
      obtain rfl := Option.some.inj h
      exact ⟨_, here, named⟩
  · rintro ⟨entry, found, named⟩
    obtain rfl := Option.some.inj (here.symm.trans found)
    unfold parent?
    split
    · next none => rw [none] at named; cases named
    · next place named' =>
      obtain rfl := Option.some.inj (named'.symm.trans named)
      rfl

theorem parent?_root (tree : Tree) : tree.root.parent? = none := by
  have first := (tree.linked.parent_eq_none_iff tree.root.getElem?_index).2 rfl
  unfold parent?
  split
  · rfl
  · next place named => rw [named] at first; cases first

/-! ## Ancestors -/

/-- A statement about nodes that holds of a node if it holds of its parent. -/
@[elab_as_elim]
theorem parentInduction {motive : Node tree → Prop}
    (step : ∀ node, (∀ parent, node.parent? = some parent → motive parent) → motive node)
    (node : Node tree) : motive node :=
  step node fun parent _above => parentInduction step parent
termination_by node.index
decreasing_by exact index_parent?_lt _above

theorem ancestors_of_parent? {node parent : Node tree} (h : node.parent? = some parent) :
    node.ancestors = parent :: parent.ancestors := by
  rw [ancestors]
  split
  · next none => rw [none] at h; cases h
  · next other some => obtain rfl := Option.some.inj (some.symm.trans h); rfl

theorem ancestors_of_parent?_eq_none {node : Node tree} (h : node.parent? = none) :
    node.ancestors = [] := by
  rw [ancestors]
  split
  · rfl
  · next other some => rw [some] at h; cases h

theorem mem_ancestors_iff {node above : Node tree} :
    above ∈ node.ancestors ↔
      ∃ parent, node.parent? = some parent ∧ (above = parent ∨ above ∈ parent.ancestors) := by
  cases h : node.parent? with
  | none => simp [ancestors_of_parent?_eq_none h]
  | some parent => simp [ancestors_of_parent? h]

theorem index_lt_of_mem_ancestors {node above : Node tree} (h : above ∈ node.ancestors) :
    above.index < node.index := by
  induction node using parentInduction with
  | step node ih =>
    obtain ⟨parent, named, rfl | higher⟩ := mem_ancestors_iff.1 h
    · exact index_parent?_lt named
    · exact Nat.lt_trans (ih parent named higher) (index_parent?_lt named)

theorem mem_ancestors_trans {node middle above : Node tree} (upper : above ∈ middle.ancestors)
    (lower : middle ∈ node.ancestors) : above ∈ node.ancestors := by
  induction node using parentInduction with
  | step node ih =>
    obtain ⟨parent, named, h⟩ := mem_ancestors_iff.1 lower
    refine mem_ancestors_iff.2 ⟨parent, named, .inr ?_⟩
    rcases h with rfl | h
    · exact upper
    · exact ih parent named h

/-- Of two ancestors the farther one is an ancestor of the nearer one. -/
theorem pairwise_ancestors (node : Node tree) :
    node.ancestors.Pairwise fun near far => far ∈ near.ancestors := by
  induction node using parentInduction with
  | step node ih =>
    cases h : node.parent? with
    | none => rw [ancestors_of_parent?_eq_none h]; exact List.Pairwise.nil
    | some parent =>
      rw [ancestors_of_parent? h]
      exact List.Pairwise.cons (fun _ above => above) (ih parent h)

/-- A node is above another if the other is one of its children or below one. -/
theorem mem_ancestors_iff_child {node below : Node tree} :
    node ∈ below.ancestors ↔
      ∃ child ∈ node.children, below = child ∨ child ∈ below.ancestors := by
  constructor
  · intro h
    induction below using parentInduction with
    | step below ih =>
      obtain ⟨parent, named, rfl | higher⟩ := mem_ancestors_iff.1 h
      · exact ⟨below, parent?_eq_some_iff.1 named, .inl rfl⟩
      · obtain ⟨child, mem, same⟩ := ih parent named higher
        exact ⟨child, mem, .inr (mem_ancestors_iff.2 ⟨parent, named, same.imp Eq.symm id⟩)⟩
  · rintro ⟨child, mem, h⟩
    have higher : node ∈ child.ancestors :=
      mem_ancestors_iff.2 ⟨node, parent?_eq_some_iff.2 mem, .inl rfl⟩
    rcases h with rfl | h
    · exact higher
    · exact mem_ancestors_trans higher h

/-! ## Walks -/

/-- The walk of a node meets the node and whatever is below it. -/
theorem mem_preOrder_iff {node other : Node tree} :
    other ∈ node.preOrder ↔ other = node ∨ node ∈ other.ancestors := by
  induction node using childInduction with
  | step node ih =>
    rw [preOrder_eq, List.mem_cons, List.mem_flatMap, mem_ancestors_iff_child]
    refine or_congr_right (exists_congr fun child => ?_)
    exact and_congr_right fun mem => ih child mem

theorem self_mem_preOrder (node : Node tree) : node ∈ node.preOrder :=
  mem_preOrder_iff.2 (.inl rfl)

theorem mem_preOrder_of_child {node child other : Node tree} (h : child ∈ node.children)
    (below : other ∈ child.preOrder) : other ∈ node.preOrder := by
  rw [preOrder_eq]
  exact List.mem_cons_of_mem _ (List.mem_flatMap.2 ⟨child, h, below⟩)

/-- Two subtrees with a node in common lie one inside the other. -/
theorem mem_preOrder_or {node other common : Node tree} (h : common ∈ node.preOrder)
    (h' : common ∈ other.preOrder) : node ∈ other.preOrder ∨ other ∈ node.preOrder := by
  induction common using parentInduction with
  | step common ih =>
    rcases mem_preOrder_iff.1 h with rfl | above
    · exact .inl h'
    rcases mem_preOrder_iff.1 h' with rfl | above'
    · exact .inr h
    obtain ⟨parent, named, here⟩ := mem_ancestors_iff.1 above
    obtain ⟨parent', named', here'⟩ := mem_ancestors_iff.1 above'
    obtain rfl := Option.some.inj (named'.symm.trans named)
    exact ih parent' named (mem_preOrder_iff.2 (here.imp Eq.symm id))
      (mem_preOrder_iff.2 (here'.imp Eq.symm id))

/-- A search upwards finds the ancestor that passes the test and has no other such node between. -/
theorem find?_ancestors_eq_some_iff {node above : Node tree} {test : Node tree → Bool} :
    node.ancestors.find? test = some above ↔
      test above = true ∧ above ∈ node.ancestors ∧
        ∀ between ∈ node.ancestors, above ∈ between.ancestors → test between = false := by
  have sorted := node.pairwise_ancestors
  rw [List.find?_eq_some_iff_append]
  constructor
  · rintro ⟨passes, near, far, whole, fails⟩
    rw [whole] at sorted ⊢
    refine ⟨passes, by simp, fun between mem higher => ?_⟩
    rcases List.mem_append.1 mem with mem | mem
    · simpa using fails between mem
    -- what stands farther up than `above` cannot have it as an ancestor
    · have lower : between = above ∨ between ∈ above.ancestors := by
        rcases List.mem_cons.1 mem with same | mem
        · exact .inl same
        · exact .inr (List.rel_of_pairwise_cons (List.pairwise_append.1 sorted).2.1 mem)
      have up := index_lt_of_mem_ancestors higher
      rcases lower with rfl | lower
      · exact absurd up (Nat.lt_irrefl _)
      · exact absurd (Nat.lt_trans up (index_lt_of_mem_ancestors lower)) (Nat.lt_irrefl _)
  · rintro ⟨passes, mem, fails⟩
    obtain ⟨near, far, whole⟩ := List.append_of_mem mem
    refine ⟨passes, near, far, whole, fun between nearer => ?_⟩
    rw [whole] at sorted fails
    have higher := (List.pairwise_append.1 sorted).2.2 between nearer above List.mem_cons_self
    simpa using fails between (List.mem_append_left _ nearer) higher

end MethodCorpus.Tree.Node
