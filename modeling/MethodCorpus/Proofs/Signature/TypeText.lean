import MethodCorpus.Proofs.Traverse
import MethodCorpus.Proofs.Tree.Lineage
import MethodCorpus.Proofs.Tree.Value
import MethodCorpus.Signature.Srcml

/-!
# The text of a type

A type is rendered from the leaves below its name, with a pair of brackets for each index, whatever
stands below that. Rendering fails only on a leaf with an empty token outside of all indexes.

* `HasText`: no such leaf stands below a name;
* `typeText_cases`: a type with text is rendered as its copy is; any other fails at one of its
  empty leaves.
-/

namespace MethodCorpus

namespace RawTree

mutual

/-- A type as it is written: the tokens of its leaves, and a pair of brackets for each index. -/
def rendered : RawTree → String
  | ⟨label, token, children⟩ =>
    if Label.lastSegment label = SrcmlElement.index.text then "[]"
    else token.getD "" ++ forestRendered children

/-- The parts of a type as they are written, one after the other. -/
def forestRendered : List RawTree → String
  | [] => ""
  | tree :: rest => tree.rendered ++ forestRendered rest

end

theorem forestRendered_eq (trees : List RawTree) :
    forestRendered trees = String.join (trees.map rendered) := by
  induction trees with
  | nil => rfl
  | cons tree rest ih => rw [forestRendered, ih, List.map_cons, String.join_cons]

theorem rendered_eq (tree : RawTree) :
    tree.rendered = if tree.hasLastLabel SrcmlElement.index then "[]"
      else tree.token.getD "" ++ String.join (tree.children.map rendered) := by
  obtain ⟨label, token, children⟩ := tree
  rw [rendered, forestRendered_eq]
  simp only [hasLastLabel, lastLabel, Vocabulary.text, beq_iff_eq]

end RawTree

/-- A label that is the name of a srcML element names that element only. -/
theorem RawTree.hasLastLabel_element {element other : SrcmlElement} {token : Option String}
    {children : List RawTree} :
    (⟨element.text, token, children⟩ : RawTree).hasLastLabel other = true ↔ element = other := by
  have whole : Label.lastSegment element.text = element.text := by
    cases element <;> decide
  rw [RawTree.hasLastLabel, RawTree.lastLabel, whole, beq_iff_eq]
  show element.text = other.text ↔ element = other
  rw [← SrcmlElement.ofText?_eq_some_iff, SrcmlElement.ofText?_text, Option.some_inj]

/-- The srcML element of a node is the one that its last segment names. -/
theorem Tree.Node.kind?_eq_some_iff {tree : Tree} {node : Tree.Node tree} {element : SrcmlElement} :
    node.kind? SrcmlElement = some element ↔ node.hasLastLabel element = true := by
  rw [Tree.Node.kind?, SrcmlElement.ofText?_eq_some_iff, Tree.Node.hasLastLabel, beq_iff_eq]
  rfl

/-- A node is of one srcML element at most. -/
theorem Tree.Node.element_unique {tree : Tree} {node : Tree.Node tree}
    {element other : SrcmlElement} (h : node.hasLastLabel element = true)
    (h' : node.hasLastLabel other = true) : element = other :=
  Option.some.inj ((kind?_eq_some_iff.2 h).symm.trans (kind?_eq_some_iff.2 h'))

namespace Signature.Srcml

open MethodCorpus.Tree

variable {tree : Tree}

/-- Every leaf with an empty token at or below a name is an index or stands below one. -/
def HasText (name : Node tree) : Prop :=
  ∀ leaf ∈ name.preOrder, leaf.token? = some "" →
    ∃ index ∈ name.preOrder, index.hasLastLabel SrcmlElement.index = true ∧ leaf ∈ index.preOrder

/-- The leaves of an index do not matter; those of any other node are its own or its children's. -/
theorem hasText_iff {name : Node tree} :
    HasText name ↔ name.hasLastLabel SrcmlElement.index = true ∨
      (name.token? ≠ some "" ∧ ∀ child ∈ name.children, HasText child) := by
  constructor
  · intro h
    by_cases index : name.hasLastLabel SrcmlElement.index = true
    · exact .inl index
    refine .inr ⟨fun empty => ?_, fun child mem leaf below empty => ?_⟩
    · obtain ⟨bracket, below, isIndex, above⟩ := h name name.self_mem_preOrder empty
      rcases Node.mem_preOrder_iff.1 below with rfl | lower
      · exact index isIndex
      · rcases Node.mem_preOrder_iff.1 above with rfl | higher
        · exact index isIndex
        · exact absurd (Nat.lt_trans (Node.index_lt_of_mem_ancestors lower)
            (Node.index_lt_of_mem_ancestors higher)) (Nat.lt_irrefl _)
    · obtain ⟨bracket, inside, isIndex, above⟩ :=
        h leaf (Node.mem_preOrder_of_child mem below) empty
      refine ⟨bracket, ?_, isIndex, above⟩
      -- the index lies inside the child: it is not the name, and nothing else is around the child
      rcases Node.mem_preOrder_or below above with around | within
      · rcases Node.mem_preOrder_iff.1 around with rfl | higher
        · exact Node.self_mem_preOrder _
        obtain ⟨parent, named, here⟩ := Node.mem_ancestors_iff.1 higher
        obtain rfl := Option.some.inj (named.symm.trans (Node.parent?_eq_some_iff.2 mem))
        rcases here with rfl | above'
        · exact absurd isIndex index
        rcases Node.mem_preOrder_iff.1 inside with rfl | lower
        · exact absurd isIndex index
        · exact absurd (Nat.lt_trans (Node.index_lt_of_mem_ancestors above')
            (Node.index_lt_of_mem_ancestors lower)) (Nat.lt_irrefl _)
      · exact within
  · rintro (index | ⟨full, below⟩) leaf mem empty
    · exact ⟨name, name.self_mem_preOrder, index, mem⟩
    · rw [Node.preOrder_eq, List.mem_cons, List.mem_flatMap] at mem
      rcases mem with rfl | ⟨child, listed, mem⟩
      · exact absurd empty full
      · obtain ⟨bracket, inside, isIndex, above⟩ := below child listed leaf mem empty
        exact ⟨bracket, Node.mem_preOrder_of_child listed inside, isIndex, above⟩

theorem typeText_of_index {node : Node tree}
    (index : node.hasLastLabel SrcmlElement.index = true) : typeText node = .ok "[]" := by
  rw [typeText, if_pos (Node.kind?_eq_some_iff.2 index)]

theorem typeText_of_leaf {node : Node tree} {token : String}
    (other : ¬ node.hasLastLabel SrcmlElement.index = true) (leaf : node.token? = some token) :
    typeText node = if token = "" then
      .error (.missingTypeToken s!"'{node.label}' node has no text") else .ok token := by
  have isLeaf : node.isLeaf = true := (Node.isSome_token?_iff node).1 (by rw [leaf]; rfl)
  rw [typeText, if_neg (Node.kind?_eq_some_iff.not.2 other), if_pos isLeaf,
    Node.token?_eq_some_iff.1 leaf]
  simp only [String.isEmpty_iff]

theorem typeText_of_inner {node : Node tree}
    (other : ¬ node.hasLastLabel SrcmlElement.index = true) (inner : node.token? = none) :
    typeText node = (node.children.mapM typeText).map String.join := by
  have notLeaf : ¬ node.isLeaf = true := by
    rw [← Node.isSome_token?_iff, inner]
    simp
  have plain : (node.children.attach.mapM fun child => typeText child.1) =
      node.children.mapM typeText := by
    rw [List.mapM_subtype fun _ _ => rfl, List.unattach_attach]
  rw [typeText, if_neg (Node.kind?_eq_some_iff.not.2 other), if_neg notLeaf, plain]
  cases node.children.mapM typeText <;> rfl

/-- A type with text is rendered as its copy is. Any other fails at one of its empty leaves. -/
theorem typeText_cases (node : Node tree) :
    (HasText node ∧ typeText node = .ok node.toRaw.rendered) ∨
    (¬ HasText node ∧ ∃ leaf ∈ node.preOrder, leaf.token? = some "" ∧
      typeText node = .error (.missingTypeToken s!"'{leaf.label}' node has no text")) := by
  induction node using Node.childInduction with
  | step node ih =>
    rw [hasText_iff, RawTree.rendered_eq, Node.toRaw_hasLastLabel, Node.toRaw_children,
      ← Node.token?_eq, List.map_map]
    by_cases index : node.hasLastLabel SrcmlElement.index = true
    · exact .inl ⟨.inl index, by rw [typeText_of_index index, if_pos index]⟩
    rw [if_neg index]
    cases found : node.token? with
    | some token =>
      have leaf : node.children = [] := by
        rw [← Node.isLeaf_iff, ← Node.isSome_token?_iff, found]
        rfl
      rw [typeText_of_leaf index found, leaf]
      by_cases empty : token = ""
      · subst empty
        exact .inr ⟨by simp [index], node, node.self_mem_preOrder, found, if_pos rfl⟩
      · exact .inl ⟨.inr ⟨by simpa using empty, by simp⟩, by simp [empty]⟩
    | none =>
      rw [typeText_of_inner index found]
      cases parts : node.children.mapM typeText with
      | ok texts =>
        have good : ∀ child ∈ node.children,
            HasText child ∧ typeText child = .ok child.toRaw.rendered := by
          intro child mem
          refine (ih child mem).resolve_right fun ⟨_, leaf, _, _, failed⟩ => ?_
          obtain ⟨text, read⟩ := exists_of_mapM_eq_ok parts mem
          rw [failed] at read
          cases read
        have all := mapM_eq_ok_map fun child mem => (good child mem).2
        obtain rfl := Except.ok.inj (parts.symm.trans all)
        exact .inl ⟨.inr ⟨by simp, fun child mem => (good child mem).1⟩, by simp [Except.map]; rfl⟩
      | error error =>
        obtain ⟨before, child, after, whole, -, failed⟩ := mapM_eq_error_iff.1 parts
        have mem : child ∈ node.children := by rw [whole]; simp
        rcases ih child mem with ⟨-, ok⟩ | ⟨bare, leaf, below, empty, same⟩
        · rw [ok] at failed
          cases failed
        · obtain rfl := Except.error.inj (failed.symm.trans same)
          refine .inr ⟨?_, leaf, Node.mem_preOrder_of_child mem below, empty, rfl⟩
          rintro (isIndex | ⟨-, all⟩)
          · exact index isIndex
          · exact bare (all child mem)

end Signature.Srcml

end MethodCorpus
