import MethodCorpus.Proofs.Tree.Lineage

/-!
# From trees by value to tables and back

`Tree.ofRaw` gives out places in pre-order. The table it makes of a tree can be written down at once
(`RawTree.rows`): a tree takes as many places as it has nodes, so the places of the children of a
node follow from the sizes of the siblings in front of them.

* `Builder.plant_tree`, `Builder.plant_forest`: what the loop adds to a table.
* `ofRaw_cases`: the result, which depends only on the first node that breaks the token rule.
* `toRaw_of_ofRaw`: copying out gives back what was entered, at every node.
-/

namespace MethodCorpus

/-! ## The table of a tree -/

namespace RawTree

open MethodCorpus.Tree (Entry Fault)

/-- The places of the roots of some trees that stand one behind the other. -/
def places (place : Nat) : List RawTree → List Nat
  | [] => []
  | tree :: rest => place :: places (place + tree.size) rest

mutual

/-- The rows of a tree whose root stands at a place. -/
def rows (parent : Option Nat) (place : Nat) : RawTree → List Entry
  | ⟨label, token, children⟩ =>
    ⟨label, token, parent, places (place + 1) children⟩ :: forestRows place (place + 1) children

/-- The rows of some trees under a row, the first of which stands at a place. -/
def forestRows (parent place : Nat) : List RawTree → List Entry
  | [] => []
  | tree :: rest => tree.rows (some parent) place ++ forestRows parent (place + tree.size) rest

end

/-- The fault of a node that breaks the rule that exactly the leaves carry a token. -/
def fault? (tree : RawTree) : Option Fault :=
  match tree.children, tree.token with
  | [], none => some (.bareLeaf tree.label)
  | _ :: _, some _ => some (.innerToken tree.label)
  | _, _ => none

theorem fault?_eq_none_iff {tree : RawTree} :
    tree.fault? = none ↔ (tree.token.isSome = true ↔ tree.children = []) := by
  obtain ⟨label, token, children⟩ := tree
  cases children <;> cases token <;> simp [fault?]

theorem size_eq (tree : RawTree) : tree.size = 1 + sizes tree.children := by
  obtain ⟨label, token, children⟩ := tree
  rw [size]

/-- What a row tells of the node that it was made for: all but the parent. -/
theorem map_rows (tree : RawTree) (parent : Option Nat) (place : Nat) :
    (tree.rows parent place).map (fun row => (row.label, row.token, row.children)) =
      (tree.subtrees.zipIdx place).map fun (node, place) =>
        (node.label, node.token, places (place + 1) node.children) := by
  induction tree generalizing parent place with
  | node label token children ih =>
    have below : ∀ place', (forestRows place place' children).map
        (fun row => (row.label, row.token, row.children)) =
          ((forestSubtrees children).zipIdx place').map fun (node, place) =>
            (node.label, node.token, places (place + 1) node.children) := by
      induction children with
      | nil => intro place'; rfl
      | cons tree rest ihs =>
        intro place'
        rw [forestRows, forestSubtrees, List.map_append, List.zipIdx_append, List.map_append,
          length_subtrees, ih tree List.mem_cons_self,
          ihs fun other h => ih other (List.mem_cons_of_mem _ h)]
    rw [rows, subtrees, List.map_cons, List.zipIdx_cons, List.map_cons, below]

theorem length_rows (tree : RawTree) (parent : Option Nat) (place : Nat) :
    (tree.rows parent place).length = tree.size := by
  have same := congrArg List.length (tree.map_rows parent place)
  rwa [List.length_map, List.length_map, List.length_zipIdx, length_subtrees] at same

theorem length_places (trees : List RawTree) (place : Nat) :
    (places place trees).length = trees.length := by
  induction trees generalizing place with
  | nil => rfl
  | cons tree rest ih => rw [places, List.length_cons, ih, List.length_cons]

/-! ## Numbers of children -/

/-- The trees of a list stand behind the nodes of those in front of them. -/
theorem getElem?_forestSubtrees {trees : List RawTree} {j : Nat} {tree : RawTree}
    (h : trees[j]? = some tree) : (forestSubtrees trees)[sizes (trees.take j)]? = some tree := by
  induction trees generalizing j with
  | nil => simp at h
  | cons first rest ih =>
    cases j with
    | zero =>
      rw [List.getElem?_cons_zero] at h
      obtain rfl := Option.some.inj h
      rw [List.take_zero, sizes, forestSubtrees, subtrees_eq, List.cons_append,
        List.getElem?_cons_zero]
    | succ j =>
      rw [List.getElem?_cons_succ] at h
      rw [List.take_succ_cons, sizes, forestSubtrees,
        List.getElem?_append_right (by rw [length_subtrees]; omega), length_subtrees,
        Nat.add_sub_cancel_left, ih h]

/-- The number in pre-order of a child: behind its parent and behind all nodes of the siblings in
front of it. -/
theorem getElem?_subtrees_child {tree node child : RawTree} {i j : Nat}
    (h : tree.subtrees[i]? = some node) (hc : node.children[j]? = some child) :
    tree.subtrees[i + 1 + sizes (node.children.take j)]? = some child := by
  induction tree generalizing i with
  | node label token children ih =>
    have below : ∀ {i}, (forestSubtrees children)[i]? = some node →
        (forestSubtrees children)[i + 1 + sizes (node.children.take j)]? = some child := by
      clear h
      intro i h
      induction children generalizing i with
      | nil => simp [forestSubtrees] at h
      | cons first rest ihs =>
        rw [forestSubtrees] at h ⊢
        by_cases inside : i < first.subtrees.length
        · rw [List.getElem?_append_left inside] at h
          have found := ih first List.mem_cons_self h
          rw [List.getElem?_append_left (List.getElem?_eq_some_iff.1 found).1, found]
        · rw [List.getElem?_append_right (by omega)] at h
          have found := ihs (fun other h => ih other (List.mem_cons_of_mem _ h)) h
          rw [List.getElem?_append_right (by omega), ← found]
          congr 1
          omega
    rw [subtrees] at h ⊢
    cases i with
    | zero =>
      rw [List.getElem?_cons_zero] at h
      obtain rfl := Option.some.inj h
      rw [show 0 + 1 + sizes (children.take j) = sizes (children.take j) + 1 by omega,
        List.getElem?_cons_succ]
      exact getElem?_forestSubtrees hc
    | succ i =>
      rw [List.getElem?_cons_succ] at h
      rw [show i + 1 + 1 + sizes (node.children.take j) =
        i + 1 + sizes (node.children.take j) + 1 by omega, List.getElem?_cons_succ]
      exact below h

theorem getElem?_places {trees : List RawTree} {place j : Nat} :
    (places place trees)[j]? = trees[j]?.map fun _ => place + sizes (trees.take j) := by
  induction trees generalizing place j with
  | nil => rfl
  | cons tree rest ih =>
    cases j with
    | zero => rfl
    | succ j =>
      rw [places, List.getElem?_cons_succ, List.getElem?_cons_succ, ih, List.take_succ_cons, sizes]
      simp only [Nat.add_assoc]

/-! ## The token rule -/

/-- Whether exactly the leaves of a tree carry a token. -/
def Sound (tree : RawTree) : Prop :=
  ∀ node ∈ tree.subtrees, (node.token.isSome = true ↔ node.children = [])

instance (tree : RawTree) : Decidable tree.Sound :=
  inferInstanceAs (Decidable (∀ node ∈ tree.subtrees, (node.token.isSome = true ↔ _)))

theorem sound_iff (tree : RawTree) :
    tree.Sound ↔ (tree.token.isSome = true ↔ tree.children = []) ∧
      ∀ child ∈ tree.children, child.Sound := by
  rw [Sound, subtrees_eq, List.forall_mem_cons]
  refine and_congr_right fun _ => ?_
  constructor
  · exact fun h child mem node below => h node (List.mem_flatMap.2 ⟨child, mem, below⟩)
  · intro h node below
    obtain ⟨child, mem, below⟩ := List.mem_flatMap.1 below
    exact h child mem node below

theorem sound_leaf (label token : String) : (leaf label token).Sound := by
  rw [sound_iff, leaf]
  simp

theorem sound_inner {label : String} {children : List RawTree} (some : children ≠ [])
    (below : ∀ child ∈ children, child.Sound) : (inner label children).Sound := by
  rw [sound_iff, inner]
  exact ⟨by simpa using some, below⟩

end RawTree

namespace Tree

open RawTree (places rows forestRows)

/-! ## The loop that enters a tree -/

/-- A row with more children at the end. -/
def Entry.adoptAll (entry : Entry) (children : List Nat) : Entry :=
  { entry with children := entry.children ++ children }

theorem modify_append_left {rows rest : List Entry} {place : Nat} (h : place < rows.length)
    (change : Entry → Entry) :
    (rows ++ rest).modify place change = rows.modify place change ++ rest := by
  rw [List.modify_eq_take_cons_drop (by rw [List.length_append]; omega),
    List.modify_eq_take_cons_drop h, List.take_append_of_le_length (Nat.le_of_lt h),
    List.drop_append_of_le_length h, List.getElem_append_left h, List.append_assoc,
    List.cons_append]

theorem modify_append_last (rows : List Entry) (row : Entry) (change : Entry → Entry) :
    (rows ++ [row]).modify rows.length change = rows ++ [change row] := by
  induction rows with
  | nil => rfl
  | cons first rest ih =>
    rw [List.cons_append, List.length_cons, List.modify_succ_cons, ih, List.cons_append]

namespace Builder

/-- What entering a tree under a row adds to the table: one child for that row, and the rows of the
tree at the end. -/
def Plants (tree : RawTree) : Prop :=
  ∀ (builder : Builder) (parent : Nat) (rest : List (RawTree × Option Nat)),
    parent < builder.entries.size →
    ∃ next : Builder, plant ((tree, some parent) :: rest) builder = plant rest next ∧
      next.entries.toList =
        builder.entries.toList.modify parent (·.adopt builder.entries.size) ++
          tree.rows (some parent) builder.entries.size

/-- What entering some trees under a row adds to the table. -/
theorem plant_forest (trees : List RawTree) (each : ∀ tree ∈ trees, Plants tree)
    (builder : Builder) (parent : Nat) (rest : List (RawTree × Option Nat))
    (present : parent < builder.entries.size) :
    ∃ next : Builder,
      plant (trees.map (·, some parent) ++ rest) builder = plant rest next ∧
      next.entries.toList =
        builder.entries.toList.modify parent (·.adoptAll (places builder.entries.size trees)) ++
          forestRows parent builder.entries.size trees := by
  induction trees generalizing builder with
  | nil =>
    refine ⟨builder, rfl, ?_⟩
    have same : (fun row : Entry => row.adoptAll []) = id := by
      funext row
      rw [Entry.adoptAll, List.append_nil, id]
    rw [places, forestRows, List.append_nil, same, List.modify_id]
  | cons tree trees ih =>
    obtain ⟨next, first, entered⟩ :=
      each tree List.mem_cons_self builder parent (trees.map (·, some parent) ++ rest) present
    have grown : next.entries.size = builder.entries.size + tree.size := by
      have count := congrArg List.length entered
      rwa [List.length_append, List.length_modify, RawTree.length_rows, Array.length_toList,
        Array.length_toList] at count
    obtain ⟨last, others, all⟩ := ih (fun other h => each other (List.mem_cons_of_mem _ h)) next
      (by omega)
    refine ⟨last, first.trans others, ?_⟩
    have both : (fun row : Entry => row.adoptAll (places next.entries.size trees)) ∘
        (fun row : Entry => row.adopt builder.entries.size) =
          fun row : Entry => row.adoptAll (places builder.entries.size (tree :: trees)) := by
      funext row
      rw [places, ← grown]
      simp only [Function.comp_apply, Entry.adoptAll, Entry.adopt, List.append_assoc,
        List.singleton_append]
    rw [all, entered, modify_append_left (by rwa [List.length_modify, Array.length_toList]),
      List.modify_modify_eq, both, forestRows, grown, List.append_assoc]

theorem plant_tree (tree : RawTree) : Plants tree := by
  induction tree with
  | node label token children ih =>
    intro builder parent rest present
    have pushed : builder.push (some parent) label token = .ok (builder.entries.size,
        ⟨(builder.entries.modify parent (·.adopt builder.entries.size)).push
          ⟨label, token, some parent, []⟩, builder.linked.push present label token⟩) := by
      rw [push, dif_pos present]
    rw [plant, pushed]
    obtain ⟨next, same, entered⟩ := plant_forest children ih
      ⟨(builder.entries.modify parent (·.adopt builder.entries.size)).push
        ⟨label, token, some parent, []⟩, builder.linked.push present label token⟩
      builder.entries.size rest (by simp)
    refine ⟨next, same, ?_⟩
    have old : (builder.entries.toList.modify parent (·.adopt builder.entries.size)).length =
        builder.entries.size := by
      rw [List.length_modify, Array.length_toList]
    have last := modify_append_last
      (builder.entries.toList.modify parent (·.adopt builder.entries.size))
      ⟨label, token, some parent, []⟩ (·.adoptAll (places (builder.entries.size + 1) children))
    rw [old] at last
    rw [entered, rows, Array.toList_push, Array.toList_modify, Array.size_push, Array.size_modify,
      last, List.append_assoc]
    rfl

/-- The table of a tree that is entered as a whole. -/
theorem plant_root (raw : RawTree) :
    ∃ next : Builder, plant [(raw, none)] empty = .ok next ∧
      next.entries.toList = raw.rows none 0 := by
  obtain ⟨label, token, children⟩ := raw
  obtain ⟨next, same, entered⟩ := plant_forest children (fun tree _ => plant_tree tree)
    ⟨#[⟨label, token, none, []⟩], .root label token⟩ 0 [] (by simp)
  refine ⟨next, ?_, ?_⟩
  · rw [plant, push, if_pos (show empty.entries.size = 0 from rfl)]
    exact same.trans (by rw [plant])
  · rw [entered, rows]
    rfl

end Builder

/-! ## Acceptance -/

/-- A table with rows is refused for the first row that breaks the token rule, and else kept. -/
theorem Builder.finish_cases (builder : Builder) (positive : 0 < builder.entries.size) :
    (∃ fault, builder.entries.toList.findSome? Entry.fault? = some fault ∧
      builder.finish = .error fault) ∨
    (builder.entries.toList.findSome? Entry.fault? = none ∧
      ∃ tree : Tree, builder.finish = .ok tree ∧ tree.entries = builder.entries) := by
  rw [finish, dif_pos positive]
  split
  · next fault found => exact .inl ⟨fault, found, rfl⟩
  · next sound => exact .inr ⟨sound, _, rfl, rfl⟩

/-- The first fault of a table is that of the first node for which its tree is refused. -/
theorem findSome?_rows (raw : RawTree) :
    (raw.rows none 0).findSome? Entry.fault? = raw.subtrees.findSome? RawTree.fault? := by
  have look : Entry.fault? = (fun parts : String × Option String × List Nat =>
      Entry.fault? ⟨parts.1, parts.2.1, none, parts.2.2⟩) ∘
        fun row => (row.label, row.token, row.children) := rfl
  have node : ∀ tree : RawTree × Nat,
      Entry.fault? ⟨tree.1.label, tree.1.token, none, places (tree.2 + 1) tree.1.children⟩ =
        tree.1.fault? := by
    rintro ⟨⟨label, token, children⟩, place⟩
    cases children <;> cases token <;> rfl
  rw [look, ← List.findSome?_map, raw.map_rows none 0, List.findSome?_map]
  simp only [Function.comp_def, node]
  conv_rhs => rw [← List.zipIdx_map_fst 0 raw.subtrees, List.findSome?_map]
  rfl

/-- A tree by value is refused for its first node, in pre-order, that breaks the token rule. If
there is none, the table holds the rows of the tree. -/
theorem ofRaw_cases (raw : RawTree) :
    (∃ fault, raw.subtrees.findSome? RawTree.fault? = some fault ∧ ofRaw raw = .error fault) ∨
    (raw.subtrees.findSome? RawTree.fault? = none ∧
      ∃ tree, ofRaw raw = .ok tree ∧ tree.entries.toList = raw.rows none 0) := by
  obtain ⟨builder, planted, rows⟩ := Builder.plant_root raw
  have count := congrArg List.length rows
  rw [RawTree.length_rows, Array.length_toList, RawTree.size_eq] at count
  have finished := builder.finish_cases (by omega)
  rw [rows, findSome?_rows] at finished
  rw [ofRaw, planted]
  rcases finished with refused | ⟨sound, tree, kept, same⟩
  · exact .inl refused
  · exact .inr ⟨sound, tree, kept, same ▸ rows⟩

theorem ofRaw_eq_ok_iff_sound (raw : RawTree) :
    (∃ tree, ofRaw raw = .ok tree) ↔
      ∀ node ∈ raw.subtrees, (node.token.isSome = true ↔ node.children = []) := by
  simp only [← RawTree.fault?_eq_none_iff, ← List.findSome?_eq_none_iff]
  rcases ofRaw_cases raw with ⟨fault, found, refused⟩ | ⟨sound, tree, kept, -⟩
  · rw [found, refused]
    simp
  · exact ⟨fun _ => sound, fun _ => ⟨tree, kept⟩⟩

/-- The report of a node that breaks the token rule. -/
theorem error_of_fault? {node : RawTree} {fault : Fault} (h : node.fault? = some fault) :
    ¬ (node.token.isSome = true ↔ node.children = []) ∧
      fault.error = .malformedTree
        (if node.children.isEmpty then "leaf without a token" else "inner node carries a token")
        node.label := by
  obtain ⟨label, token, children⟩ := node
  cases children <;> cases token <;>
    simp only [RawTree.fault?, Option.some.injEq, reduceCtorEq] at h
  all_goals
    subst h
    simp [Fault.error, Fault.message, Fault.label]

theorem error_of_ofRaw {raw : RawTree} {fault : Fault} (h : ofRaw raw = .error fault) :
    ∃ before node after, raw.subtrees = before ++ node :: after ∧
      (∀ other ∈ before, other.token.isSome = true ↔ other.children = []) ∧
      ¬ (node.token.isSome = true ↔ node.children = []) ∧
      fault.error = .malformedTree
        (if node.children.isEmpty then "leaf without a token" else "inner node carries a token")
        node.label := by
  rcases ofRaw_cases raw with ⟨fault', found, refused⟩ | ⟨-, tree, kept, -⟩
  · obtain rfl : fault' = fault := Except.error.inj (refused.symm.trans h)
    obtain ⟨before, node, after, whole, broken, sound⟩ := List.findSome?_eq_some_iff.1 found
    exact ⟨before, node, after, whole,
      fun other mem => RawTree.fault?_eq_none_iff.1 (sound other mem), error_of_fault? broken⟩
  · rw [kept] at h
    cases h

/-! ## What was entered -/

section Accepted

variable {raw : RawTree} {tree : Tree}

theorem toList_entries_of_ofRaw (h : ofRaw raw = .ok tree) :
    tree.entries.toList = raw.rows none 0 := by
  rcases ofRaw_cases raw with ⟨fault, -, refused⟩ | ⟨-, tree', kept, rows⟩
  · rw [refused] at h
    cases h
  · obtain rfl : tree' = tree := Except.ok.inj (kept.symm.trans h)
    exact rows

theorem size_of_ofRaw (h : ofRaw raw = .ok tree) : tree.size = raw.subtrees.length := by
  rw [Tree.size, ← Array.length_toList, toList_entries_of_ofRaw h, RawTree.length_rows,
    RawTree.length_subtrees]

/-- The row of a node is that of the subtree with the same number. -/
theorem entry_of_ofRaw (h : ofRaw raw = .ok tree) {node : Node tree} {subtree : RawTree}
    (numbered : raw.subtrees[node.index]? = some subtree) :
    node.label = subtree.label ∧ node.entry.token = subtree.token ∧
      node.entry.children = places (node.index + 1) subtree.children := by
  have same := congrArg (·[node.index]?) (raw.map_rows none 0)
  rw [← toList_entries_of_ofRaw h] at same
  simp only [List.getElem?_map, Array.getElem?_toList, node.getElem?_index, List.getElem?_zipIdx,
    numbered, Option.map_some, Nat.zero_add, Option.some.injEq, Prod.mk.injEq] at same
  exact same

/-- The children of a node are those of the subtree with the same number, in order. -/
theorem child_of_ofRaw (h : ofRaw raw = .ok tree) {node : Node tree} {subtree : RawTree}
    (numbered : raw.subtrees[node.index]? = some subtree) {j : Nat} {child : RawTree}
    (listed : subtree.children[j]? = some child) :
    ∃ kid, node.children[j]? = some kid ∧
      kid.index = node.index + 1 + RawTree.sizes (subtree.children.take j) ∧
      raw.subtrees[kid.index]? = some child ∧ kid.parent? = some node := by
  have number := RawTree.getElem?_subtrees_child numbered listed
  obtain ⟨-, -, children⟩ := entry_of_ofRaw h numbered
  have place : node.entry.children[j]? =
      some (node.index + 1 + RawTree.sizes (subtree.children.take j)) := by
    rw [children, RawTree.getElem?_places, listed, Option.map_some]
  have found : node.children[j]? =
      some ⟨_, Node.isLt_of_mem_children (List.mem_of_getElem? place)⟩ := by
    rw [Node.children, List.getElem?_pmap, Option.pmap_eq_some_iff]
    exact ⟨_, _, place, rfl⟩
  exact ⟨_, found, rfl, number, Node.parent?_eq_some_iff.2 (List.mem_of_getElem? found)⟩

theorem length_children_of_ofRaw (h : ofRaw raw = .ok tree) {node : Node tree} {subtree : RawTree}
    (numbered : raw.subtrees[node.index]? = some subtree) :
    node.children.length = subtree.children.length := by
  obtain ⟨-, -, children⟩ := entry_of_ofRaw h numbered
  rw [Node.children, List.length_pmap, children, RawTree.length_places]

/-- A node is copied out as the subtree with its number. -/
theorem toRaw_of_ofRaw (h : ofRaw raw = .ok tree) {node : Node tree} {subtree : RawTree}
    (numbered : raw.subtrees[node.index]? = some subtree) : node.toRaw = subtree := by
  induction subtree generalizing node with
  | node label token children ih =>
    obtain ⟨label', token', -⟩ := entry_of_ofRaw h numbered
    have copies : node.children.map Node.toRaw = children := by
      apply List.ext_getElem?
      intro j
      cases listed : children[j]? with
      | none =>
        rw [List.getElem?_eq_none_iff] at listed ⊢
        rwa [List.length_map, length_children_of_ofRaw h numbered]
      | some child =>
        obtain ⟨kid, found, -, number, -⟩ := child_of_ofRaw h numbered listed
        rw [List.getElem?_map, found, Option.map_some,
          ih child (List.mem_of_getElem? listed) number]
    rw [Node.toRaw_eq, label', token', copies]

theorem toRaw_root_of_ofRaw (h : ofRaw raw = .ok tree) : tree.root.toRaw = raw := by
  apply toRaw_of_ofRaw h
  rw [RawTree.subtrees_eq]
  rfl

end Accepted

/-- A tree by value that keeps to the token rule is the copy of the root of some tree. -/
theorem exists_of_sound {raw : RawTree} (sound : raw.Sound) :
    ∃ tree, ofRaw raw = .ok tree ∧ tree.root.toRaw = raw := by
  obtain ⟨tree, h⟩ := (ofRaw_eq_ok_iff_sound raw).2 sound
  exact ⟨tree, h, toRaw_root_of_ofRaw h⟩

/-- A tree by value is accepted if exactly its leaves carry a token, and else refused with the label
of the first node, in pre-order, that breaks the rule. The nodes of an accepted tree are numbered in
pre-order, and copying any of them gives back its subtree. -/
theorem ofRaw_exact_roundTrip (raw : RawTree) :
    ((∃ tree, ofRaw raw = .ok tree) ↔
      ∀ node ∈ raw.subtrees, (node.token.isSome = true ↔ node.children = [])) ∧
    (∀ fault, ofRaw raw = .error fault →
      ∃ before node after, raw.subtrees = before ++ node :: after ∧
        (∀ other ∈ before, other.token.isSome = true ↔ other.children = []) ∧
        ¬ (node.token.isSome = true ↔ node.children = []) ∧
        fault.error = .malformedTree
          (if node.children.isEmpty then "leaf without a token" else "inner node carries a token")
          node.label) ∧
    (∀ tree, ofRaw raw = .ok tree →
      tree.size = raw.subtrees.length ∧ tree.root.toRaw = raw ∧ tree.root.parent? = none ∧
      ∀ i subtree, raw.subtrees[i]? = some subtree →
        ∃ node, tree.node? i = some node ∧ node.index = i ∧ node.label = subtree.label ∧
          node.entry.token = subtree.token ∧ node.toRaw = subtree ∧
          node.children.length = subtree.children.length ∧
          ∀ j child, subtree.children[j]? = some child →
            ∃ kid, node.children[j]? = some kid ∧
              kid.index = i + 1 + RawTree.sizes (subtree.children.take j) ∧
              raw.subtrees[kid.index]? = some child ∧ kid.parent? = some node) := by
  refine ⟨ofRaw_eq_ok_iff_sound raw, fun fault => error_of_ofRaw, fun tree h => ?_⟩
  refine ⟨size_of_ofRaw h, toRaw_root_of_ofRaw h, Node.parent?_root tree,
    fun i subtree numbered => ?_⟩
  have inside : i < tree.entries.size := by
    rw [← Tree.size, size_of_ofRaw h]
    exact (List.getElem?_eq_some_iff.1 numbered).1
  obtain ⟨label, token, -⟩ := @entry_of_ofRaw _ _ h ⟨i, inside⟩ _ numbered
  exact ⟨⟨i, inside⟩, by rw [node?, dif_pos inside], rfl, label, token, toRaw_of_ofRaw h numbered,
    length_children_of_ofRaw h numbered, fun j child => child_of_ofRaw h numbered⟩

/-- A tree that comes back, and one that is refused for the first of its two bare leaves. -/
theorem ofRaw_kept_and_refused :
    (∃ tree, ofRaw (.inner "unit" [.leaf "name" "a", .leaf "name" "b"]) = .ok tree ∧
      tree.size = 3 ∧ tree.root.toRaw = .inner "unit" [.leaf "name" "a", .leaf "name" "b"]) ∧
    ∃ fault, ofRaw (.inner "unit" [.inner "type" [], .inner "block" []]) = .error fault ∧
      fault.error = .malformedTree "leaf without a token" "type" := by
  have kept := ofRaw_exact_roundTrip (.inner "unit" [.leaf "name" "a", .leaf "name" "b"])
  have refused := ofRaw_exact_roundTrip (.inner "unit" [.inner "type" [], .inner "block" []])
  constructor
  · obtain ⟨tree, h⟩ := kept.1.2 (by decide)
    obtain ⟨size, copy, -⟩ := kept.2.2 tree h
    exact ⟨tree, h, size, copy⟩
  · cases h : ofRaw (.inner "unit" [.inner "type" [], .inner "block" []]) with
    | ok tree => exact absurd (refused.1.1 ⟨tree, h⟩) (by decide)
    | error fault =>
      refine ⟨fault, rfl, ?_⟩
      obtain ⟨before, node, after, whole, sound, bad, same⟩ := refused.2.1 fault h
      cases before with
      | nil =>
        obtain ⟨rfl, -⟩ := List.cons.inj whole
        exact absurd (by decide) bad
      | cons first before =>
        cases before with
        | nil =>
          obtain ⟨rfl, -⟩ := List.cons.inj (List.cons.inj whole).2
          exact same
        | cons second before =>
          obtain ⟨rfl, -⟩ := List.cons.inj (List.cons.inj whole).2
          exact absurd (sound (.inner "type" []) (by simp [RawTree.inner])) (by decide)

end Tree

end MethodCorpus
