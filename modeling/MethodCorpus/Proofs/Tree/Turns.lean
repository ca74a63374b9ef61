import MethodCorpus.Proofs.Tree.Value

/-!
# The loops over a subtree turn by turn

A subtree is walked and copied by loops with a stack of their own, and what they return is told by
recursion over the children. The loop that copies is taken turn by turn here, with the finished
copies in the order in which they were finished. A node that is left takes the copies of its
children off their end, which would fail if there were fewer of them. There never are: whatever turn
the loop has come to, the copies that a node needs are the last ones that were finished when it is
its turn to be left.

* `Copying.turn`, `Copying.Reached`: one turn, and what the turns lead to from the first one on;
* `Copying.copy_of_next`: a turn is a step of `copy`;
* `Copying.Supplied`: every node that is left finds the copies of its children;
* `Copying.Supplied.turn`, `Copying.Reached.supplied`: a turn keeps that, so all turns do;
* `Copying.Reached.exists_finished`: the loop ends, with one copy;
* `loops_eq_recursions`: the answers of all loops, and the way of the one that copies.
-/

namespace MethodCorpus.Tree.Node

variable {tree : Tree} {node : Node tree}

/-! ## The loop -/

/-- Divides a list in front of its last items, as many as are asked for, if it has that many. -/
def splitLast? {α : Type} (items : List α) (count : Nat) : Option (List α × List α) :=
  if count ≤ items.length then some (items.splitAt (items.length - count)) else none

theorem splitLast?_append {α : Type} (items last : List α) :
    splitLast? (items ++ last) last.length = some (items, last) := by
  have enough : last.length ≤ (items ++ last).length := by simp
  rw [splitLast?, if_pos enough, List.length_append, Nat.add_sub_cancel, List.splitAt_eq,
    List.take_left, List.drop_left]

theorem splitLast?_eq_some_iff {α : Type} {items before last : List α} {count : Nat} :
    splitLast? items count = some (before, last) ↔
      items = before ++ last ∧ last.length = count := by
  constructor
  · intro divided
    rw [splitLast?] at divided
    split at divided
    · next enough =>
      rw [List.splitAt_eq] at divided
      obtain ⟨rfl, rfl⟩ := Prod.mk.inj (Option.some.inj divided)
      refine ⟨(List.take_append_drop ..).symm, ?_⟩
      rw [List.length_drop]
      omega
    · cases divided
  · rintro ⟨rfl, rfl⟩
    exact splitLast?_append before last

/-- Where the loop that copies a subtree stands. -/
structure Copying (tree : Tree) where
  /-- The turns that are left, the next one first. -/
  turns : List (Turn tree)
  /-- The copies that are finished, the last one at the end. -/
  done : List RawTree

namespace Copying

/-- What the loop comes to when it takes a turn. -/
inductive Outcome (tree : Tree) where
  /-- No turn was left. -/
  | finished (copies : List RawTree)
  /-- A node was to be left, and fewer copies were finished than it has children. -/
  | short
  | next (state : Copying tree)

/-- Takes a turn. A node that is entered puts its children and its own leaving on the turns; one
that is left takes the copies of its children off the end of what is done. -/
def turn : Copying tree → Outcome tree
  | ⟨[], done⟩ => .finished done
  | ⟨.enter node :: turns, done⟩ =>
    .next ⟨node.children.map .enter ++ .leave node :: turns, done⟩
  | ⟨.leave node :: turns, done⟩ =>
    match splitLast? done node.children.length with
    | none => .short
    | some (before, copies) => .next ⟨turns, before ++ [⟨node.label, node.entry.token, copies⟩]⟩

/-- What the loop comes to, turn by turn, when it copies a node. -/
inductive Reached (node : Node tree) : Copying tree → Prop where
  | start : Reached node ⟨[.enter node], []⟩
  | turn {state next : Copying tree} :
    Reached node state → state.turn = .next next → Reached node next

/-- A turn is a step of the copying that keeps the finished copies last first. -/
theorem copy_of_next {state next : Copying tree} (taken : state.turn = .next next) :
    copy state.turns state.done.reverse = copy next.turns next.done.reverse := by
  obtain ⟨turns, done⟩ := state
  match turns with
  | [] => cases taken
  | .enter node :: turns =>
    obtain rfl := Outcome.next.inj taken
    rw [copy]
  | .leave node :: turns =>
    rw [turn] at taken
    split at taken
    · cases taken
    · next before copies divided =>
      obtain rfl := Outcome.next.inj taken
      obtain ⟨rfl, enough⟩ := splitLast?_eq_some_iff.1 divided
      rw [← List.length_reverse] at enough
      rw [copy, List.reverse_append, ← enough, List.take_left, List.drop_left,
        List.reverse_reverse, List.reverse_concat]

/-- So whatever is reached, the copying comes to the same. -/
theorem Reached.copy_eq {state : Copying tree} (reached : Reached node state) :
    copy state.turns state.done.reverse = copy [.enter node] [] := by
  induction reached with
  | start => rfl
  | turn _ taken ih => exact (copy_of_next taken).symm.trans ih

/-! ## What every turn keeps -/

/-- Whether some turns come to the given copies: every node that is left finds the copies of its
children, in source order, at the end of what is done. -/
def Supplied (copies : List RawTree) : List (Turn tree) → List RawTree → Prop
  | [], done => done = copies
  | .enter node :: turns, done => Supplied copies turns (done ++ [node.toRaw])
  | .leave node :: turns, done =>
    ∃ before, done = before ++ node.children.map toRaw ∧
      Supplied copies turns (before ++ [node.toRaw])

variable {copies done : List RawTree} {turns : List (Turn tree)} {state next : Copying tree}

theorem supplied_enters (nodes : List (Node tree)) :
    Supplied copies (nodes.map .enter ++ turns) done ↔
      Supplied copies turns (done ++ nodes.map toRaw) := by
  induction nodes generalizing done with
  | nil => rw [List.map_nil, List.map_nil, List.nil_append, List.append_nil]
  | cons node nodes ih =>
    rw [List.map_cons, List.cons_append, Supplied, ih, List.map_cons, List.append_assoc,
      List.singleton_append]

/-- A turn ends the loop with the given copies, or goes on to what comes to them as well and has
less to do. -/
theorem Supplied.turn (supplied : Supplied copies state.turns state.done) :
    state.turn = .finished copies ∨
      ∃ next, state.turn = .next next ∧ Supplied copies next.turns next.done ∧
        Turn.costs next.turns < Turn.costs state.turns := by
  obtain ⟨turns, done⟩ := state
  match turns with
  | [] => exact .inl (congrArg Outcome.finished supplied)
  | .enter node :: turns =>
    refine .inr ⟨_, rfl, ?_, Turn.costs_children node turns⟩
    exact (supplied_enters node.children).2 ⟨done, rfl, supplied⟩
  | .leave node :: turns =>
    obtain ⟨before, rfl, supplied⟩ := supplied
    have found := splitLast?_append before (node.children.map toRaw)
    rw [List.length_map] at found
    refine .inr ⟨⟨turns, before ++ [node.toRaw]⟩, ?_, supplied, Turn.costs_leave node turns⟩
    simp only [Copying.turn, found, toRaw_eq node]

/-- Whatever the loop comes to, its turns come to the copy of the node that it copies. -/
theorem Reached.supplied (reached : Reached node state) :
    Supplied [node.toRaw] state.turns state.done := by
  induction reached with
  | start => rfl
  | turn _ taken ih =>
    rcases ih.turn with ended | ⟨next, taken', supplied, -⟩
    · rw [ended] at taken
      cases taken
    · rw [taken'] at taken
      cases taken
      exact supplied

/-- The loop ends, since every turn leaves less to do. -/
theorem Reached.exists_finished {state : Copying tree} (reached : Reached node state) :
    ∃ last, Reached node last ∧ last.turn = .finished [node.toRaw] := by
  rcases reached.supplied.turn with ended | ⟨next, taken, -, less⟩
  · exact ⟨state, reached, ended⟩
  · exact (reached.turn taken).exists_finished
termination_by Turn.costs state.turns

end Copying

/-! ## What the loops return -/

theorem size_eq (node : Node tree) : node.size = 1 + total (node.children.map size) := by
  have lengths : ∀ nodes : List (Node tree),
      (nodes.flatMap preOrder).length = total (nodes.map size) := by
    intro nodes
    induction nodes with
    | nil => rfl
    | cons node nodes ih =>
      rw [List.flatMap_cons, List.length_append, ih, List.map_cons, total, size]
  rw [size, preOrder_eq, List.length_cons, lengths, Nat.add_comm]

/-- The tokens below a node are its own, if it is a leaf, and those below its children. -/
theorem leafTokens_eq (node : Node tree) :
    node.leafTokens = node.token?.toList ++ node.children.flatMap leafTokens := by
  have below : (node.children.flatMap preOrder).filterMap token? =
      node.children.flatMap leafTokens := List.filterMap_flatMap ..
  rw [leafTokens, preOrder_eq, ← List.singleton_append, List.filterMap_append, below]
  cases h : node.token? <;> simp [h]

theorem join_flatMap_leafTokens (nodes : List (Node tree)) :
    String.join (nodes.flatMap leafTokens) = String.join (nodes.map text) := by
  induction nodes with
  | nil => rfl
  | cons node nodes ih =>
    rw [List.flatMap_cons, String.join_append, ih, List.map_cons, String.join_cons, text]

/-- A leaf tells its own token, and any other node what its children tell. -/
theorem leafTokens_cases (node : Node tree) :
    (node.children = [] ∧ ∃ token, node.token = .ok token ∧ node.leafTokens = [token] ∧
      node.text = token) ∨
    (node.children ≠ [] ∧ node.leafTokens = node.children.flatMap leafTokens ∧
      node.text = String.join (node.children.map text)) := by
  have tokens := node.leafTokens_eq
  have rule := node.isSome_token?_iff.trans node.isLeaf_iff
  cases own : node.token? with
  | some token =>
    have leaf := rule.1 (by rw [own]; rfl)
    have alone : node.leafTokens = [token] := by rw [tokens, own, leaf]; rfl
    refine .inl ⟨leaf, token, token?_eq_some_iff.1 own, alone, ?_⟩
    rw [text, alone, String.join_cons, String.join_nil, String.append_empty]
  | none =>
    have inner : node.children ≠ [] := fun leaf => by
      have there := rule.2 leaf
      rw [own] at there
      cases there
    have below : node.leafTokens = node.children.flatMap leafTokens := by rw [tokens, own]; rfl
    exact .inr ⟨inner, below, by rw [text, below, join_flatMap_leafTokens]⟩

/-- In any finished tree, whatever the order in which its rows were pushed, the loops over a subtree
return what a recursion over the children does. The one that copies is never short of copies,
whatever turn it has come to, and ends with a single one, so its answer for no copy at all is never
given. -/
theorem loops_eq_recursions (node : Node tree) :
    node.size = 1 + total (node.children.map size) ∧
    ((node.children = [] ∧ ∃ token, node.token = .ok token ∧ node.leafTokens = [token] ∧
        node.text = token) ∨
      (node.children ≠ [] ∧ node.leafTokens = node.children.flatMap leafTokens ∧
        node.text = String.join (node.children.map text))) ∧
    node.toRaw = ⟨node.label, node.entry.token, node.children.map toRaw⟩ ∧
    copy [.enter node] [] = [node.toRaw] ∧
    (∀ state, Copying.Reached node state →
      copy state.turns state.done.reverse = copy [.enter node] [] ∧ state.turn ≠ .short ∧
      ∀ copies, state.turn = .finished copies → copies = [node.toRaw]) ∧
    ∃ last, Copying.Reached node last ∧ last.turn = .finished [node.toRaw] := by
  refine ⟨node.size_eq, node.leafTokens_cases, node.toRaw_eq, ?_, fun state reached => ?_,
    Copying.Reached.start.exists_finished⟩
  · rw [copy_enter, copy]
  · rcases reached.supplied.turn with ended | ⟨next, taken, -, -⟩
    · refine ⟨reached.copy_eq, by simp [ended], fun copies finished => ?_⟩
      rw [ended] at finished
      exact (Copying.Outcome.finished.inj finished).symm
    · exact ⟨reached.copy_eq, by simp [taken], by simp [taken]⟩

end MethodCorpus.Tree.Node
