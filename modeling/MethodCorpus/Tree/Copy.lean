import MethodCorpus.Tree.Raw
import MethodCorpus.Tree.Traversal

/-!
# Between node tables and trees by value

`Tree.ofRaw` enters a raw tree into a table, `Node.toRaw` copies a subtree out of one. Both keep
their own stack, for the same reason as the walk of `MethodCorpus.Tree.Traversal`.

Entering takes the next raw tree off a stack, makes a row for it under the row of its parent and
puts its children on the stack; places are therefore given out in pre-order. Copying enters each
node, copies its children, and leaves it again, when the copies of its children are the last ones
that were finished.
-/

namespace MethodCorpus

/-- What a stack of raw trees has still to be entered. -/
def RawTree.pending (stack : List (RawTree × Option Nat)) : Nat :=
  RawTree.sizes (stack.map Prod.fst)

theorem RawTree.sizes_append (trees rest : List RawTree) :
    RawTree.sizes (trees ++ rest) = RawTree.sizes trees + RawTree.sizes rest := by
  induction trees with
  | nil => simp [RawTree.sizes]
  | cons tree trees ih => simp only [List.cons_append, RawTree.sizes, ih, Nat.add_assoc]

theorem RawTree.pending_children_append (tree : RawTree) (parent : Option Nat) (place : Nat)
    (stack : List (RawTree × Option Nat)) :
    RawTree.pending (tree.children.map (·, some place) ++ stack) <
      RawTree.pending ((tree, parent) :: stack) := by
  obtain ⟨label, token, children⟩ := tree
  have same : (children.map fun child => (child, some place)).map Prod.fst = children := by
    induction children with
    | nil => rfl
    | cons child rest ih => simp only [List.map_cons, ih]
  simp only [pending, List.map_append, same, sizes_append, List.map_cons, sizes, size]
  omega

namespace Tree

/-- Enters the raw trees of a stack, each under the row that goes with it. -/
def Builder.plant (stack : List (RawTree × Option Nat)) (builder : Builder) :
    Except Fault Builder :=
  match stack with
  | [] => .ok builder
  | (tree, parent) :: rest =>
    match builder.push parent tree.label tree.token with
    | .error fault => .error fault
    | .ok (place, builder) => Builder.plant (tree.children.map (·, some place) ++ rest) builder
termination_by RawTree.pending stack
decreasing_by
  simp only [List.map_attach_eq_pmap, List.pmap_eq_map]
  exact RawTree.pending_children_append tree parent place rest

/-- The table of a raw tree, if exactly its leaves carry a token. -/
def ofRaw (raw : RawTree) : Except Fault Tree :=
  match Builder.plant [(raw, none)] .empty with
  | .error fault => .error fault
  | .ok builder => builder.finish

namespace Node

variable {tree : Tree}

/-- What is next in copying a subtree: a node is entered, or left when its children are copied. -/
inductive Turn (tree : Tree) where
  | enter (node : Node tree)
  | leave (node : Node tree)

/-- What a turn has still to do. -/
def Turn.cost : Turn tree → Nat
  | enter node => 2 * node.weight
  | leave _ => 1

/-- What the turns of a stack have still to do. -/
def Turn.costs (stack : List (Turn tree)) : Nat := total (stack.map Turn.cost)

theorem Turn.costs_enter (nodes : List (Node tree)) :
    Turn.costs (nodes.map Turn.enter) = 2 * weights nodes := by
  induction nodes with
  | nil => rfl
  | cons node rest ih =>
    simp only [Turn.costs, weights, List.map_cons, total, Turn.cost] at ih ⊢
    omega

theorem Turn.costs_children (node : Node tree) (stack : List (Turn tree)) :
    Turn.costs (node.children.map Turn.enter ++ Turn.leave node :: stack) <
      Turn.costs (Turn.enter node :: stack) := by
  have copied := Turn.costs_enter node.children
  simp only [Turn.costs, weights] at copied
  simp only [Turn.costs, List.map_append, total_append, List.map_cons, total, copied,
    Turn.cost, weight_eq node]
  omega

theorem Turn.costs_leave (node : Node tree) (stack : List (Turn tree)) :
    Turn.costs stack < Turn.costs (Turn.leave node :: stack) := by
  simp only [Turn.costs, List.map_cons, total, Turn.cost]
  omega

/-- Takes the turns of a stack in order. The finished copies are kept last first; a node that is
left takes the copies of its children from their front. -/
def copy (stack : List (Turn tree)) (done : List RawTree) : List RawTree :=
  match stack with
  | [] => done
  | .leave node :: rest =>
    let count := node.children.length
    copy rest (⟨node.label, node.entry.token, (done.take count).reverse⟩ :: done.drop count)
  | .enter node :: rest => copy (node.children.map .enter ++ .leave node :: rest) done
termination_by Turn.costs stack
decreasing_by
  · exact Turn.costs_leave node rest
  · exact Turn.costs_children node rest

/-- The subtree of a node by value. -/
def toRaw (node : Node tree) : RawTree :=
  match copy [.enter node] [] with
  | raw :: _ => raw
  | [] => .inner node.label []

end Node

end Tree

end MethodCorpus
