import MethodCorpus.Text.Quoted
import MethodCorpus.Tree.Node

/-!
# A node in one line

For logs and failed tests a node is shown as its place, its label and, for a leaf, its token.
-/

namespace MethodCorpus.Tree.Node

variable {tree : Tree}

/-- The node in one line. -/
def display (node : Node tree) : String :=
  let token := match node.entry.token with
    | some token => ", token: " ++ Text.quoted token
    | none => ""
  "Node \x7b index: " ++ toString node.index ++ ", label: " ++ Text.quoted node.label ++ token
    ++ " \x7d"

end MethodCorpus.Tree.Node
