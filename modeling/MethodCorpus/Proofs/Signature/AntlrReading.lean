import MethodCorpus.Proofs.Signature.Reading
import MethodCorpus.Signature.Antlr

/-!
# How a method of an ANTLR tree is read

A method of an ANTLR tree is read from its children and their children. But for the class around it,
which the tree above has to tell, it is read as well from its copy.

* `RawTree.Antlr.reading`: the reading of a method by value;
* `read_eq`: a method is read as its copy is.
-/

namespace MethodCorpus

/-! ## Reading a tree by value -/

namespace RawTree

section Vocabulary

variable {α : Type} [Vocabulary α]

/-- Whether the first segment is one of the given labels. -/
def firstLabelIn (tree : RawTree) (labels : List α) : Bool :=
  labels.any (Vocabulary.text · == tree.firstLabel)

/-- Whether the last segment is one of the given labels. -/
def lastLabelIn (tree : RawTree) (labels : List α) : Bool :=
  labels.any (Vocabulary.text · == tree.lastLabel)

end Vocabulary

namespace Antlr

open Signature.Antlr (parameterRules)

/-- The trees that stand for one parameter each. -/
def slots (method : RawTree) : List RawTree :=
  match (method.child? AntlrRule.formalParameters).bind
      (·.child? AntlrRule.formalParameterList) with
  | none => []
  | some list =>
    if list.lastLabelIn parameterRules then [list]
    else list.children.filter (·.firstLabelIn parameterRules)

/-- The parameter of a slot. -/
def parameter (slot : RawTree) : Except Error Parameter :=
  match slot.child? AntlrRule.variableDeclaratorId with
  | none => .error (.missingParameterName slot.label)
  | some declarator =>
    match declarator.token with
    | none => .error (.notALeaf declarator.label)
    | some name => .ok ⟨name, (slot.child? AntlrRule.typeType).map text⟩

/-- What the method tells by itself, given its parameters. -/
def summary (method : RawTree) (filePath : String) (parameters : List Parameter) : Summary where
  name := (method.child? AntlrRule.identifier).bind token
  filePath := filePath
  returnType := (method.child? AntlrRule.typeTypeOrVoid).map text
  parameters := some parameters
  enclosingKind := none
  enclosingName := none
  annotations := none
  modifiers := none
  isConstructor := false
  hasBody := (method.child? AntlrRule.methodBody).isSome

/-- The reading of a method, without the class around it. -/
def reading (method : RawTree) (filePath : String) : Reading Summary where
  result := ((slots method).mapM parameter).map (summary method filePath)
  notes := []

end Antlr

end RawTree

/-! ## A method is read as its copy is -/

namespace Tree.Node

variable {tree : Tree}

theorem token_eq (node : Node tree) :
    node.token = match node.toRaw.token with
      | some token => .ok token
      | none => .error (.notALeaf node.label) := by
  rw [← token?_eq, token?]
  cases found : node.token with
  | ok token => rfl
  | error error =>
    rw [token] at found
    split at found
    · cases found
    · exact congrArg _ (Except.error.inj found).symm

/-- The token of a node is missing only because the node is no leaf. -/
theorem eq_of_token_eq_error {node : Node tree} {error : Error} (h : node.token = .error error) :
    error = .notALeaf node.label := by
  rw [token_eq] at h
  split at h
  · cases h
  · exact (Except.error.inj h).symm

section Vocabulary

variable {α : Type} [Vocabulary α]

@[simp] theorem toRaw_firstLabelIn (node : Node tree) (labels : List α) :
    node.toRaw.firstLabelIn labels = node.firstLabelIn labels := by
  rw [RawTree.firstLabelIn, toRaw_firstLabel, firstLabelIn]

@[simp] theorem toRaw_lastLabelIn (node : Node tree) (labels : List α) :
    node.toRaw.lastLabelIn labels = node.lastLabelIn labels := by
  rw [RawTree.lastLabelIn, toRaw_lastLabel, lastLabelIn]

/-- A child of a child is found by the same labels in the copy. -/
theorem map_toRaw_grandchild? (node : Node tree) (label label' : α) :
    ((node.child? label).bind (·.child? label')).map toRaw =
      (node.toRaw.child? label).bind (·.child? label') := by
  rw [← map_toRaw_child?, Option.map_bind, Option.bind_map]
  exact congrArg _ (funext fun child => map_toRaw_child? child label')

/-- The text of a child is that of its copy. -/
theorem map_text_child? (node : Node tree) (label : α) :
    (node.child? label).map text = (node.toRaw.child? label).map RawTree.text := by
  rw [← map_toRaw_child?, Option.map_map, text_comp_toRaw]

/-- The token of a child is that of its copy. -/
theorem bind_token?_child? (node : Node tree) (label : α) :
    (node.child? label).bind token? = (node.toRaw.child? label).bind RawTree.token := by
  rw [← map_toRaw_child?, Option.bind_map, token_comp_toRaw]

end Vocabulary

end Tree.Node

namespace Signature.Antlr

open MethodCorpus.Tree

variable {tree : Tree}

theorem map_toRaw_slots (method : Node tree) :
    (slots method).map Node.toRaw = RawTree.Antlr.slots method.toRaw := by
  rw [slots, RawTree.Antlr.slots, ← Node.map_toRaw_grandchild?]
  cases (method.child? AntlrRule.formalParameters).bind
      (·.child? AntlrRule.formalParameterList) with
  | none => rfl
  | some list =>
    simp only [Option.map_some, Node.toRaw_lastLabelIn, Node.toRaw_children, List.filter_map,
      Function.comp_def, Node.toRaw_firstLabelIn]
    split <;> rfl

theorem parameter_eq (slot : Node tree) :
    parameter slot = RawTree.Antlr.parameter slot.toRaw := by
  rw [parameter, RawTree.Antlr.parameter, ← Node.map_toRaw_child?, Node.toRaw_label,
    Node.map_text_child?]
  cases slot.child? AntlrRule.variableDeclaratorId with
  | none => rfl
  | some declarator =>
    simp only [Option.map_some, Node.token_eq, Node.toRaw_label]
    cases declarator.toRaw.token <;> rfl

theorem parameters_eq (method : Node tree) :
    (slots method).mapM parameter =
      (RawTree.Antlr.slots method.toRaw).mapM RawTree.Antlr.parameter := by
  rw [← map_toRaw_slots, List.mapM_map]
  exact mapM_congr fun slot _ => parameter_eq slot

/-- A signature keeps the class that was found around its method. -/
theorem enclosing_of_ok {method : Node tree} {filePath : String} {signature : Signature tree}
    (h : (read method filePath).result = .ok signature) :
    signature.enclosing = enclosing method := by
  unfold read at h
  dsimp only at h
  split at h
  · cases h
  · obtain rfl := Except.ok.inj h
    rfl

/-- A method is read as its copy is. -/
theorem read_eq (method : Node tree) (filePath : String) :
    (read method filePath).result.map (fun signature => signature.summary.alone) =
        (RawTree.Antlr.reading method.toRaw filePath).result ∧
      (read method filePath).notes = (RawTree.Antlr.reading method.toRaw filePath).notes := by
  refine ⟨?_, rfl⟩
  rw [RawTree.Antlr.reading, ← parameters_eq, read]
  dsimp only
  cases (slots method).mapM parameter with
  | error error => rfl
  | ok parameters =>
    simp only [Except.map, RawTree.Antlr.summary, ← Node.map_text_child?,
      ← Node.bind_token?_child?]
    simp only [← Node.map_toRaw_child?, Option.isSome_map]
    rfl

end Signature.Antlr

end MethodCorpus
