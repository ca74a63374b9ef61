import MethodCorpus.Signature.Basic

/-!
# Signatures in ANTLR trees

In a tree of the ANTLR grammar a method is a `methodDeclaration`. Its name, return type, parameter
list and body are found among its children by first segment, since each may be the head of a
collapsed chain; what a node itself is, is told by its last segment. A list of one parameter is
collapsed into that parameter, so the list node is then the parameter.

These trees are read for names, types and places only: annotations and modifiers are not looked for.
-/

namespace MethodCorpus.Signature.Antlr

open MethodCorpus.Tree

variable {tree : Tree}

/-- The rules of a single parameter. -/
def parameterRules : List AntlrRule := [.formalParameter, .lastFormalParameter]

/-- The nodes that stand for one parameter each. -/
def slots (method : Node tree) : List (Node tree) :=
  match (method.child? AntlrRule.formalParameters).bind (·.child? AntlrRule.formalParameterList) with
  | none => []
  | some list =>
    if list.lastLabelIn parameterRules then [list]
    else list.children.filter (·.firstLabelIn parameterRules)

/-- The parameter of a slot: the token of its declarator, and the text of its type if it has one. -/
def parameter (slot : Node tree) : Except Error Parameter :=
  match slot.child? AntlrRule.variableDeclaratorId with
  | none => .error (.missingParameterName slot.label)
  | some declarator =>
    match declarator.token with
    | .error error => .error error
    | .ok name => .ok ⟨name, (slot.child? AntlrRule.typeType).map Node.text⟩

/-- The nearest class around a node, the node itself included. -/
def enclosing (method : Node tree) : Option (Enclosing tree) :=
  (method.findUp? (·.hasLastLabel AntlrRule.classDeclaration)).map fun root =>
    ⟨.classDeclaration, (root.child? AntlrRule.identifier).bind Node.token?, root⟩

/-- The signature of a method. A parameter without a name leaves no signature at all. -/
def read (method : Node tree) (filePath : String) : Reading (Signature tree) where
  result :=
    match (slots method).mapM parameter with
    | .error error => .error error
    | .ok parameters => .ok {
        root := method
        filePath := filePath
        nameNode := method.child? AntlrRule.identifier
        parameters := some parameters
        returnType := (method.child? AntlrRule.typeTypeOrVoid).map Node.text
        enclosing := enclosing method
        annotations := none
        modifiers := none
        body := method.child? AntlrRule.methodBody
        isConstructor := false }
  notes := []

end MethodCorpus.Signature.Antlr
