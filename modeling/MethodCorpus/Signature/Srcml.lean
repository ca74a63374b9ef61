import MethodCorpus.Signature.Basic

/-!
# Signatures in srcML trees

In a srcML tree a method is a `function`, and its name, type and body are children of kinds of their
own. A type's text lies in the leaves of the `name` below a `type`, with an `index` for each pair of
brackets; a method's modifiers are the `specifier` children of its `type`.

A `parameter` may stand anywhere below its function, and functions nest in each other's bodies, so a
parameter belongs to the nearest function above it. A parameter list is all or nothing: one entry
that cannot be read drops the list, so a list that is there has an entry for every parameter. Only a
method without a return type is not read at all.
-/

namespace MethodCorpus.Signature.Srcml

open MethodCorpus.Tree

variable {tree : Tree}

/-- The text of a type below its name node: the leaves put together, an index standing for a pair of
brackets. A leaf without text is an error. -/
def typeText (node : Node tree) : Except Error String :=
  if node.kind? SrcmlElement = some .index then .ok "[]"
  else if node.isLeaf then
    match node.token with
    | .error error => .error error
    | .ok token =>
      if token.isEmpty then .error (.missingTypeToken s!"'{node.label}' node has no text")
      else .ok token
  else
    match node.children.attach.mapM fun child => typeText child.1 with
    | .error error => .error error
    | .ok texts => .ok (String.join texts)
termination_by tree.size - node.index
decreasing_by
  have below := Node.index_lt_of_mem_children child.2
  have inside := child.1.isLt
  simp only [Tree.size]
  omega

/-- The text of the type of a declaration. -/
def declaredType (node : Node tree) : Except Error String :=
  match (node.child? SrcmlElement.type).bind (·.child? SrcmlElement.name) with
  | none => .error (.missingTypeToken s!"no type found under '{node.label}'")
  | some name => typeText name

/-- The parameter that a `parameter` node declares. -/
def parameter (slot : Node tree) : Except Error Parameter :=
  match slot.child? SrcmlElement.decl with
  | none => .error (.missingNode SrcmlElement.decl.text slot.label)
  | some decl =>
    match (decl.child? SrcmlElement.name).bind Node.token? with
    | none => .error (.missingParameterName slot.label)
    | some name => (declaredType decl).map fun type => ⟨name, some type⟩

/-- The nearest function above a node. -/
def owner? (node : Node tree) : Option (Node tree) :=
  node.ancestors.find? (·.kind? SrcmlElement = some .function)

/-- The parameters below a function that belong to it and not to a function in its body. -/
def slots (function : Node tree) : List (Node tree) :=
  function.preOrder.tail.filter fun node =>
    node.kind? SrcmlElement = some .parameter && owner? node = some function

/-- The nearest class or enumeration above a node. -/
def enclosing (function : Node tree) : Option (Enclosing tree) :=
  function.ancestors.findSome? fun node =>
    let name := (node.child? SrcmlElement.name).bind Node.token?
    match node.kind? SrcmlElement with
    | some .classElement => some ⟨.classDeclaration, name, node⟩
    | some .enumElement => some ⟨.enumDeclaration, name, node⟩
    | _ => none

/-- A text, if it is not empty. -/
def nonempty? (text : Option String) : Option String := text.filter (!·.isEmpty)

/-- The text of each modifier of a function; none for one without text. -/
def modifierTexts (function : Node tree) : List (Option String) :=
  match function.child? SrcmlElement.type with
  | none => []
  | some type => (type.childrenOf SrcmlElement.specifier).map (nonempty? ·.token?)

/-- The name of each annotation of a function; none for one without a name. -/
def annotationNames (function : Node tree) : List (Option String) :=
  (function.childrenOf SrcmlElement.annotation).map fun mark =>
    nonempty? ((mark.child? SrcmlElement.name).map Node.text)

/-- As many notes as there are entries without a value. -/
def notesOn (note : Diagnostic) (entries : List (Option String)) : List Diagnostic :=
  List.replicate (entries.countP Option.isNone) note

/-- The parameters of a function if all can be read, and the first failure if not. -/
def parameters (function : Node tree) : Except Error (List Parameter) :=
  (slots function).mapM parameter

/-- The signature of a function. Entries that were left out are noted: modifiers first, then the
parameter list, then annotations. -/
def read (function : Node tree) (filePath : String) : Reading (Signature tree) :=
  let nameNode := function.child? SrcmlElement.name
  let note (kind : DiagnosticKind) (message : String) : Diagnostic :=
    ⟨kind, filePath, nameNode.bind Node.token?, message⟩
  match declaredType function with
  | .error error => ⟨.error error, []⟩
  | .ok returnType =>
    let modifiers := modifierTexts function
    let annotations := annotationNames function
    let (parameters, dropped) := match parameters function with
      | .ok parameters => (some parameters, [])
      | .error error =>
        (none, [note (Diagnostic.kindOf error) s!"parameter list dropped: {error.text}"])
    { result := .ok {
        root := function
        filePath := filePath
        nameNode := nameNode
        parameters := parameters
        returnType := some returnType
        enclosing := enclosing function
        annotations := some annotations.reduceOption
        modifiers := some modifiers.reduceOption
        body := function.child? SrcmlElement.block
        isConstructor := false }
      notes :=
        notesOn (note .missingModifierText "modifier has no text") modifiers ++ dropped ++
          notesOn (note .missingAnnotationName "annotation has no name") annotations }

end MethodCorpus.Signature.Srcml
