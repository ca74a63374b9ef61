import MethodCorpus.Signature.Srcml

/-!
# Reading a srcML function entry by entry

A signature need not be put together from whole lists. On the way through a function its entries are
met one by one, and one that has to be left out is noted right away, at the end of a list of
diagnostics that other functions have added to before. A step may also fail. What has been noted by
then stays in the list, so a reading that fails could leave notes on a function that is not there.

The modifiers stand below the type, so looking for them is one more step that fails without it.
-/

namespace MethodCorpus.Signature.Srcml

open MethodCorpus.Tree

variable {tree : Tree}

/-- A step that may fail and that notes what it leaves out. -/
abbrev Collecting := ExceptT Error (StateM (List Diagnostic))

/-- What comes of a step after some diagnostics, and the diagnostics behind it. -/
def Collecting.outcome {α : Type} (step : Collecting α) (diagnostics : List Diagnostic) :
    Except Error α × List Diagnostic :=
  step.run.run diagnostics

/-- Adds a note at the end. -/
def addNote (note : Diagnostic) : Collecting Unit := modify (· ++ [note])

/-- The texts of some nodes; a node without text is left out and noted. -/
def collectTexts (note : Diagnostic) (text? : Node tree → Option String) :
    List (Node tree) → Collecting (List String)
  | [] => return []
  | node :: rest =>
    match text? node with
    | some text => return text :: (← collectTexts note text? rest)
    | none => do
      addNote note
      collectTexts note text? rest

/-- The texts of the modifiers of a function. -/
def collectModifiers (note : Diagnostic) (function : Node tree) : Collecting (List String) :=
  match function.child? SrcmlElement.type with
  | none => throw (.missingNode SrcmlElement.type.text function.label)
  | some type =>
    collectTexts note (nonempty? ·.token?) (type.childrenOf SrcmlElement.specifier)

/-- The names of the annotations of a function. -/
def collectAnnotations (note : Diagnostic) (function : Node tree) : Collecting (List String) :=
  collectTexts note (fun mark => nonempty? ((mark.child? SrcmlElement.name).map Node.text))
    (function.childrenOf SrcmlElement.annotation)

/-- The parameters that some nodes declare, as far as they belong to a function. The first one that
cannot be read is noted, and then there is no list. -/
def collectParameters (note : Error → Diagnostic) (function : Node tree) :
    List (Node tree) → Collecting (Option (List Parameter))
  | [] => return some []
  | node :: rest =>
    if node.kind? SrcmlElement = some .parameter && owner? node = some function then
      match parameter node with
      | .ok first => return (← collectParameters note function rest).map (first :: ·)
      | .error error => do
        addNote (note error)
        return none
    else collectParameters note function rest

/-- Reads a function: first its type, then its modifiers, its parameters and its annotations. -/
def collect (function : Node tree) (filePath : String) : Collecting (Signature tree) := do
  let nameNode := function.child? SrcmlElement.name
  let note (kind : DiagnosticKind) (message : String) : Diagnostic :=
    ⟨kind, filePath, nameNode.bind Node.token?, message⟩
  let returnType ← ExceptT.mk (pure (declaredType function))
  let modifiers ← collectModifiers (note .missingModifierText "modifier has no text") function
  let parameters ← collectParameters
    (fun error => note (Diagnostic.kindOf error) s!"parameter list dropped: {error.text}")
    function function.preOrder.tail
  let annotations ←
    collectAnnotations (note .missingAnnotationName "annotation has no name") function
  return {
    root := function
    filePath := filePath
    nameNode := nameNode
    parameters := parameters
    returnType := some returnType
    enclosing := enclosing function
    annotations := some annotations
    modifiers := some modifiers
    body := function.child? SrcmlElement.block
    isConstructor := false }

end MethodCorpus.Signature.Srcml
