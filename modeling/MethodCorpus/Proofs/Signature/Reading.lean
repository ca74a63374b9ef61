import MethodCorpus.Proofs.Signature.Ownership
import MethodCorpus.Proofs.Tree.RoundTrip

/-!
# How a function is read

A function without a type is not read at all. Any other function is read with all its parts, and
what had to be left out is noted. But for the declaration around it, nothing above a function is
looked at, so a function is read as well from its copy, part by part.

* `read_of_error`, `read_of_ok`: the two outcomes of a reading;
* `read_eq`: a function is read as the parts of its copy tell.
-/

namespace MethodCorpus

namespace Signature.Srcml

open MethodCorpus.Tree

variable {tree : Tree} {function : Node tree} {filePath : String}

/-! ## The outcomes -/

/-- A note on something that was left out of a function. -/
def noteOn (function : Node tree) (filePath : String) (kind : DiagnosticKind) (message : String) :
    Diagnostic :=
  ⟨kind, filePath, (function.child? SrcmlElement.name).bind Node.token?, message⟩

/-- The note on a parameter list that was left out, and why it was. -/
def listNote (function : Node tree) (filePath : String) (error : Error) : Diagnostic :=
  noteOn function filePath (Diagnostic.kindOf error) s!"parameter list dropped: {error.text}"

/-- The note on the parameter list of a function, if it was left out. -/
def listNotes (function : Node tree) (filePath : String) : List Diagnostic :=
  match parameters function with
  | .ok _ => []
  | .error error => [listNote function filePath error]

theorem read_of_error {error : Error} (h : declaredType function = .error error) :
    read function filePath = ⟨.error error, []⟩ := by
  unfold read
  rw [h]

theorem read_of_ok {returnType : String} (h : declaredType function = .ok returnType) :
    read function filePath =
      { result := .ok {
          root := function
          filePath := filePath
          nameNode := function.child? SrcmlElement.name
          parameters := (parameters function).toOption
          returnType := some returnType
          enclosing := enclosing function
          annotations := some (annotationNames function).reduceOption
          modifiers := some (modifierTexts function).reduceOption
          body := function.child? SrcmlElement.block
          isConstructor := false }
        notes :=
          notesOn (noteOn function filePath .missingModifierText "modifier has no text")
            (modifierTexts function) ++ listNotes function filePath ++
          notesOn (noteOn function filePath .missingAnnotationName "annotation has no name")
            (annotationNames function) } := by
  unfold read
  rw [h]
  cases found : parameters function <;> simp only [found, listNotes] <;> rfl

/-- A function that is read has a type. -/
theorem exists_type_of_ok {signature : Signature tree}
    (h : (read function filePath).result = .ok signature) :
    ∃ returnType, declaredType function = .ok returnType := by
  cases typed : declaredType function with
  | error error =>
    rw [read_of_error typed] at h
    cases h
  | ok returnType => exact ⟨returnType, rfl⟩

/-- A signature keeps the function it was read from. -/
theorem root_of_ok {signature : Signature tree}
    (h : (read function filePath).result = .ok signature) : signature.root = function := by
  obtain ⟨returnType, typed⟩ := exists_type_of_ok h
  rw [read_of_ok typed] at h
  obtain rfl := Except.ok.inj h
  rfl

/-- A function that is not read leaves no notes. -/
theorem notes_of_error {error : Error} (h : (read function filePath).result = .error error) :
    (read function filePath).notes = [] := by
  cases typed : declaredType function with
  | error => rw [read_of_error typed]
  | ok returnType =>
    rw [read_of_ok typed] at h
    cases h

/-! ## The parts of a function -/

/-- What is read of a function, part by part. -/
structure Parts where
  name : Option String
  returnType : Except Error String
  parameters : Except Error (List Parameter)
  /-- The names of the annotations; none for one without a name. -/
  annotations : List (Option String)
  /-- The texts of the modifiers; none for one without text. -/
  modifiers : List (Option String)
  hasBody : Bool

namespace Parts

variable (parts : Parts) (filePath : String)

/-- What the parts tell of the method by itself, given its return type. -/
def summary (returnType : String) : Summary where
  name := parts.name
  filePath := filePath
  returnType := some returnType
  parameters := parts.parameters.toOption
  enclosingKind := none
  enclosingName := none
  annotations := some parts.annotations.reduceOption
  modifiers := some parts.modifiers.reduceOption
  isConstructor := false
  hasBody := parts.hasBody

/-- A note on something that was left out of the method. -/
def note (kind : DiagnosticKind) (message : String) : Diagnostic :=
  ⟨kind, filePath, parts.name, message⟩

/-- The note on the parameter list, if one of its entries could not be read. -/
def listNotes : List Diagnostic :=
  match parts.parameters with
  | .ok _ => []
  | .error error =>
    [parts.note filePath (Diagnostic.kindOf error) s!"parameter list dropped: {error.text}"]

/-- The notes on a method that was read. -/
def notes : List Diagnostic :=
  notesOn (parts.note filePath .missingModifierText "modifier has no text") parts.modifiers ++
    parts.listNotes filePath ++
  notesOn (parts.note filePath .missingAnnotationName "annotation has no name") parts.annotations

/-- The reading of a method with the given parts. -/
def reading : Reading Summary :=
  match parts.returnType with
  | .error error => ⟨.error error, []⟩
  | .ok returnType => ⟨.ok (parts.summary filePath returnType), parts.notes filePath⟩

end Parts

end Signature.Srcml

/-- What a summary tells of a method by itself, without the declaration around it. -/
def Summary.alone (summary : Summary) : Summary :=
  { summary with enclosingKind := none, enclosingName := none }

/-! ## Reading a tree by value -/

namespace RawTree

open Signature.Srcml (Parts nonempty?)

mutual

/-- The text of a type below its name. -/
def typeText : RawTree → Except Error String
  | ⟨label, token, children⟩ =>
    if Label.lastSegment label = SrcmlElement.index.text then .ok "[]"
    else match token with
      | some token =>
        if token = "" then .error (.missingTypeToken s!"'{label}' node has no text") else .ok token
      | none => (forestTypeText children).map String.join

/-- The texts of the parts of a type. -/
def forestTypeText : List RawTree → Except Error (List String)
  | [] => .ok []
  | tree :: rest =>
    match tree.typeText with
    | .error error => .error error
    | .ok text => (forestTypeText rest).map (text :: ·)

end

/-- The text of the type of a declaration. -/
def declaredType (tree : RawTree) : Except Error String :=
  match (tree.child? SrcmlElement.type).bind (·.child? SrcmlElement.name) with
  | none => .error (.missingTypeToken s!"no type found under '{tree.label}'")
  | some name => name.typeText

/-- The parameter that a `parameter` declares. -/
def parameter (slot : RawTree) : Except Error Parameter :=
  match slot.child? SrcmlElement.decl with
  | none => .error (.missingNode SrcmlElement.decl.text slot.label)
  | some decl =>
    match (decl.child? SrcmlElement.name).bind token with
    | none => .error (.missingParameterName slot.label)
    | some name => decl.declaredType.map fun type => ⟨name, some type⟩

/-- The text of each modifier of a function. -/
def modifierTexts (function : RawTree) : List (Option String) :=
  match function.child? SrcmlElement.type with
  | none => []
  | some type => (type.childrenOf SrcmlElement.specifier).map (nonempty? ·.token)

/-- The name of each annotation of a function. -/
def annotationNames (function : RawTree) : List (Option String) :=
  (function.childrenOf SrcmlElement.annotation).map fun mark =>
    nonempty? ((mark.child? SrcmlElement.name).map text)

/-- The parts of a function. -/
def parts (function : RawTree) : Parts where
  name := (function.child? SrcmlElement.name).bind token
  returnType := function.declaredType
  parameters := function.slots.mapM parameter
  annotations := function.annotationNames
  modifiers := function.modifierTexts
  hasBody := (function.child? SrcmlElement.block).isSome

theorem forestTypeText_eq (trees : List RawTree) : forestTypeText trees = trees.mapM typeText := by
  induction trees with
  | nil => rfl
  | cons tree rest ih =>
    rw [forestTypeText, ih]
    cases found : tree.typeText with
    | error error => rw [mapM_cons_of_error found]
    | ok text => rw [mapM_cons_of_ok found]

theorem typeText_eq (tree : RawTree) :
    tree.typeText = if tree.hasLastLabel SrcmlElement.index then .ok "[]"
      else match tree.token with
        | some token =>
          if token = "" then .error (.missingTypeToken s!"'{tree.label}' node has no text")
          else .ok token
        | none => (tree.children.mapM typeText).map String.join := by
  obtain ⟨label, token, children⟩ := tree
  cases token with
  | none =>
    rw [typeText, forestTypeText_eq]
    simp only [hasLastLabel, lastLabel, Vocabulary.text, beq_iff_eq]
  | some token =>
    rw [typeText]
    simp only [hasLastLabel, lastLabel, Vocabulary.text, beq_iff_eq]

end RawTree

/-! ## A function is read as its copy is -/

namespace Signature.Srcml

open MethodCorpus.Tree

variable {tree : Tree}

theorem typeText_eq (node : Node tree) : typeText node = node.toRaw.typeText := by
  induction node using Node.childInduction with
  | step node ih =>
    rw [RawTree.typeText_eq, Node.toRaw_hasLastLabel, ← Node.token?_eq, Node.toRaw_label,
      Node.toRaw_children]
    by_cases index : node.hasLastLabel SrcmlElement.index = true
    · rw [if_pos index, typeText_of_index index]
    rw [if_neg index]
    cases found : node.token? with
    | some token => exact typeText_of_leaf index found
    | none =>
      rw [typeText_of_inner index found, List.mapM_map, mapM_congr ih]
      rfl

theorem hasText_iff_exists {node : Node tree} :
    HasText node ↔ ∃ text, node.toRaw.typeText = .ok text := by
  rw [← typeText_eq]
  rcases typeText_cases node with ⟨full, ok⟩ | ⟨bare, leaf, -, -, failed⟩
  · exact ⟨fun _ => ⟨_, ok⟩, fun _ => full⟩
  · refine ⟨fun full => absurd full bare, fun ⟨text, ok⟩ => ?_⟩
    rw [failed] at ok
    cases ok

theorem declaredType_eq (node : Node tree) : declaredType node = node.toRaw.declaredType := by
  rw [declaredType, RawTree.declaredType, ← Node.map_toRaw_child?, Node.toRaw_label]
  cases node.child? SrcmlElement.type with
  | none => rfl
  | some type =>
    simp only [Option.map_some, Option.bind_some, ← Node.map_toRaw_child?]
    cases type.child? SrcmlElement.name with
    | none => rfl
    | some name => exact typeText_eq name

theorem parameter_eq (slot : Node tree) : parameter slot = slot.toRaw.parameter := by
  rw [parameter, RawTree.parameter, ← Node.map_toRaw_child?, Node.toRaw_label]
  cases slot.child? SrcmlElement.decl with
  | none => rfl
  | some decl =>
    have named : (decl.toRaw.child? SrcmlElement.name).bind RawTree.token =
        (decl.child? SrcmlElement.name).bind Node.token? := by
      rw [← Node.map_toRaw_child?, Option.bind_map, Node.token_comp_toRaw]
    cases found : (decl.child? SrcmlElement.name).bind Node.token? with
    | none => simp only [Option.map_some, named, found]
    | some name => simp only [Option.map_some, named, found, declaredType_eq]

theorem parameters_eq {function : Node tree}
    (isFunction : function.hasLastLabel SrcmlElement.function = true) :
    parameters function = function.toRaw.slots.mapM RawTree.parameter := by
  rw [parameters, ← map_toRaw_slots isFunction, List.mapM_map]
  exact mapM_congr fun slot _ => parameter_eq slot

theorem modifierTexts_eq (function : Node tree) :
    modifierTexts function = function.toRaw.modifierTexts := by
  rw [modifierTexts, RawTree.modifierTexts, ← Node.map_toRaw_child?]
  cases function.child? SrcmlElement.type with
  | none => rfl
  | some type =>
    simp only [Option.map_some, ← Node.map_toRaw_childrenOf, List.map_map]
    exact List.map_congr_left fun keyword _ => by rw [Function.comp_apply, Node.token?_eq]

theorem annotationNames_eq (function : Node tree) :
    annotationNames function = function.toRaw.annotationNames := by
  rw [annotationNames, RawTree.annotationNames, ← Node.map_toRaw_childrenOf, List.map_map]
  refine List.map_congr_left fun mark _ => ?_
  rw [Function.comp_apply, ← Node.map_toRaw_child?, Option.map_map, Node.text_comp_toRaw]

theorem parts_name_eq (function : Node tree) :
    function.toRaw.parts.name = (function.child? SrcmlElement.name).bind Node.token? := by
  show (function.toRaw.child? SrcmlElement.name).bind RawTree.token = _
  rw [← Node.map_toRaw_child?, Option.bind_map, Node.token_comp_toRaw]

/-- A function is read as the parts of its copy tell. -/
theorem read_eq {function : Node tree}
    (isFunction : function.hasLastLabel SrcmlElement.function = true) (filePath : String) :
    (read function filePath).result.map (fun signature => signature.summary.alone) =
        (function.toRaw.parts.reading filePath).result ∧
      (read function filePath).notes = (function.toRaw.parts.reading filePath).notes := by
  have name := parts_name_eq function
  have modifiers : function.toRaw.parts.modifiers = modifierTexts function :=
    (modifierTexts_eq function).symm
  have annotations : function.toRaw.parts.annotations = annotationNames function :=
    (annotationNames_eq function).symm
  have parameters : function.toRaw.parts.parameters = parameters function :=
    (parameters_eq isFunction).symm
  have body : function.toRaw.parts.hasBody = (function.child? SrcmlElement.block).isSome := by
    show (function.toRaw.child? SrcmlElement.block).isSome = _
    rw [← Node.map_toRaw_child?, Option.isSome_map]
  have type : function.toRaw.parts.returnType = declaredType function :=
    (declaredType_eq function).symm
  rw [Parts.reading, type]
  cases found : declaredType function with
  | error error =>
    rw [read_of_error found]
    exact ⟨rfl, rfl⟩
  | ok returnType =>
    rw [read_of_ok found]
    simp only [Except.map, Parts.summary, Parts.notes, Parts.note, Parts.listNotes, name,
      modifiers, annotations, parameters, body]
    exact ⟨rfl, rfl⟩

/-- A function by value that can be read has a signature in its tree. -/
theorem exists_signature {raw : RawTree} (sound : raw.Sound)
    (isFunction : raw.hasLastLabel SrcmlElement.function = true) {filePath : String}
    {summary : Summary} (h : (raw.parts.reading filePath).result = .ok summary) :
    ∃ (tree : Tree) (signature : Signature tree), ofRaw raw = .ok tree ∧ tree.root.toRaw = raw ∧
      tree.root.hasLastLabel SrcmlElement.function = true ∧
      (read tree.root filePath).result = .ok signature ∧ signature.summary.alone = summary := by
  obtain ⟨tree, made, copy⟩ := exists_of_sound sound
  have isFunction' : tree.root.hasLastLabel SrcmlElement.function = true := by
    rwa [← Node.toRaw_hasLastLabel, copy]
  have same := (read_eq isFunction' filePath).1
  rw [copy, h] at same
  cases found : (read tree.root filePath).result with
  | error error =>
    rw [found] at same
    cases same
  | ok signature =>
    rw [found] at same
    exact ⟨tree, signature, made, copy, isFunction', found, Except.ok.inj same⟩

end Signature.Srcml

end MethodCorpus
