import MethodCorpus.Corpus.Source
import MethodCorpus.Proofs.SyntaxTree.Methods

/-!
# Signatures by way of the markup

A method of a source is read from the markup of its syntax tree. The markup keeps what the reader
looks for, at the place where it looks first, so the signature tells just what stands in the method:
its parts can be read from the syntax tree at once.

* `parts`: the parts of a method, read from the syntax tree;
* `parts_methodMarkup`: the markup of a method has the same parts;
* `diagnostics_parts`: what is reported of a method follows from its parts, too.
-/

namespace MethodCorpus

namespace SyntaxTree

open Signature.Srcml (Parts nonempty?)

/-! ## Reading a method directly -/

/-- The annotations of a method. -/
def annotations (method : SyntaxTree) : List SyntaxTree :=
  method.modifiers?.toList.flatMap fun modifiers =>
    modifiers.namedChildren.filter fun child =>
      child.kind == "marker_annotation" || child.kind == "annotation"

/-- The keywords among the modifiers of a method. -/
def keywords (method : SyntaxTree) : List SyntaxTree :=
  method.modifiers?.toList.flatMap fun modifiers => modifiers.children.filter (!·.named)

/-- The type of a declaration as it is written: the text of its element and its brackets. There is
none without a text to put the brackets behind. -/
def typeText? (declaration : SyntaxTree) : Option String :=
  (declaration.child? .type).bind fun type =>
    if type.elementType.text = "" then none
    else some (type.elementType.text ++
      String.join (List.replicate (typeBrackets type declaration) "[]"))

/-- What is reported of a declaration without a type or without a text for it, the declaration being
marked up under a label. -/
def missingType (label : String) (declaration : SyntaxTree) : Error :=
  .missingTypeToken <|
    if (declaration.child? .type).isSome then "'name' node has no text"
    else s!"no type found under '{label}'"

/-- The type of a declaration that is marked up under a label, or why there is none. -/
def declaredType (label : String) (declaration : SyntaxTree) : Except Error String :=
  match declaration.typeText? with
  | some text => .ok text
  | none => .error (declaration.missingType label)

/-- Whether a parameter stands for any number of arguments. -/
def isSpread (slot : SyntaxTree) : Bool := slot.kind == "spread_parameter"

/-- The name of a parameter. -/
def parameterName? (slot : SyntaxTree) : Option SyntaxTree :=
  if slot.isSpread then slot.spreadDeclarator?.bind (·.child? .name) else slot.child? .name

/-- The type of a parameter. -/
def parameterType (slot : SyntaxTree) : Except Error String :=
  if slot.isSpread then
    match slot.spreadType? with
    | none => .error (.missingTypeToken "no type found under 'decl'")
    | some type => .ok (type.text ++ "...")
  else slot.declaredType SrcmlElement.decl.text

/-- The parameter that stands in a parameter list. -/
def parameter (slot : SyntaxTree) : Except Error Parameter :=
  match slot.parameterName? with
  | none => .error (.missingParameterName SrcmlElement.parameter.text)
  | some name => slot.parameterType.map fun type => ⟨name.text, some type⟩

/-- The parts of a method. -/
def parts (method : SyntaxTree) : Parts where
  name := (method.child? .name).map text
  returnType := method.declaredType SrcmlElement.function.text
  parameters := method.formalParameters.mapM parameter
  annotations := method.annotations.map fun mark => nonempty? ((mark.child? .name).map text)
  modifiers := method.keywords.map fun keyword => nonempty? (some keyword.text)
  hasBody := method.block?.isSome

/-! ## Labels in the markup -/

/-- The first tree of a label among trees of one label. -/
theorem find?_of_firstLabel {trees : List RawTree} {own : String}
    (h : ∀ tree ∈ trees, tree.firstLabel = own) (label : String) :
    trees.find? (·.firstLabel == label) = if own = label then trees.head? else none := by
  split
  · next same =>
    cases trees with
    | nil => rfl
    | cons first rest =>
      rw [List.find?_cons_of_pos (by rw [h first List.mem_cons_self, same, beq_self_eq_true]),
        List.head?_cons]
  · next other =>
    rw [List.find?_eq_none]
    intro tree mem
    rw [h tree mem, beq_iff_eq]
    exact other

/-- The trees of a label among trees of one label. -/
theorem filter_of_firstLabel {trees : List RawTree} {own : String}
    (h : ∀ tree ∈ trees, tree.firstLabel = own) (label : String) :
    trees.filter (·.firstLabel == label) = if own = label then trees else [] := by
  split
  · next same =>
    rw [List.filter_eq_self]
    intro tree mem
    rw [h tree mem, same, beq_self_eq_true]
  · next other =>
    rw [List.filter_eq_nil_iff]
    intro tree mem
    rw [h tree mem, beq_iff_eq]
    exact other

theorem children_sealed (label token : String) (children : List RawTree) :
    (RawTree.sealed label token children).children = children := by
  rw [RawTree.sealed]
  split
  · next empty => rw [List.isEmpty_iff.1 empty]; rfl
  · rfl

theorem label_sealed (label token : String) (children : List RawTree) :
    (RawTree.sealed label token children).label = label := by
  rw [RawTree.sealed]
  split <;> rfl

theorem firstSegment_text (element : SrcmlElement) :
    Label.firstSegment element.text = element.text := by
  cases element <;> decide

theorem firstLabel_elementLeaf (element : SrcmlElement) (token : String) :
    (elementLeaf element token).firstLabel = element.text :=
  firstSegment_text element

theorem firstLabel_sealed (element : SrcmlElement) (token : String) (children : List RawTree) :
    (RawTree.sealed element.text token children).firstLabel = element.text := by
  rw [RawTree.firstLabel, label_sealed, firstSegment_text]

theorem firstLabel_typeName (elementText : String) (brackets : Nat) :
    (typeName elementText brackets).firstLabel = SrcmlElement.name.text := by
  rw [typeName]
  split
  · exact firstLabel_elementLeaf _ _
  · exact firstSegment_text _

theorem firstLabel_of_mem_nameMarkup {node : Option SyntaxTree} {tree : RawTree}
    (h : tree ∈ nameMarkup node) : tree.firstLabel = SrcmlElement.name.text := by
  obtain ⟨name, -, rfl⟩ := List.mem_map.1 h
  exact firstLabel_elementLeaf _ _

theorem firstLabel_of_mem_specifierMarkup {modifiers : Option SyntaxTree} {tree : RawTree}
    (h : tree ∈ specifierMarkup modifiers) : tree.firstLabel = SrcmlElement.specifier.text := by
  obtain ⟨modifiers, -, mem⟩ := List.mem_flatMap.1 h
  obtain ⟨keyword, -, rfl⟩ := List.mem_map.1 mem
  exact firstLabel_elementLeaf _ _

theorem firstLabel_of_mem_typeMarkup {declaration : SyntaxTree} {tree : RawTree}
    (h : tree ∈ declaration.typeMarkup) : tree.firstLabel = SrcmlElement.name.text := by
  obtain ⟨type, -, rfl⟩ := List.mem_map.1 h
  exact firstLabel_typeName _ _

theorem firstLabel_of_mem_annotationMarkup {modifiers : Option SyntaxTree} {tree : RawTree}
    (h : tree ∈ annotationMarkup modifiers) :
    tree.firstLabel = SrcmlElement.annotation.text := by
  obtain ⟨modifiers, -, mem⟩ := List.mem_flatMap.1 h
  obtain ⟨mark, -, rfl⟩ := List.mem_map.1 mem
  exact firstLabel_sealed _ _ _

theorem firstLabel_of_mem_parameterListMarkup {method : SyntaxTree} {tree : RawTree}
    (h : tree ∈ method.parameterListMarkup) : tree.firstLabel = "parameter_list" := by
  obtain ⟨list, -, rfl⟩ := List.mem_map.1 h
  rw [RawTree.firstLabel, label_sealed]
  decide

theorem firstLabel_blockMarkup (node : SyntaxTree) :
    (blockMarkup node).firstLabel = SrcmlElement.block.text := by
  rw [blockMarkup_eq]
  exact firstLabel_sealed _ _ _

/-! ## Types -/

/-- The type node that stands in the markup of a declaration. -/
def typeNode (modifiers : Option SyntaxTree) (names : List RawTree) : RawTree :=
  .sealed SrcmlElement.type.text "" (specifierMarkup modifiers ++ names)

theorem child?_name_typeNode {modifiers : Option SyntaxTree} {names : List RawTree}
    (h : ∀ tree ∈ names, tree.firstLabel = SrcmlElement.name.text) :
    (typeNode modifiers names).child? SrcmlElement.name = names.head? := by
  rw [RawTree.child?, typeNode, children_sealed, List.find?_append,
    find?_of_firstLabel fun _ => firstLabel_of_mem_specifierMarkup, find?_of_firstLabel h,
    if_neg (by decide), Option.none_or]
  exact if_pos rfl

theorem childrenOf_specifier_typeNode {modifiers : Option SyntaxTree} {names : List RawTree}
    (h : ∀ tree ∈ names, tree.firstLabel = SrcmlElement.name.text) :
    (typeNode modifiers names).childrenOf SrcmlElement.specifier = specifierMarkup modifiers := by
  have own : (specifierMarkup modifiers).filter
      (·.firstLabel == Vocabulary.text SrcmlElement.specifier) = specifierMarkup modifiers := by
    rw [filter_of_firstLabel fun _ => firstLabel_of_mem_specifierMarkup]
    exact if_pos rfl
  have others : names.filter (·.firstLabel == Vocabulary.text SrcmlElement.specifier) = [] := by
    rw [filter_of_firstLabel h, if_neg (by decide)]
  rw [RawTree.childrenOf, typeNode, children_sealed, List.filter_append, own, others,
    List.append_nil]

theorem typeText_elementLeaf_name (token : String) :
    (elementLeaf .name token).typeText =
      if token = "" then .error (.missingTypeToken "'name' node has no text") else .ok token := by
  have other : ¬ (elementLeaf .name token).hasLastLabel SrcmlElement.index = true :=
    RawTree.hasLastLabel_element.not.2 (by decide)
  rw [RawTree.typeText_eq, if_neg other]
  rfl

theorem typeText_elementLeaf_index : (elementLeaf .index "[]").typeText = .ok "[]" := by
  have index : (elementLeaf .index "[]").hasLastLabel SrcmlElement.index = true :=
    RawTree.hasLastLabel_element.2 rfl
  rw [RawTree.typeText_eq, if_pos index]

/-- A type in the markup is read as its element with its brackets. -/
theorem typeText_typeName (elementText : String) (brackets : Nat) :
    (typeName elementText brackets).typeText =
      if elementText = "" then .error (.missingTypeToken "'name' node has no text")
      else .ok (elementText ++ String.join (List.replicate brackets "[]")) := by
  rw [typeName]
  split
  · next zero =>
    rw [typeText_elementLeaf_name, zero, List.replicate_zero, String.join_nil, String.append_empty]
  · have other : ¬ (RawTree.inner SrcmlElement.name.text (elementLeaf .name elementText ::
        List.replicate brackets (elementLeaf .index "[]"))).hasLastLabel
          SrcmlElement.index = true :=
      RawTree.hasLastLabel_element.not.2 (by decide)
    have indexes : (List.replicate brackets (elementLeaf .index "[]")).mapM RawTree.typeText =
        .ok (List.replicate brackets "[]") := by
      rw [← List.map_replicate (f := fun _ => "[]") (a := elementLeaf .index "[]")]
      refine mapM_eq_ok_map fun index mem => ?_
      rw [(List.mem_replicate.1 mem).2, typeText_elementLeaf_index]
    rw [RawTree.typeText_eq, if_neg other]
    show (List.mapM RawTree.typeText (_ :: _)).map String.join = _
    -- the element is read first, so its failure is the failure of the type
    have first := typeText_elementLeaf_name elementText
    split
    · next empty =>
      rw [if_pos empty] at first
      rw [mapM_cons_of_error first]
      rfl
    · next some =>
      rw [if_neg some] at first
      rw [mapM_cons_of_ok first, indexes]
      show Except.ok (String.join (_ :: _)) = _
      rw [String.join_cons]

/-- The type of a declaration is read from its type node as it is written. -/
theorem declaredType_of_typeMarkup {tree : RawTree} {declaration : SyntaxTree}
    {modifiers : Option SyntaxTree}
    (h : tree.child? SrcmlElement.type = some (typeNode modifiers declaration.typeMarkup)) :
    tree.declaredType = declaration.declaredType tree.label := by
  rw [RawTree.declaredType, h, Option.bind_some,
    child?_name_typeNode fun _ => firstLabel_of_mem_typeMarkup, declaredType, typeText?,
    missingType, typeMarkup]
  cases declaration.child? .type with
  | none => rfl
  | some type =>
    show (typeName type.elementType.text (typeBrackets type declaration)).typeText = _
    rw [typeText_typeName]
    dsimp only [Option.bind_some]
    split <;> rfl

/-! ## Parameters -/

/-- The names of the type of a parameter, in its markup. -/
def parameterTypeNames (slot : SyntaxTree) : List RawTree :=
  if slot.isSpread then
    slot.spreadType?.toList.map fun type => elementLeaf .name (type.text ++ "...")
  else slot.typeMarkup

theorem firstLabel_of_mem_parameterTypeNames {slot : SyntaxTree} {tree : RawTree}
    (h : tree ∈ slot.parameterTypeNames) : tree.firstLabel = SrcmlElement.name.text := by
  rw [parameterTypeNames] at h
  split at h
  · obtain ⟨type, -, rfl⟩ := List.mem_map.1 h
    exact firstLabel_elementLeaf _ _
  · exact firstLabel_of_mem_typeMarkup h

/-- The declaration in the markup of a parameter. -/
def declMarkup (slot : SyntaxTree) : RawTree :=
  .inner SrcmlElement.decl.text
    (typeNode slot.modifiers? slot.parameterTypeNames :: nameMarkup slot.parameterName?)

theorem parameterMarkup_eq (slot : SyntaxTree) :
    slot.parameterMarkup = .inner SrcmlElement.parameter.text [slot.declMarkup] := rfl

theorem head?_nameMarkup (node : Option SyntaxTree) :
    (nameMarkup node).head? = node.map fun name => elementLeaf .name name.text := by
  cases node <;> rfl

theorem child?_type_declMarkup (slot : SyntaxTree) :
    slot.declMarkup.child? SrcmlElement.type =
      some (typeNode slot.modifiers? slot.parameterTypeNames) := by
  rw [RawTree.child?, declMarkup, RawTree.inner, List.find?_cons_of_pos]
  rw [typeNode, firstLabel_sealed]
  rfl

theorem child?_name_declMarkup (slot : SyntaxTree) :
    slot.declMarkup.child? SrcmlElement.name =
      slot.parameterName?.map fun name => elementLeaf .name name.text := by
  rw [RawTree.child?, declMarkup, RawTree.inner, List.find?_cons_of_neg,
    find?_of_firstLabel fun _ => firstLabel_of_mem_nameMarkup, ← head?_nameMarkup]
  · exact if_pos rfl
  · rw [typeNode, firstLabel_sealed]
    decide

theorem declaredType_declMarkup (slot : SyntaxTree) :
    slot.declMarkup.declaredType = slot.parameterType := by
  by_cases spread : slot.isSpread = true
  · rw [RawTree.declaredType, child?_type_declMarkup, Option.bind_some,
      child?_name_typeNode fun _ => firstLabel_of_mem_parameterTypeNames, parameterTypeNames,
      if_pos spread, parameterType, if_pos spread]
    cases slot.spreadType? with
    | none => rfl
    | some type =>
      show (elementLeaf .name (type.text ++ "...")).typeText = _
      rw [typeText_elementLeaf_name, if_neg]
      intro empty
      have length := congrArg String.length empty
      rw [String.length_append] at length
      simp at length
  · have names : slot.parameterTypeNames = slot.typeMarkup := by
      rw [parameterTypeNames, if_neg spread]
    have typed := child?_type_declMarkup slot
    rw [names] at typed
    rw [parameterType, if_neg spread, declaredType_of_typeMarkup typed]
    rfl

/-- A parameter in the markup is read as it stands in the source. -/
theorem parameter_parameterMarkup (slot : SyntaxTree) :
    slot.parameterMarkup.parameter = slot.parameter := by
  have decl : slot.parameterMarkup.child? SrcmlElement.decl = some slot.declMarkup := by
    rw [parameterMarkup_eq, RawTree.child?, RawTree.inner, List.find?_cons_of_pos]
    show (Label.firstSegment "decl" == "decl") = true
    decide
  rw [RawTree.parameter, decl]
  dsimp only
  rw [child?_name_declMarkup, declaredType_declMarkup, parameter]
  cases slot.parameterName? <;> rfl

/-! ## Methods -/

theorem annotationMarkup_eq (method : SyntaxTree) :
    annotationMarkup method.modifiers? = method.annotations.map fun mark =>
      .sealed SrcmlElement.annotation.text mark.text (nameMarkup (mark.child? .name)) := by
  rw [annotationMarkup, annotations, List.map_flatMap]

theorem specifierMarkup_eq (method : SyntaxTree) :
    specifierMarkup method.modifiers? =
      method.keywords.map fun keyword => elementLeaf .specifier keyword.text := by
  rw [specifierMarkup, keywords, List.map_flatMap]

/-- The children of the markup of a method, group by group. -/
theorem children_methodMarkup (method : SyntaxTree) :
    method.methodMarkup.children =
      annotationMarkup method.modifiers? ++
        [typeNode method.modifiers? method.typeMarkup] ++ nameMarkup (method.child? .name) ++
        method.parameterListMarkup ++ method.block?.toList.map blockMarkup := by
  rw [methodMarkup, RawTree.inner, signatureMarkup, typeNode]
  simp only [List.append_assoc, List.cons_append, List.nil_append]

theorem firstLabel_of_mem_typeNode {modifiers : Option SyntaxTree} {names : List RawTree}
    {tree : RawTree} (h : tree ∈ [typeNode modifiers names]) :
    tree.firstLabel = SrcmlElement.type.text := by
  rw [List.mem_singleton.1 h]
  exact firstLabel_sealed _ _ _

theorem firstLabel_of_mem_blocks {block : Option SyntaxTree} {tree : RawTree}
    (h : tree ∈ block.toList.map blockMarkup) : tree.firstLabel = SrcmlElement.block.text := by
  obtain ⟨block, -, rfl⟩ := List.mem_map.1 h
  exact firstLabel_blockMarkup block

/-- The first child of a label in the markup of a method stands in the group of that label. -/
theorem child?_methodMarkup (method : SyntaxTree) (element : SrcmlElement) :
    method.methodMarkup.child? element = match element with
      | SrcmlElement.annotation => (annotationMarkup method.modifiers?).head?
      | .type => some (typeNode method.modifiers? method.typeMarkup)
      | .name => (method.child? .name).map fun name => elementLeaf .name name.text
      | .block => method.block?.map blockMarkup
      | _ => none := by
  rw [RawTree.child?, children_methodMarkup]
  simp only [List.find?_append, find?_of_firstLabel fun _ => firstLabel_of_mem_annotationMarkup,
    find?_of_firstLabel fun _ => firstLabel_of_mem_typeNode,
    find?_of_firstLabel fun _ => firstLabel_of_mem_nameMarkup,
    find?_of_firstLabel fun _ => firstLabel_of_mem_parameterListMarkup,
    find?_of_firstLabel fun _ => firstLabel_of_mem_blocks]
  cases element <;> simp [Vocabulary.text, SrcmlElement.text, head?_nameMarkup]

theorem childrenOf_annotation_methodMarkup (method : SyntaxTree) :
    method.methodMarkup.childrenOf SrcmlElement.annotation =
      annotationMarkup method.modifiers? := by
  rw [RawTree.childrenOf, children_methodMarkup]
  simp only [List.filter_append,
    filter_of_firstLabel fun _ => firstLabel_of_mem_annotationMarkup,
    filter_of_firstLabel fun _ => firstLabel_of_mem_typeNode,
    filter_of_firstLabel fun _ => firstLabel_of_mem_nameMarkup,
    filter_of_firstLabel fun _ => firstLabel_of_mem_parameterListMarkup,
    filter_of_firstLabel fun _ => firstLabel_of_mem_blocks]
  simp [Vocabulary.text, SrcmlElement.text]

theorem text_elementLeaf (element : SrcmlElement) (token : String) :
    (elementLeaf element token).text = token := by
  rw [RawTree.text, RawTree.subtrees_eq]
  show String.join [token] = token
  rw [String.join_cons, String.join_nil, String.append_empty]

/-- An annotation in the markup has the name that it has in the source. -/
theorem annotationNames_methodMarkup (method : SyntaxTree) :
    method.methodMarkup.annotationNames =
      method.annotations.map fun mark => nonempty? ((mark.child? .name).map text) := by
  rw [RawTree.annotationNames, childrenOf_annotation_methodMarkup, annotationMarkup_eq,
    List.map_map]
  refine List.map_congr_left fun mark _ => ?_
  rw [Function.comp_apply, RawTree.child?, children_sealed,
    find?_of_firstLabel fun _ => firstLabel_of_mem_nameMarkup, head?_nameMarkup]
  rw [if_pos (show SrcmlElement.name.text = Vocabulary.text SrcmlElement.name from rfl),
    Option.map_map]
  refine congrArg nonempty? (congrArg (Option.map · (mark.child? .name)) (funext fun name => ?_))
  exact text_elementLeaf _ _

theorem modifierTexts_methodMarkup (method : SyntaxTree) :
    method.methodMarkup.modifierTexts =
      method.keywords.map fun keyword => nonempty? (some keyword.text) := by
  rw [RawTree.modifierTexts, child?_methodMarkup]
  dsimp only
  rw [childrenOf_specifier_typeNode fun _ => firstLabel_of_mem_typeMarkup, specifierMarkup_eq,
    List.map_map]
  rfl

theorem declaredType_methodMarkup (method : SyntaxTree) :
    method.methodMarkup.declaredType = method.declaredType SrcmlElement.function.text :=
  declaredType_of_typeMarkup (child?_methodMarkup method .type)

theorem parameters_methodMarkup (method : SyntaxTree) :
    method.methodMarkup.slots.mapM RawTree.parameter =
      method.formalParameters.mapM parameter := by
  rw [slots_methodMarkup, List.mapM_map]
  exact mapM_congr fun slot _ => parameter_parameterMarkup slot

/-- The parts of a method can be read from its markup. -/
theorem parts_methodMarkup (method : SyntaxTree) : method.methodMarkup.parts = method.parts := by
  have name : (method.methodMarkup.child? SrcmlElement.name).bind RawTree.token =
      (method.child? .name).map text := by
    rw [child?_methodMarkup]
    cases method.child? .name <;> rfl
  have body : (method.methodMarkup.child? SrcmlElement.block).isSome = method.block?.isSome := by
    rw [child?_methodMarkup, Option.isSome_map]
  rw [RawTree.parts, parts, name, body, declaredType_methodMarkup, parameters_methodMarkup,
    annotationNames_methodMarkup, modifierTexts_methodMarkup]

/-! ## Sources -/

/-- What is reported of a method: its notes if it has a type, and else that it has none. -/
def diagnostics (filePath : String) (method : SyntaxTree) : List Diagnostic :=
  match method.typeText? with
  | some _ => method.parts.notes filePath
  | none =>
    [⟨.missingTypeToken, filePath, (method.child? .name).map text,
      (method.missingType SrcmlElement.function.text).text⟩]

theorem reading_of_some {method : SyntaxTree} {text : String} (h : method.typeText? = some text)
    (filePath : String) :
    method.parts.reading filePath =
      ⟨.ok (method.parts.summary filePath text), method.parts.notes filePath⟩ := by
  have typed : method.parts.returnType = .ok text := by
    show method.declaredType _ = _
    rw [declaredType, h]
  rw [Parts.reading, typed]

theorem reading_of_none {method : SyntaxTree} (h : method.typeText? = none) (filePath : String) :
    method.parts.reading filePath =
      ⟨.error (method.missingType SrcmlElement.function.text), []⟩ := by
  have untyped : method.parts.returnType =
      .error (method.missingType SrcmlElement.function.text) := by
    show method.declaredType _ = _
    rw [declaredType, h]
  rw [Parts.reading, untyped]

theorem diagnostics_parts (filePath : String) (method : SyntaxTree) :
    method.parts.diagnostics filePath = method.diagnostics filePath := by
  rw [Parts.diagnostics, diagnostics]
  cases h : method.typeText? with
  | some text =>
    rw [reading_of_some h]
    exact List.append_nil _
  | none =>
    rw [reading_of_none h]
    rfl

/-- A source is split into its methods. Each method with a type gives one function, in the order of
the source, which is read from the markup of the method and has the parts of the method. Each other
method is reported once, and so is what was left out of the functions. -/
theorem split_srcmlTree (parser : String → SyntaxTree) (text filePath : String) :
    ∃ tree, Source.srcmlTree parser text = .ok tree ∧
      (Split.ofNode .srcml filePath tree.root).signatures.map
          (fun signature => (signature.root.toRaw, signature.summary.alone)) =
        ((parser text).allMethods.filterMap fun method => method.typeText?.map fun type =>
          (method.methodMarkup, method.parts.summary filePath type)) ∧
      (Split.ofNode .srcml filePath tree.root).diagnostics =
        (parser text).allMethods.flatMap (diagnostics filePath) := by
  obtain ⟨tree, made, copy⟩ := Tree.exists_of_sound (sound_unitMarkup (parser text))
  refine ⟨tree, made, ?_, ?_⟩
  · rw [Split.signatures_srcml, copy, functions_unitMarkup, List.filterMap_map]
    refine List.filterMap_congr fun method _ => ?_
    rw [Function.comp_apply, parts_methodMarkup]
    cases h : method.typeText? with
    | some type => rw [reading_of_some h]; rfl
    | none => rw [reading_of_none h]; rfl
  · rw [Split.diagnostics_srcml, copy, functions_unitMarkup, List.flatMap_map]
    refine List.flatMap_congr fun method _ => ?_
    rw [parts_methodMarkup, diagnostics_parts]

end SyntaxTree

end MethodCorpus
