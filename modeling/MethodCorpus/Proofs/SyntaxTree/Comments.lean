import MethodCorpus.Proofs.SyntaxTree.Conversion
import MethodCorpus.Proofs.SyntaxTree.Signatures

/-!
# Comments in a syntax tree

A comment may stand between any two children of a node. Everything that is looked for in a syntax
tree is looked for by its role, by its kind or among the signs of the grammar, where no comment is
found, with one exception: the type of a parameter that stands for any number of arguments is the
first of its parts that is nothing else, and that may be a comment. So a source is converted as if
it had no comments exactly if no such parameter gets another type from one.

* `withoutComments`: a syntax tree less its comments;
* `filter_of_blind`: a test that no comment passes finds the same nodes there;
* `parameterMarkup_withoutComments_iff`: when a parameter keeps its markup;
* `methods_withoutComments`: the methods are the same;
* `markup_withoutComments`: so is the markup, if all parameters keep theirs;
* `convert_withoutComments`: what that means for the conversion.
-/

namespace MethodCorpus

namespace SyntaxTree

/-! ## Deleting comments -/

/-- Whether a node is a comment: a part of its own without role and without children. -/
def isComment (node : SyntaxTree) : Bool :=
  node.named && node.field.isNone && node.children.isEmpty &&
    (node.kind == "line_comment" || node.kind == "block_comment")

mutual

/-- A node less all comments below it. -/
def withoutComments : SyntaxTree → SyntaxTree
  | ⟨kind, named, field, text, children⟩ =>
    ⟨kind, named, field, text, forestWithoutComments children⟩

/-- Some nodes less all comments among and below them. -/
def forestWithoutComments : List SyntaxTree → List SyntaxTree
  | [] => []
  | node :: rest =>
    (if node.isComment then [] else [node.withoutComments]) ++ forestWithoutComments rest

end

theorem forestWithoutComments_eq (nodes : List SyntaxTree) :
    forestWithoutComments nodes = (nodes.filter (!·.isComment)).map withoutComments := by
  induction nodes with
  | nil => rw [forestWithoutComments, List.filter_nil, List.map_nil]
  | cons node rest ih =>
    rw [forestWithoutComments, ih, List.filter_cons]
    cases node.isComment <;> rfl

variable (node : SyntaxTree)

@[simp]
theorem kind_withoutComments : node.withoutComments.kind = node.kind := by
  obtain ⟨kind, named, field, text, children⟩ := node
  rw [withoutComments]

@[simp]
theorem named_withoutComments : node.withoutComments.named = node.named := by
  obtain ⟨kind, named, field, text, children⟩ := node
  rw [withoutComments]

@[simp]
theorem field_withoutComments : node.withoutComments.field = node.field := by
  obtain ⟨kind, named, field, text, children⟩ := node
  rw [withoutComments]

@[simp]
theorem text_withoutComments : node.withoutComments.text = node.text := by
  obtain ⟨kind, named, field, text, children⟩ := node
  rw [withoutComments]

theorem children_withoutComments :
    node.withoutComments.children =
      (node.children.filter (!·.isComment)).map withoutComments := by
  obtain ⟨kind, named, field, text, children⟩ := node
  rw [withoutComments, forestWithoutComments_eq]

@[simp]
theorem isMethod_withoutComments : node.withoutComments.isMethod = node.isMethod := by
  rw [isMethod, kind_withoutComments, isMethod]

@[simp]
theorem isSpread_withoutComments : node.withoutComments.isSpread = node.isSpread := by
  rw [isSpread, kind_withoutComments, isSpread]

/-! ## Tests that no comment passes -/

variable {node}

theorem named_of_isComment (h : node.isComment = true) : node.named = true := by
  simp only [isComment, Bool.and_eq_true] at h
  exact h.1.1.1

theorem field_of_isComment (h : node.isComment = true) : node.field = none := by
  simp only [isComment, Bool.and_eq_true, Option.isNone_iff_eq_none] at h
  exact h.1.1.2

theorem children_of_isComment (h : node.isComment = true) : node.children = [] := by
  simp only [isComment, Bool.and_eq_true, List.isEmpty_iff] at h
  exact h.1.2

theorem kind_of_isComment (h : node.isComment = true) :
    node.kind = "line_comment" ∨ node.kind = "block_comment" := by
  simp only [isComment, Bool.and_eq_true, Bool.or_eq_true, beq_iff_eq] at h
  exact h.2

/-- A test of nodes that no comment passes and that does not look below a node. -/
structure Blind (test : SyntaxTree → Bool) : Prop where
  comment : ∀ node, node.isComment = true → test node = false
  below : ∀ node, test node.withoutComments = test node

theorem Blind.field (field : SyntaxField) : Blind (·.field = some field) where
  comment node h := by rw [field_of_isComment h]; rfl
  below node := by rw [field_withoutComments]

theorem Blind.unnamed : Blind (!·.named) where
  comment node h := by rw [named_of_isComment h]; rfl
  below node := by rw [named_withoutComments]

/-- A test of the kind that neither kind of comments passes. -/
theorem Blind.kind (test : String → Bool) (line : test "line_comment" = false)
    (block : test "block_comment" = false) : Blind (test ·.kind) where
  comment node h := by
    rcases kind_of_isComment h with kind | kind
    · rw [kind, line]
    · rw [kind, block]
  below node := by rw [kind_withoutComments]

theorem Blind.and_named {test : SyntaxTree → Bool} (h : Blind test) :
    Blind fun node => test node && node.named where
  comment node is := by rw [h.comment node is, Bool.false_and]
  below node := by rw [h.below, named_withoutComments]

section Blind

variable {test : SyntaxTree → Bool} (blind : Blind test)

include blind

/-- What passes such a test among the children is the same without comments. -/
theorem filter_of_blind (node : SyntaxTree) :
    node.withoutComments.children.filter test =
      (node.children.filter test).map withoutComments := by
  rw [children_withoutComments, List.filter_map, List.filter_filter]
  refine congrArg _ (List.filter_congr fun child _ => ?_)
  rw [Function.comp_apply, blind.below]
  cases comment : child.isComment with
  | true => rw [blind.comment child comment]; rfl
  | false => rw [Bool.not_false, Bool.and_true]

theorem find?_of_blind (node : SyntaxTree) :
    node.withoutComments.children.find? test = (node.children.find? test).map withoutComments := by
  rw [← List.head?_filter, filter_of_blind blind, List.head?_map, List.head?_filter]

theorem countP_of_blind (node : SyntaxTree) :
    node.withoutComments.children.countP test = node.children.countP test := by
  rw [List.countP_eq_length_filter, filter_of_blind blind, List.length_map,
    ← List.countP_eq_length_filter]

theorem filter_namedChildren_of_blind (node : SyntaxTree) :
    node.withoutComments.namedChildren.filter test =
      (node.namedChildren.filter test).map withoutComments := by
  rw [namedChildren, List.filter_filter, filter_of_blind blind.and_named, namedChildren,
    List.filter_filter]

end Blind

theorem child?_withoutComments (node : SyntaxTree) (field : SyntaxField) :
    node.withoutComments.child? field = (node.child? field).map withoutComments :=
  find?_of_blind (Blind.field field) node

theorem namedChildren_withoutComments (node : SyntaxTree) :
    node.withoutComments.namedChildren =
      (node.namedChildren.filter (!·.isComment)).map withoutComments := by
  rw [namedChildren, children_withoutComments, List.filter_map, List.filter_filter, namedChildren,
    List.filter_filter]
  refine congrArg _ (List.filter_congr fun child _ => ?_)
  rw [Function.comp_apply, named_withoutComments, Bool.and_comm]

/-! ## Signatures -/

theorem modifiers?_withoutComments (node : SyntaxTree) :
    node.withoutComments.modifiers? = node.modifiers?.map withoutComments :=
  find?_of_blind (Blind.kind (· == "modifiers") rfl rfl) node

theorem nameMarkup_withoutComments (name : Option SyntaxTree) :
    nameMarkup (name.map withoutComments) = nameMarkup name := by
  cases name with
  | none => rfl
  | some name =>
    show [elementLeaf .name name.withoutComments.text] = _
    rw [text_withoutComments]
    rfl

theorem specifierMarkup_withoutComments (modifiers : Option SyntaxTree) :
    specifierMarkup (modifiers.map withoutComments) = specifierMarkup modifiers := by
  cases modifiers with
  | none => rfl
  | some modifiers =>
    simp only [specifierMarkup, Option.map_some, Option.toList_some, List.flatMap_singleton,
      filter_of_blind Blind.unnamed, List.map_map, Function.comp_def, text_withoutComments]

theorem annotationMarkup_withoutComments (modifiers : Option SyntaxTree) :
    annotationMarkup (modifiers.map withoutComments) = annotationMarkup modifiers := by
  cases modifiers with
  | none => rfl
  | some modifiers =>
    have marks := filter_namedChildren_of_blind (Blind.kind (fun kind =>
      kind == "marker_annotation" || kind == "annotation") rfl rfl) modifiers
    simp only [annotationMarkup, Option.map_some, Option.toList_some, List.flatMap_singleton,
      marks, List.map_map, Function.comp_def, text_withoutComments, child?_withoutComments,
      nameMarkup_withoutComments]

theorem bracketCount_withoutComments (node : SyntaxTree) :
    node.withoutComments.bracketCount = node.bracketCount := by
  rw [bracketCount, bracketCount, child?_withoutComments]
  cases node.child? .dimensions with
  | none => rfl
  | some dimensions => exact countP_of_blind (Blind.kind (· == "[") rfl rfl) dimensions

theorem elementType_withoutComments (type : SyntaxTree) :
    type.withoutComments.elementType = type.elementType.withoutComments := by
  rw [elementType, elementType, kind_withoutComments, child?_withoutComments]
  split
  · cases type.child? .element <;> rfl
  · rfl

theorem typeBrackets_withoutComments (type declaration : SyntaxTree) :
    typeBrackets type.withoutComments declaration.withoutComments =
      typeBrackets type declaration := by
  rw [typeBrackets, typeBrackets, kind_withoutComments, bracketCount_withoutComments,
    bracketCount_withoutComments]

theorem typeMarkup_withoutComments (declaration : SyntaxTree) :
    declaration.withoutComments.typeMarkup = declaration.typeMarkup := by
  simp only [typeMarkup, child?_withoutComments, Option.toList_map, List.map_map,
    Function.comp_def, elementType_withoutComments, text_withoutComments,
    typeBrackets_withoutComments]

/-! ## Parameters -/

theorem parameterName?_withoutComments (slot : SyntaxTree) :
    slot.withoutComments.parameterName? = slot.parameterName?.map withoutComments := by
  have declarators := filter_namedChildren_of_blind
    (Blind.kind (· == "variable_declarator") rfl rfl) slot
  rw [parameterName?, parameterName?, isSpread_withoutComments, child?_withoutComments,
    spreadDeclarator?, declarators, List.getLast?_map, Option.bind_map, spreadDeclarator?]
  split
  · rw [Option.map_bind]
    refine congrArg _ (funext fun declarator => ?_)
    exact child?_withoutComments declarator .name
  · rfl

/-- Whether a parameter has the same type without comments. Only the type of a parameter for any
number of arguments may change. -/
def KeepsType (slot : SyntaxTree) : Prop :=
  slot.isSpread = true → slot.withoutComments.spreadType?.map text = slot.spreadType?.map text

theorem find?_filter_of_pos {α : Type} {kept test : α → Bool} (items : List α)
    (h : ∀ item, items.find? test = some item → kept item = true) :
    (items.filter kept).find? test = items.find? test := by
  induction items with
  | nil => rfl
  | cons item rest ih =>
    by_cases passes : test item = true
    · have first := List.find?_cons_of_pos (l := rest) passes
      rw [List.filter_cons_of_pos (h item first), List.find?_cons_of_pos passes, first]
    · rw [List.find?_cons_of_neg passes] at h ⊢
      rw [List.filter_cons]
      split
      · rw [List.find?_cons_of_neg passes, ih h]
      · exact ih h

/-- A parameter keeps its type if no comment is taken for it. -/
theorem keepsType_of_not_comment {slot : SyntaxTree}
    (h : ∀ type, slot.spreadType? = some type → type.isComment = false) : slot.KeepsType := by
  intro _
  have found : slot.withoutComments.spreadType? = slot.spreadType?.map withoutComments := by
    have uncommented : ∀ type, slot.spreadType? = some type → (!type.isComment) = true := by
      intro type first
      rw [h type first]
      rfl
    rw [spreadType?, namedChildren_withoutComments, List.find?_map]
    simp only [Function.comp_def, kind_withoutComments]
    rw [find?_filter_of_pos _ uncommented]
    rfl
  rw [found, Option.map_map]
  exact congrArg (Option.map · slot.spreadType?) (funext text_withoutComments)

theorem parameterType_of_spread {slot : SyntaxTree} (spread : slot.isSpread = true) :
    slot.parameterType = match slot.spreadType?.map text with
      | none => .error (.missingTypeToken "no type found under 'decl'")
      | some type => .ok (type ++ "...") := by
  rw [parameterType, if_pos spread]
  cases slot.spreadType? <;> rfl

/-- A parameter has the same markup without comments exactly if it keeps its type. -/
theorem parameterMarkup_withoutComments_iff (slot : SyntaxTree) :
    slot.withoutComments.parameterMarkup = slot.parameterMarkup ↔ slot.KeepsType := by
  constructor
  · intro same spread
    have decls : slot.withoutComments.declMarkup = slot.declMarkup :=
      (List.cons.inj (congrArg RawTree.children same)).1
    have types : slot.withoutComments.parameterType = slot.parameterType := by
      rw [← declaredType_declMarkup, decls, declaredType_declMarkup]
    rw [parameterType_of_spread spread,
      parameterType_of_spread (slot.isSpread_withoutComments.trans spread)] at types
    revert types
    cases slot.withoutComments.spreadType?.map text with
    | none =>
      cases slot.spreadType?.map text with
      | none => exact fun _ => rfl
      | some whole => exact fun types => nomatch types
    | some bare =>
      cases slot.spreadType?.map text with
      | none => exact fun types => nomatch types
      | some whole =>
        exact fun types => congrArg some ((String.append_left_inj "...").1 (Except.ok.inj types))
  · intro keeps
    have names : slot.withoutComments.parameterTypeNames = slot.parameterTypeNames := by
      rw [parameterTypeNames, parameterTypeNames, isSpread_withoutComments]
      split
      · next spread =>
        have same := congrArg (fun type : Option String =>
          type.toList.map fun text => elementLeaf .name (text ++ "...")) (keeps spread)
        simpa only [Option.toList_map, List.map_map, Function.comp_def] using same
      · exact typeMarkup_withoutComments slot
    rw [parameterMarkup_eq, parameterMarkup_eq, declMarkup, declMarkup, names, typeNode, typeNode,
      modifiers?_withoutComments, specifierMarkup_withoutComments, parameterName?_withoutComments,
      nameMarkup_withoutComments]

theorem filter_isParameter_withoutComments (list : SyntaxTree) :
    list.withoutComments.namedChildren.filter isParameter =
      (list.namedChildren.filter isParameter).map withoutComments :=
  filter_namedChildren_of_blind (Blind.kind (fun kind =>
    kind == "formal_parameter" || kind == "spread_parameter") rfl rfl) list

theorem formalParameters_withoutComments (method : SyntaxTree) :
    method.withoutComments.formalParameters = method.formalParameters.map withoutComments := by
  rw [formalParameters, formalParameters, child?_withoutComments]
  cases method.child? .parameters with
  | none => rfl
  | some list =>
    simp only [Option.map_some, Option.toList_some, List.flatMap_singleton]
    exact filter_isParameter_withoutComments list

theorem parameterListMarkup_withoutComments {method : SyntaxTree}
    (keeps : ∀ slot ∈ method.formalParameters, slot.KeepsType) :
    method.withoutComments.parameterListMarkup = method.parameterListMarkup := by
  rw [formalParameters] at keeps
  rw [parameterListMarkup, parameterListMarkup, child?_withoutComments]
  cases listed : method.child? .parameters with
  | none => rfl
  | some list =>
    rw [listed, Option.toList_some, List.flatMap_singleton] at keeps
    have slots : (list.withoutComments.namedChildren.filter isParameter).map parameterMarkup =
        (list.namedChildren.filter isParameter).map parameterMarkup := by
      rw [filter_isParameter_withoutComments, List.map_map]
      refine List.map_congr_left fun slot mem => ?_
      exact (parameterMarkup_withoutComments_iff slot).2 (keeps slot mem)
    simp only [Option.map_some, Option.toList_some, List.map_cons, List.map_nil, slots,
      text_withoutComments]

theorem signatureMarkup_withoutComments {method : SyntaxTree}
    (keeps : ∀ slot ∈ method.formalParameters, slot.KeepsType) :
    method.withoutComments.signatureMarkup = method.signatureMarkup := by
  rw [signatureMarkup, signatureMarkup, modifiers?_withoutComments,
    annotationMarkup_withoutComments, specifierMarkup_withoutComments, typeMarkup_withoutComments,
    child?_withoutComments, nameMarkup_withoutComments, parameterListMarkup_withoutComments keeps]

/-! ## The walk -/

section

variable {β : Type} {f g : SyntaxTree → List β}

/-- What comes of some nodes is the same without comments if it is for each of them, and if nothing
comes of a comment. -/
theorem flatMap_withoutComments (nodes : List SyntaxTree)
    (same : ∀ node ∈ nodes, f node.withoutComments = g node)
    (nothing : ∀ node, node.isComment = true → g node = []) :
    ((nodes.filter (!·.isComment)).map withoutComments).flatMap f = nodes.flatMap g := by
  induction nodes with
  | nil => rfl
  | cons node rest ih =>
    have others := ih fun other mem => same other (List.mem_cons_of_mem _ mem)
    rw [List.flatMap_cons, ← others, List.filter_cons]
    cases comment : node.isComment with
    | true => rw [nothing node comment]; rfl
    | false => rw [← same node List.mem_cons_self]; rfl

end

theorem isMethod_of_isComment {node : SyntaxTree} (h : node.isComment = true) :
    node.isMethod = false := by
  rw [isMethod]
  rcases kind_of_isComment h with kind | kind <;> rw [kind] <;> rfl

/-- Nothing is inside a comment. -/
theorem inside_of_isComment {node : SyntaxTree} (h : node.isComment = true) : node.inside = [] := by
  have plain : node.kind ∉ declarationKinds := by
    rcases kind_of_isComment h with kind | kind <;> rw [kind] <;> decide
  rw [inside, interior?, isMethod_of_isComment h, if_neg Bool.false_ne_true, if_neg plain,
    Option.toList_some, List.flatMap_singleton, namedChildren, children_of_isComment h,
    List.filter_nil]

theorem map_methods_of_isComment {node : SyntaxTree} (h : node.isComment = true) :
    node.methods.map withoutComments = [] := by
  rw [methods_eq, isMethod_of_isComment h, inside_of_isComment h, if_neg Bool.false_ne_true]
  rfl

theorem markup_of_isComment {node : SyntaxTree} (h : node.isComment = true) : node.markup = [] := by
  have unlabelled : declarationLabel? node.kind = none := by
    rcases kind_of_isComment h with kind | kind <;> rw [kind] <;> rfl
  have noBody : ¬ (node.kind == "class_body") = true := by
    rcases kind_of_isComment h with kind | kind <;> rw [kind] <;> decide
  rw [markup_eq, isMethod_of_isComment h, unlabelled, if_neg Bool.false_ne_true]
  dsimp only
  rw [if_neg noBody, namedChildren, children_of_isComment h, List.filter_nil, List.flatMap_nil]

theorem block?_withoutComments (method : SyntaxTree) :
    method.withoutComments.block? = method.block?.map withoutComments := by
  rw [block?, block?, child?_withoutComments]
  cases method.child? .body with
  | none => rfl
  | some body =>
    rw [Option.map_some, Option.filter_some, Option.filter_some, kind_withoutComments]
    split <;> rfl

theorem interior?_withoutComments (node : SyntaxTree) :
    node.withoutComments.interior? = node.interior?.map withoutComments := by
  rw [interior?, interior?, isMethod_withoutComments, kind_withoutComments, block?_withoutComments,
    child?_withoutComments]
  split
  · rfl
  · split <;> rfl

theorem inside_withoutComments (node : SyntaxTree) :
    node.withoutComments.inside = (node.inside.filter (!·.isComment)).map withoutComments := by
  rw [inside, inside, interior?_withoutComments]
  cases node.interior? with
  | none => rfl
  | some interior =>
    simp only [Option.map_some, Option.toList_some, List.flatMap_singleton]
    exact namedChildren_withoutComments interior

/-- Without comments the same methods are met. -/
theorem methods_withoutComments (node : SyntaxTree) :
    node.withoutComments.methods = node.methods.map withoutComments := by
  induction node using insideInduction with
  | step node ih =>
    rw [methods_eq, methods_eq, isMethod_withoutComments, inside_withoutComments,
      flatMap_withoutComments node.inside ih fun _ => map_methods_of_isComment, List.map_append,
      List.map_flatMap]
    split <;> rfl

theorem allMethods_withoutComments (root : SyntaxTree) :
    root.withoutComments.allMethods = root.allMethods.map withoutComments := by
  have each : ∀ child ∈ root.namedChildren,
      child.withoutComments.methods = child.methods.map withoutComments :=
    fun child _ => methods_withoutComments child
  rw [allMethods, namedChildren_withoutComments,
    flatMap_withoutComments root.namedChildren each fun _ => map_methods_of_isComment, allMethods,
    List.map_flatMap]

theorem blockMarkup_withoutComments {body : SyntaxTree}
    (same : ∀ child ∈ body.namedChildren, child.withoutComments.markup = child.markup) :
    body.withoutComments.blockMarkup = body.blockMarkup := by
  rw [blockMarkup_eq, blockMarkup_eq, text_withoutComments, namedChildren_withoutComments,
    flatMap_withoutComments body.namedChildren same fun _ => markup_of_isComment]

/-- The blocks of a body have the same markup if what stands in them has. -/
theorem blocks_withoutComments {body : Option SyntaxTree}
    (same : ∀ child ∈ body.toList.flatMap namedChildren,
      child.withoutComments.markup = child.markup) :
    (body.map withoutComments).toList.map blockMarkup = body.toList.map blockMarkup := by
  cases body with
  | none => rfl
  | some body =>
    rw [Option.toList_some, List.flatMap_singleton] at same
    exact congrArg ([·]) (blockMarkup_withoutComments same)

/-- A node whose parameters all keep their types has the same markup without comments. -/
theorem markup_withoutComments (node : SyntaxTree) :
    (∀ method ∈ node.methods, ∀ slot ∈ method.formalParameters, slot.KeepsType) →
      node.withoutComments.markup = node.markup := by
  induction node using insideInduction with
  | step node ih =>
    intro keeps
    -- the methods below a child are among those below the node, so their parameters keep their types
    have inner : ∀ child ∈ node.inside, child.withoutComments.markup = child.markup := by
      intro child mem
      refine ih child mem fun method met => keeps method ?_
      rw [methods_eq]
      exact List.mem_append_right _ (List.mem_flatMap.2 ⟨child, mem, met⟩)
    rw [inside, interior?] at inner
    by_cases h : node.isMethod = true
    · have own : node ∈ node.methods := by
        rw [methods_eq, if_pos h]
        exact List.mem_append_left _ List.mem_cons_self
      rw [if_pos h] at inner
      rw [markup_of_method h, markup_of_method (node.isMethod_withoutComments.trans h),
        methodMarkup, methodMarkup, signatureMarkup_withoutComments (keeps node own),
        block?_withoutComments, blocks_withoutComments inner]
    rw [if_neg h] at inner
    rw [markup_eq, markup_eq, isMethod_withoutComments, if_neg h, if_neg h, kind_withoutComments,
      text_withoutComments, child?_withoutComments, nameMarkup_withoutComments,
      child?_withoutComments]
    cases labelled : declarationLabel? node.kind with
    | some label =>
      rw [if_pos (mem_declarationKinds labelled)] at inner
      dsimp only
      rw [blocks_withoutComments inner]
    | none =>
      rw [if_neg (declarationLabel?_eq_none_iff.1 labelled), Option.toList_some,
        List.flatMap_singleton] at inner
      dsimp only
      rw [blockMarkup_withoutComments inner, namedChildren_withoutComments,
        flatMap_withoutComments node.namedChildren inner fun _ => markup_of_isComment]

/-- A source has the same markup without comments exactly if all parameters keep their types. -/
theorem unitMarkup_withoutComments_iff (root : SyntaxTree) :
    root.withoutComments.unitMarkup = root.unitMarkup ↔
      ∀ method ∈ root.allMethods, ∀ slot ∈ method.formalParameters, slot.KeepsType := by
  constructor
  · intro same method met slot mem
    -- the same markup has the same functions, and these have the same slots
    have functions : root.withoutComments.unitMarkup.functions = root.unitMarkup.functions :=
      congrArg RawTree.functions same
    rw [functions_unitMarkup, functions_unitMarkup, allMethods_withoutComments, List.map_map,
      List.map_inj_left] at functions
    have slots : method.withoutComments.methodMarkup.slots = method.methodMarkup.slots :=
      congrArg RawTree.slots (functions method met)
    rw [slots_methodMarkup, slots_methodMarkup, formalParameters_withoutComments, List.map_map,
      List.map_inj_left] at slots
    exact (parameterMarkup_withoutComments_iff slot).1 (slots slot mem)
  · intro keeps
    have inner : ∀ child ∈ root.namedChildren, child.withoutComments.markup = child.markup := by
      intro child mem
      refine markup_withoutComments child fun method met => keeps method ?_
      exact List.mem_flatMap.2 ⟨child, mem, met⟩
    have forest : forestMarkup root.withoutComments.children = forestMarkup root.children := by
      rw [forestMarkup_eq, forestMarkup_eq]
      show root.withoutComments.namedChildren.flatMap markup = root.namedChildren.flatMap markup
      rw [namedChildren_withoutComments,
        flatMap_withoutComments root.namedChildren inner fun _ => markup_of_isComment]
    rw [unitMarkup, unitMarkup, forest]

/-! ## Conversion -/

/-- A source is converted as if it had no comments exactly if every parameter of a method keeps its
type without comments, as it does if no comment is taken for the type of a parameter that stands for
any number of arguments. -/
theorem convert_withoutComments (root : SyntaxTree) :
    ∃ tree bare, root.convert = .ok tree ∧ root.withoutComments.convert = .ok bare ∧
      (bare.root.toRaw = tree.root.toRaw ↔
        ∀ method ∈ root.allMethods, ∀ slot ∈ method.formalParameters, slot.isSpread = true →
          slot.withoutComments.spreadType?.map text = slot.spreadType?.map text) ∧
      ((∀ method ∈ root.allMethods, ∀ slot ∈ method.formalParameters, slot.isSpread = true →
          ∀ type, slot.spreadType? = some type → type.isComment = false) →
        bare.root.toRaw = tree.root.toRaw) := by
  obtain ⟨tree, made, copy⟩ := Tree.exists_of_sound (sound_unitMarkup root)
  obtain ⟨bare, made', copy'⟩ := Tree.exists_of_sound (sound_unitMarkup root.withoutComments)
  have law := unitMarkup_withoutComments_iff root
  refine ⟨tree, bare, (convert_eq root).trans made, (convert_eq _).trans made', ?_, ?_⟩
  · rw [copy, copy', law]
    rfl
  · intro uncommented
    rw [copy, copy', law]
    intro method met slot mem spread
    exact keepsType_of_not_comment (uncommented method met slot mem spread) spread

/-- The syntax tree of the source `class A { void f(final /* c */ int... xs) {} }`. -/
def commentedSpread : SyntaxTree :=
  let sign (text : String) : SyntaxTree := ⟨text, false, none, text, []⟩
  let name (text : String) : SyntaxTree := ⟨"identifier", true, some .name, text, []⟩
  let slot : SyntaxTree :=
    ⟨"spread_parameter", true, none, "final /* c */ int... xs",
      [⟨"modifiers", true, none, "final", [sign "final"]⟩,
        ⟨"block_comment", true, none, "/* c */", []⟩,
        ⟨"integral_type", true, none, "int", [sign "int"]⟩, sign "...",
        ⟨"variable_declarator", true, none, "xs", [name "xs"]⟩]⟩
  let method : SyntaxTree :=
    ⟨"method_declaration", true, none, "void f(final /* c */ int... xs) \x7b\x7d",
      [⟨"void_type", true, some .type, "void", []⟩, name "f",
        ⟨"formal_parameters", true, some .parameters, "(final /* c */ int... xs)",
          [sign "(", slot, sign ")"]⟩,
        ⟨"block", true, some .body, "\x7b\x7d", [sign "\x7b", sign "\x7d"]⟩]⟩
  let body : SyntaxTree :=
    ⟨"class_body", true, some .body, "\x7b void f(final /* c */ int... xs) \x7b\x7d \x7d",
      [sign "\x7b", method, sign "\x7d"]⟩
  let source := "class A \x7b void f(final /* c */ int... xs) \x7b\x7d \x7d"
  ⟨"program", true, none, source,
    [⟨"class_declaration", true, none, source, [sign "class", name "A", body]⟩]⟩

/-- The comment is taken for the type, so the source is converted to another tree without it. -/
theorem comment_taken_for_type :
    ∃ tree bare, commentedSpread.convert = .ok tree ∧
      commentedSpread.withoutComments.convert = .ok bare ∧ bare.root.toRaw ≠ tree.root.toRaw := by
  obtain ⟨tree, made, copy⟩ := Tree.exists_of_sound (sound_unitMarkup commentedSpread)
  obtain ⟨bare, made', copy'⟩ :=
    Tree.exists_of_sound (sound_unitMarkup commentedSpread.withoutComments)
  refine ⟨tree, bare, (convert_eq _).trans made, (convert_eq _).trans made', ?_⟩
  rw [copy, copy']
  decide

end SyntaxTree

end MethodCorpus
