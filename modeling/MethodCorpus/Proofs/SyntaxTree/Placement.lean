import MethodCorpus.Proofs.Signature.Scope
import MethodCorpus.Proofs.SyntaxTree.Signatures

/-!
# Where the methods of a source stand

On the walk down a syntax tree every method is met below the nodes that the walk has entered before.
The declaration around its function in the markup is the nearest of them that is a class or an
enumeration, so the signature of the function can be told from the method and these nodes.

* `Placed`, `placedMethods`: the methods met on the walk, each with the nodes entered above it;
* `forall_placedMethods`: what every step of the walk keeps holds where a method is met;
* `methodsWithin_markup`: the functions of the markup stand within what was entered;
* `exists_split`: the signatures of a source, one for each method that has a type.
-/

namespace MethodCorpus

open MethodCorpus.Tree

namespace RawTree

theorem map_snd_methodsWithin (scope : Scope) (tree : RawTree) :
    (tree.methodsWithin .srcml scope).map Prod.snd = tree.functions := by
  induction tree generalizing scope with
  | node label token children ih =>
    rw [methodsWithin_eq, functions_eq, List.map_append, List.map_flatMap]
    refine congrArg₂ _ ?_ (List.flatMap_congr fun child mem => ih child mem _)
    show List.map Prod.snd (if isMethod .srcml ⟨label, token, children⟩ then _ else _) = _
    rw [apply_ite (List.map Prod.snd)]
    rfl

/-- Among trees without functions there is none within any declaration. -/
theorem flatMap_methodsWithin_eq_nil {trees : List RawTree} (scope : Scope)
    (none : trees.flatMap functions = []) : trees.flatMap (methodsWithin .srcml scope) = [] := by
  rw [List.flatMap_eq_nil_iff] at none ⊢
  intro tree mem
  rw [← List.map_eq_nil_iff, map_snd_methodsWithin, none tree mem]

/-- What stands around a sealed node passes to the trees below it, if the node is no method, and the
node itself is in between if it is a declaration. -/
theorem methodsWithin_sealed {label token : String} {trees : List RawTree} (scope : Scope)
    (other : Label.lastSegment label ≠ SrcmlElement.function.text) :
    (RawTree.sealed label token trees).methodsWithin .srcml scope =
      trees.flatMap (methodsWithin .srcml
        (((RawTree.sealed label token trees).declares? .srcml).or scope)) := by
  have noMethod : ¬ (RawTree.sealed label token trees).isMethod .srcml = true := by
    rw [isMethod, lastLabel, SyntaxTree.label_sealed, beq_iff_eq]
    exact other
  rw [methodsWithin_eq, if_neg noMethod, List.nil_append, SyntaxTree.children_sealed]

end RawTree

namespace SyntaxTree

/-! ## The walk with what it entered -/

/-- A method with the nodes that the walk entered above it, nearest first. The body through which a
declaration is entered is not one of them. -/
structure Placed where
  entered : List SyntaxTree
  method : SyntaxTree

/-- The methods met on the walk from a node, the node itself included, in source order, if some
nodes were entered above the node. -/
def placedMethods (entered : List SyntaxTree) (node : SyntaxTree) : List Placed :=
  (if node.isMethod then [⟨entered, node⟩] else []) ++
    node.inside.attach.flatMap fun child => placedMethods (node :: entered) child.1
termination_by sizeOf node
decreasing_by exact sizeOf_lt_of_mem_inside child.2

/-- The methods of a source with the nodes entered above them. The root is not entered. -/
def allPlaced (root : SyntaxTree) : List Placed := root.namedChildren.flatMap (placedMethods [])

theorem placedMethods_eq (entered : List SyntaxTree) (node : SyntaxTree) :
    node.placedMethods entered = (if node.isMethod then [⟨entered, node⟩] else []) ++
      node.inside.flatMap (placedMethods (node :: entered)) := by
  rw [placedMethods, List.flatMap_subtype fun _ _ => rfl, List.unattach_attach]

/-- The same methods are met as on the walk that forgets what it entered. -/
theorem map_method_placedMethods (node : SyntaxTree) :
    ∀ entered, (node.placedMethods entered).map Placed.method = node.methods := by
  induction node using insideInduction with
  | step node ih =>
    intro entered
    rw [placedMethods_eq, methods_eq, List.map_append, List.map_flatMap]
    refine congrArg₂ _ ?_ (List.flatMap_congr fun child mem => ih child mem _)
    split <;> rfl

theorem map_method_allPlaced (root : SyntaxTree) :
    root.allPlaced.map Placed.method = root.allMethods := by
  rw [allPlaced, allMethods, List.map_flatMap]
  exact List.flatMap_congr fun node _ => map_method_placedMethods node []

/-- What holds of every step of the walk holds of every method that is met. -/
theorem forall_placedMethods {motive : List SyntaxTree → SyntaxTree → Prop}
    (step : ∀ entered node, motive entered node → ∀ child ∈ node.inside,
      motive (node :: entered) child) (node : SyntaxTree) :
    ∀ entered, motive entered node →
      ∀ placed ∈ node.placedMethods entered, motive placed.entered placed.method := by
  induction node using insideInduction with
  | step node ih =>
    intro entered here placed mem
    rw [placedMethods_eq] at mem
    rcases List.mem_append.1 mem with mem | mem
    · split at mem
      · obtain rfl := List.mem_singleton.1 mem
        exact here
      · cases mem
    · obtain ⟨child, listed, mem⟩ := List.mem_flatMap.1 mem
      exact ih child listed _ (step entered node here child listed) placed mem

/-! ## What stands around a method -/

/-- The class or enumeration that a node is, with its simple name. A class body that is entered
belongs to an anonymous class. -/
def declares? (node : SyntaxTree) : Scope :=
  if node.kind = "class_declaration" ∨ node.kind = "record_declaration" then
    some (.classDeclaration, (node.child? .name).map text)
  else if node.kind = "enum_declaration" then
    some (.enumDeclaration, (node.child? .name).map text)
  else if node.kind = "class_body" then some (.classDeclaration, none)
  else none

/-- The nearest class or enumeration among the nodes entered above a method. -/
def Placed.scope (placed : Placed) : Scope := placed.entered.findSome? declares?

theorem declares?_eq_none {node : SyntaxTree} (plain : node.kind ∉ declarationKinds)
    (noBody : node.kind ≠ "class_body") : node.declares? = none := by
  simp only [declarationKinds, List.mem_cons, List.not_mem_nil, or_false, not_or] at plain
  obtain ⟨notClass, notRecord, notEnum, -⟩ := plain
  rw [declares?, if_neg (not_or.2 ⟨notClass, notRecord⟩), if_neg notEnum, if_neg noBody]

theorem declares?_of_method {node : SyntaxTree} (h : node.isMethod = true) :
    node.declares? = none := by
  have kind : node.kind = "method_declaration" := beq_iff_eq.1 h
  exact declares?_eq_none (by rw [kind]; decide) (by rw [kind]; decide)

theorem child?_name_sealed (label token : String) (name body : Option SyntaxTree) :
    ((RawTree.sealed label token (nameMarkup name ++ body.toList.map blockMarkup)).child?
        SrcmlElement.name).bind RawTree.token = name.map text := by
  rw [RawTree.child?, children_sealed, List.find?_append,
    find?_of_firstLabel fun _ => firstLabel_of_mem_nameMarkup,
    find?_of_firstLabel fun _ => firstLabel_of_mem_blocks,
    if_pos (show SrcmlElement.name.text = Vocabulary.text SrcmlElement.name from rfl),
    if_neg (by decide), Option.or_none]
  cases name <;> rfl

/-- The markup of a declaration declares what the declaration does. -/
theorem declares?_sealed {node : SyntaxTree} {label : String}
    (h : declarationLabel? node.kind = some label) :
    (RawTree.sealed label node.text
      (nameMarkup (node.child? .name) ++ (node.child? .body).toList.map blockMarkup)).declares?
        .srcml = node.declares? := by
  have labelled : ∀ element : SrcmlElement, (RawTree.sealed label node.text
      (nameMarkup (node.child? .name) ++ (node.child? .body).toList.map blockMarkup)).hasLastLabel
        element = (Label.lastSegment label == element.text) := by
    intro element
    rw [RawTree.hasLastLabel, RawTree.lastLabel, label_sealed]
    rfl
  rw [RawTree.declares?, labelled, labelled, child?_name_sealed, declares?]
  have listed := mem_declarationKinds h
  simp only [declarationKinds, List.mem_cons, List.not_mem_nil, or_false] at listed
  rcases listed with kind | kind | kind | kind | kind <;> rw [kind] at h ⊢ <;>
    obtain rfl := Option.some.inj h <;> rfl

/-! ## The functions of the markup in their surroundings -/

theorem findSome?_declares?_cons (node : SyntaxTree) (entered : List SyntaxTree) :
    (node :: entered).findSome? declares? =
      node.declares?.or (entered.findSome? declares?) := by
  rw [List.findSome?_cons]
  cases node.declares? <;> rfl

/-- A block passes on what stands around it. -/
theorem methodsWithin_blockMarkup (scope : Scope) (body : SyntaxTree) :
    (blockMarkup body).methodsWithin .srcml scope =
      body.namedChildren.flatMap fun child =>
        child.markup.flatMap (RawTree.methodsWithin .srcml scope) := by
  have plain : (blockMarkup body).lastLabel ∉ Dialect.srcml.unitLabels := by
    rw [blockMarkup_eq, RawTree.lastLabel, label_sealed]
    decide
  rw [RawTree.methodsWithin_of_plain plain, blockMarkup_eq, children_sealed, List.flatMap_assoc]

theorem methodsWithin_blocks (scope : Scope) (body : Option SyntaxTree) :
    (body.toList.map blockMarkup).flatMap (RawTree.methodsWithin .srcml scope) =
      (body.toList.flatMap namedChildren).flatMap fun child =>
        child.markup.flatMap (RawTree.methodsWithin .srcml scope) := by
  rw [List.flatMap_map, List.flatMap_assoc]
  exact List.flatMap_congr fun body _ => methodsWithin_blockMarkup scope body

/-- A method stands within what is around it, and so do the methods in its block. -/
theorem methodsWithin_methodMarkup (scope : Scope) (method : SyntaxTree) :
    method.methodMarkup.methodsWithin .srcml scope =
      (scope, method.methodMarkup) :: (method.block?.toList.flatMap namedChildren).flatMap
        fun child => child.markup.flatMap (RawTree.methodsWithin .srcml scope) := by
  have signature : method.signatureMarkup.flatMap RawTree.functions = [] := by
    rw [collect_signatureMarkup passes_functions, List.flatMap_eq_nil_iff]
    exact fun slot _ => functions_parameterMarkup slot
  have noDeclaration : method.methodMarkup.declares? .srcml = none := by
    rw [RawTree.declares?, methodMarkup, RawTree.inner,
      if_neg (RawTree.hasLastLabel_element.not.2 (by decide)),
      if_neg (RawTree.hasLastLabel_element.not.2 (by decide))]
  have isMethod : method.methodMarkup.isMethod .srcml = true := isFunction_methodMarkup method
  rw [RawTree.methodsWithin_eq, noDeclaration, Option.none_or, if_pos isMethod,
    ← methodsWithin_blocks]
  show _ :: List.flatMap _ (_ ++ _) = _
  rw [List.flatMap_append, RawTree.flatMap_methodsWithin_eq_nil scope signature, List.nil_append]

/-- A class body that stands for a class without a name is what its methods stand within. -/
theorem methodsWithin_anonymous (scope : Scope) (body : SyntaxTree) :
    (RawTree.inner SrcmlElement.classElement.text [blockMarkup body]).methodsWithin .srcml scope =
      body.namedChildren.flatMap fun child =>
        child.markup.flatMap (RawTree.methodsWithin .srcml (some (.classDeclaration, none))) := by
  have noMethod : ¬ (RawTree.inner SrcmlElement.classElement.text
      [blockMarkup body]).isMethod .srcml = true :=
    RawTree.hasLastLabel_element.not.2 (by decide)
  have nameless : (RawTree.inner SrcmlElement.classElement.text
      [blockMarkup body]).declares? .srcml = some (.classDeclaration, none) := by
    have block : ∀ tree ∈ [blockMarkup body], tree.firstLabel = SrcmlElement.block.text := by
      intro tree mem
      rw [List.mem_singleton.1 mem, firstLabel_blockMarkup]
    rw [RawTree.declares?, RawTree.inner, if_pos (RawTree.hasLastLabel_element.2 rfl),
      RawTree.child?, find?_of_firstLabel block, if_neg (by decide), Option.bind_none]
  rw [RawTree.methodsWithin_eq, if_neg noMethod, nameless, List.nil_append]
  show List.flatMap _ [blockMarkup body] = _
  rw [List.flatMap_singleton]
  exact methodsWithin_blockMarkup _ body

/-- From a node that is not a method the walk goes on inside, within the node if it is a class or an
enumeration. -/
theorem methodsWithin_markup_of_not_method {node : SyntaxTree} (other : ¬ node.isMethod = true)
    (scope : Scope) :
    node.markup.flatMap (RawTree.methodsWithin .srcml scope) =
      node.inside.flatMap fun child =>
        child.markup.flatMap (RawTree.methodsWithin .srcml (node.declares?.or scope)) := by
  rw [markup_eq, if_neg other, inside, interior?, if_neg other]
  cases labelled : declarationLabel? node.kind with
  | some label =>
    dsimp only
    have notFunction : Label.lastSegment label ≠ SrcmlElement.function.text := by
      have known : ∀ label ∈ plainLabels,
          Label.lastSegment label ≠ SrcmlElement.function.text := by
        decide
      exact known label (plain_of_declarationLabel? labelled)
    rw [if_pos (mem_declarationKinds labelled), List.flatMap_singleton,
      RawTree.methodsWithin_sealed scope notFunction, declares?_sealed labelled,
      List.flatMap_append, methodsWithin_blocks,
      RawTree.flatMap_methodsWithin_eq_nil _ (collect_nameMarkup passes_functions _),
      List.nil_append]
  | none =>
    have unlabelled := declarationLabel?_eq_none_iff.1 labelled
    dsimp only
    rw [if_neg unlabelled, Option.toList_some, List.flatMap_singleton]
    -- no declaration has accounted for a class body that is met here
    by_cases body : node.kind = "class_body"
    · have anonymous : node.declares? = some (.classDeclaration, none) := by
        rw [declares?, body]
        rfl
      rw [if_pos (beq_iff_eq.2 body), List.flatMap_singleton, methodsWithin_anonymous, anonymous]
      rfl
    · rw [if_neg (beq_iff_eq.not.2 body), declares?_eq_none unlabelled body, Option.none_or,
        List.flatMap_assoc]

/-- The functions in the markup of a node are the methods met from it, and around each of them
stands the nearest class or enumeration that was entered. -/
theorem methodsWithin_markup (node : SyntaxTree) :
    ∀ entered, node.markup.flatMap (RawTree.methodsWithin .srcml (entered.findSome? declares?)) =
      (node.placedMethods entered).map fun placed =>
        (placed.scope, placed.method.methodMarkup) := by
  induction node using insideInduction with
  | step node ih =>
    intro entered
    rw [placedMethods_eq, List.map_append, List.map_flatMap,
      ← List.flatMap_congr fun child mem => ih child mem (node :: entered),
      findSome?_declares?_cons]
    by_cases h : node.isMethod = true
    · rw [markup_of_method h, List.flatMap_singleton, methodsWithin_methodMarkup, if_pos h,
        declares?_of_method h, Option.none_or, inside_of_method h]
      rfl
    · rw [methodsWithin_markup_of_not_method h, if_neg h]
      rfl

/-- The functions in the markup of a source with what stands around them. -/
theorem methodsWithin_unitMarkup (root : SyntaxTree) :
    root.unitMarkup.methodsWithin .srcml none =
      root.allPlaced.map fun placed => (placed.scope, placed.method.methodMarkup) := by
  have plain : root.unitMarkup.lastLabel ∉ Dialect.srcml.unitLabels := by
    rw [unitMarkup, RawTree.lastLabel, label_sealed]
    decide
  rw [RawTree.methodsWithin_of_plain plain, unitMarkup, children_sealed, forestMarkup_eq,
    List.flatMap_assoc, allPlaced, List.map_flatMap]
  exact List.flatMap_congr fun node _ => methodsWithin_markup node []

/-! ## Sources -/

/-- The methods of a source that have a type, where they stand. -/
def typedPlaced (root : SyntaxTree) : List Placed :=
  root.allPlaced.filter (·.method.typeText?.isSome)

theorem map_method_typedPlaced (root : SyntaxTree) :
    root.typedPlaced.map Placed.method = root.allMethods.filter (·.typeText?.isSome) := by
  rw [← map_method_allPlaced, List.filter_map]
  rfl

/-- Whether a signature was read from the markup of a method and tells its parts and what stands
around it. -/
def Placed.ReadAs {tree : Tree} (filePath : String) (placed : Placed)
    (signature : Signature tree) : Prop :=
  signature.root.toRaw = placed.method.methodMarkup ∧
    ∃ type, placed.method.typeText? = some type ∧
      signature.summary = (placed.method.parts.summary filePath type).within placed.scope

/-- A source is split into signatures of its methods that have a type, in order. Whatever is
reported is reported of one of the methods. -/
theorem exists_split (parser : String → SyntaxTree) (text filePath : String) :
    ∃ tree, Source.srcmlTree parser text = .ok tree ∧ tree.root.toRaw = (parser text).unitMarkup ∧
      List.Forall₂ (Placed.ReadAs filePath) (parser text).typedPlaced
        (Split.ofNode .srcml filePath tree.root).signatures ∧
      (Split.ofNode .srcml filePath tree.root).diagnostics =
        (parser text).allMethods.flatMap (diagnostics filePath) := by
  obtain ⟨tree, made, copy⟩ := Tree.exists_of_sound (sound_unitMarkup (parser text))
  refine ⟨tree, made, copy, ?_, ?_⟩
  · have signatures := Split.signatures_eq .srcml filePath tree.root
    have summaryOf : ∀ placed : Placed, Split.summaryOf? .srcml filePath
        (placed.scope, placed.method.methodMarkup) = placed.method.typeText?.map fun type =>
          (placed.method.parts.summary filePath type).within placed.scope := by
      intro placed
      show Option.map _ (placed.method.methodMarkup.parts.reading filePath).result.toOption = _
      rw [parts_methodMarkup]
      cases typed : placed.method.typeText? with
      | some type => rw [reading_of_some typed]; rfl
      | none => rw [reading_of_none typed]; rfl
    simp only [copy, Node.scope_root, methodsWithin_unitMarkup, List.filterMap_map,
      Function.comp_def, summaryOf, Option.map_map] at signatures
    refine (forall₂_of_map_eq_filterMap signatures).imp fun placed signature same => ?_
    obtain ⟨type, typed, same⟩ := same
    exact ⟨congrArg Prod.fst same, type, typed, congrArg Prod.snd same⟩
  · rw [Split.diagnostics_srcml, copy, functions_unitMarkup, List.flatMap_map]
    refine List.flatMap_congr fun method _ => ?_
    rw [parts_methodMarkup, diagnostics_parts]

end SyntaxTree

end MethodCorpus
