import MethodCorpus.Proofs.Signature.Split
import MethodCorpus.Proofs.Tree.RoundTrip
import MethodCorpus.SyntaxTree.Markup

/-!
# The methods of a syntax tree

The methods of a source are met on a walk down its syntax tree. A declaration is entered through its
body, a method through its block, and any other node through all its named children. The markup of
the tree is built along the same walk, and what it puts around a method is never a method.

* `methods`: the methods met on the walk, in the order of the source;
* `markup_eq`: the markup of a node in terms of the markup of the nodes inside;
* `sound_unitMarkup`: exactly the leaves of the markup carry a token;
* `functions_unitMarkup`: the functions of the markup are the methods met, and no others;
* `looseParameters_markup`: parameters stand in functions only.
-/

namespace MethodCorpus

namespace RawTree

theorem sound_sealed {label token : String} {children : List RawTree}
    (below : ∀ child ∈ children, child.Sound) : (RawTree.sealed label token children).Sound := by
  rw [RawTree.sealed]
  split
  · exact sound_leaf label token
  · next some => exact sound_inner (by simpa using some) below

end RawTree

namespace SyntaxTree

/-! ## The walk -/

/-- The kinds of declarations that are entered through their body. -/
def declarationKinds : List String :=
  ["class_declaration", "record_declaration", "enum_declaration", "interface_declaration",
    "constructor_declaration"]

/-- Whether a node is a method. -/
def isMethod (node : SyntaxTree) : Bool := node.kind == "method_declaration"

/-- The block of a method, if its body is one. -/
def block? (method : SyntaxTree) : Option SyntaxTree :=
  (method.child? .body).filter (·.kind == "block")

/-- The node through whose named children a node is entered. -/
def interior? (node : SyntaxTree) : Option SyntaxTree :=
  if node.isMethod then node.block?
  else if node.kind ∈ declarationKinds then node.child? .body
  else some node

/-- The nodes that the walk steps to from a node. -/
def inside (node : SyntaxTree) : List SyntaxTree := node.interior?.toList.flatMap namedChildren

theorem sizeOf_lt_of_mem_children {node child : SyntaxTree} (h : child ∈ node.children) :
    sizeOf child < sizeOf node := by
  obtain ⟨kind, named, field, text, children⟩ := node
  have smaller : sizeOf child < sizeOf children := List.sizeOf_lt_of_mem h
  simp only [SyntaxTree.mk.sizeOf_spec]
  omega

theorem sizeOf_lt_of_mem_namedChildren {node child : SyntaxTree} (h : child ∈ node.namedChildren) :
    sizeOf child < sizeOf node :=
  sizeOf_lt_of_mem_children (List.mem_filter.1 h).1

theorem sizeOf_lt_of_child? {node child : SyntaxTree} {field : SyntaxField}
    (h : node.child? field = some child) : sizeOf child < sizeOf node :=
  sizeOf_lt_of_mem_children (List.mem_of_find?_eq_some h)

theorem sizeOf_le_of_interior? {node interior : SyntaxTree} (h : node.interior? = some interior) :
    sizeOf interior ≤ sizeOf node := by
  unfold interior? at h
  split at h
  · exact Nat.le_of_lt (sizeOf_lt_of_child? (Option.filter_eq_some_iff.1 h).1)
  · split at h
    · exact Nat.le_of_lt (sizeOf_lt_of_child? h)
    · obtain rfl := Option.some.inj h
      exact Nat.le_refl _

theorem sizeOf_lt_of_mem_inside {node child : SyntaxTree} (h : child ∈ node.inside) :
    sizeOf child < sizeOf node := by
  obtain ⟨interior, mem, listed⟩ := List.mem_flatMap.1 h
  exact Nat.lt_of_lt_of_le (sizeOf_lt_of_mem_namedChildren listed)
    (sizeOf_le_of_interior? (Option.mem_toList.1 mem))

/-- The methods met on the walk from a node, the node itself included, in source order. -/
def methods (node : SyntaxTree) : List SyntaxTree :=
  (if node.isMethod then [node] else []) ++ node.inside.attach.flatMap fun child => methods child.1
termination_by sizeOf node
decreasing_by exact sizeOf_lt_of_mem_inside child.2

/-- The methods of a source: those met from the named children of the root. -/
def allMethods (root : SyntaxTree) : List SyntaxTree := root.namedChildren.flatMap methods

theorem methods_eq (node : SyntaxTree) :
    node.methods = (if node.isMethod then [node] else []) ++ node.inside.flatMap methods := by
  rw [methods, List.flatMap_subtype fun _ _ => rfl, List.unattach_attach]

/-- A statement about nodes that holds of a node if it holds of the nodes inside. -/
@[elab_as_elim]
theorem insideInduction {motive : SyntaxTree → Prop}
    (step : ∀ node, (∀ child ∈ node.inside, motive child) → motive node) (node : SyntaxTree) :
    motive node :=
  step node fun child _inside => insideInduction step child
termination_by sizeOf node
decreasing_by exact sizeOf_lt_of_mem_inside _inside

/-! ## The markup along the walk -/

theorem forestMarkup_eq (nodes : List SyntaxTree) :
    forestMarkup nodes = (nodes.filter (·.named)).flatMap markup := by
  induction nodes with
  | nil => rw [forestMarkup, List.filter_nil, List.flatMap_nil]
  | cons node rest ih =>
    rw [forestMarkup, ih, List.filter_cons]
    split
    · rw [List.flatMap_cons]
    · rw [List.nil_append]

theorem blockMarkup_eq (node : SyntaxTree) :
    blockMarkup node =
      .sealed SrcmlElement.block.text node.text (node.namedChildren.flatMap markup) := by
  obtain ⟨kind, named, field, text, children⟩ := node
  rw [blockMarkup, forestMarkup_eq]
  rfl

theorem bodyMarkup_eq (accepted : String → Bool) (nodes : List SyntaxTree) :
    bodyMarkup accepted nodes =
      ((nodes.find? (·.field = some .body)).filter (accepted ·.kind)).toList.map blockMarkup := by
  induction nodes with
  | nil => rw [bodyMarkup]; rfl
  | cons node rest ih =>
    rw [bodyMarkup]
    by_cases body : node.field = some .body
    · rw [if_pos body, List.find?_cons_of_pos (by simpa using body), Option.filter_some]
      split <;> rfl
    · rw [if_neg body, ih, List.find?_cons_of_neg (by simpa using body)]

/-- The markup of a method: the parts of its signature, and its block. -/
def methodMarkup (method : SyntaxTree) : RawTree :=
  .inner SrcmlElement.function.text
    (method.signatureMarkup ++ method.block?.toList.map blockMarkup)

theorem markup_eq (node : SyntaxTree) :
    node.markup = if node.isMethod then [node.methodMarkup]
      else match declarationLabel? node.kind with
        | some label => [.sealed label node.text
            (nameMarkup (node.child? .name) ++ (node.child? .body).toList.map blockMarkup)]
        | none =>
          if node.kind == "class_body" then
            [.inner SrcmlElement.classElement.text [blockMarkup node]]
          else node.namedChildren.flatMap markup := by
  obtain ⟨kind, named, field, text, children⟩ := node
  rw [markup, blockMarkup]
  simp only [bodyMarkup_eq, forestMarkup_eq]
  have accepted : ((children.find? (·.field = some .body)).filter fun _ => true) =
      child? ⟨kind, named, field, text, children⟩ .body := by
    rw [child?]
    cases children.find? (·.field = some .body) <;> rfl
  rw [accepted]
  rfl

theorem markup_of_method {node : SyntaxTree} (h : node.isMethod = true) :
    node.markup = [node.methodMarkup] := by
  rw [markup_eq, if_pos h]

theorem declarationLabel?_eq_none_iff {kind : String} :
    declarationLabel? kind = none ↔ kind ∉ declarationKinds := by
  simp only [declarationLabel?, declarationKinds, List.mem_cons, List.not_mem_nil, or_false]
  by_cases h₁ : kind = "class_declaration"
  · simp [h₁]
  by_cases h₂ : kind = "record_declaration"
  · simp [h₂]
  by_cases h₃ : kind = "enum_declaration"
  · simp [h₃]
  by_cases h₄ : kind = "interface_declaration"
  · simp [h₄]
  by_cases h₅ : kind = "constructor_declaration"
  · simp [h₅]
  simp [h₁, h₂, h₃, h₄, h₅]

/-! ## What the markup puts around methods -/

/-- The labels of nodes of the markup that are neither functions nor parameters. -/
def plainLabels : List String :=
  ["annotation", "specifier", "type", "name", "index", "decl", "parameter_list", "block", "class",
    "enum", "interface", "constructor", "unit"]

/-- Whether nothing is collected from nodes with a plain label but what their children give. -/
def Passes {β : Type} (collect : RawTree → List β) : Prop :=
  ∀ label ∈ plainLabels, ∀ token trees, collect ⟨label, token, trees⟩ = trees.flatMap collect

theorem mem_declarationKinds {kind label : String} (h : declarationLabel? kind = some label) :
    kind ∈ declarationKinds := by
  by_contra absent
  rw [declarationLabel?_eq_none_iff.2 absent] at h
  cases h

theorem plain_of_declarationLabel? {kind label : String} (h : declarationLabel? kind = some label) :
    label ∈ plainLabels := by
  unfold declarationLabel? at h
  split_ifs at h <;> obtain rfl := Option.some.inj h <;> decide

/-- The parameters among the parts of a method's parameter list. -/
def formalParameters (method : SyntaxTree) : List SyntaxTree :=
  (method.child? .parameters).toList.flatMap fun list => list.namedChildren.filter isParameter

section Passes

variable {β : Type} {collect : RawTree → List β} (passes : Passes collect)

include passes

theorem collect_sealed {label token : String} {trees : List RawTree} (plain : label ∈ plainLabels) :
    collect (.sealed label token trees) = trees.flatMap collect := by
  rw [RawTree.sealed]
  split
  · next empty => rw [List.isEmpty_iff.1 empty]; exact passes label plain _ _
  · exact passes label plain _ _

theorem collect_leaf {element : SrcmlElement} {token : String}
    (plain : element.text ∈ plainLabels) : collect (elementLeaf element token) = [] :=
  passes element.text plain _ _

theorem collect_nameMarkup (node : Option SyntaxTree) : (nameMarkup node).flatMap collect = [] := by
  rw [nameMarkup, List.flatMap_map, List.flatMap_eq_nil_iff]
  intro name _
  exact collect_leaf passes (by decide)

theorem collect_specifierMarkup (modifiers : Option SyntaxTree) :
    (specifierMarkup modifiers).flatMap collect = [] := by
  rw [specifierMarkup, List.flatMap_assoc, List.flatMap_eq_nil_iff]
  intro modifiers _
  rw [List.flatMap_map, List.flatMap_eq_nil_iff]
  intro keyword _
  exact collect_leaf passes (by decide)

theorem collect_annotationMarkup (modifiers : Option SyntaxTree) :
    (annotationMarkup modifiers).flatMap collect = [] := by
  rw [annotationMarkup, List.flatMap_assoc, List.flatMap_eq_nil_iff]
  intro modifiers _
  rw [List.flatMap_map, List.flatMap_eq_nil_iff]
  intro mark _
  rw [collect_sealed passes (by decide), collect_nameMarkup passes]

theorem collect_typeName (elementText : String) (brackets : Nat) :
    collect (typeName elementText brackets) = [] := by
  rw [typeName]
  split
  · exact collect_leaf passes (by decide)
  · rw [RawTree.inner, passes _ (by decide), List.flatMap_cons, collect_leaf passes (by decide),
      List.nil_append, List.flatMap_eq_nil_iff]
    intro index mem
    rw [(List.mem_replicate.1 mem).2]
    exact collect_leaf passes (by decide)

theorem collect_typeMarkup (declaration : SyntaxTree) :
    declaration.typeMarkup.flatMap collect = [] := by
  rw [typeMarkup, List.flatMap_map, List.flatMap_eq_nil_iff]
  intro type _
  exact collect_typeName passes _ _

/-- From the parts of a signature nothing is collected but from its parameters. -/
theorem collect_signatureMarkup (method : SyntaxTree) :
    method.signatureMarkup.flatMap collect =
      method.formalParameters.flatMap fun slot => collect slot.parameterMarkup := by
  rw [signatureMarkup, List.flatMap_append, List.flatMap_cons, List.flatMap_append,
    collect_annotationMarkup passes, collect_sealed passes (by decide), List.flatMap_append,
    collect_specifierMarkup passes, collect_typeMarkup passes, collect_nameMarkup passes,
    parameterListMarkup, List.flatMap_map, formalParameters, List.flatMap_assoc]
  simp only [List.nil_append]
  refine List.flatMap_congr fun list _ => ?_
  rw [collect_sealed passes (by decide), List.flatMap_map]

theorem collect_blockMarkup (node : SyntaxTree) :
    collect (blockMarkup node) = node.namedChildren.flatMap fun child =>
      child.markup.flatMap collect := by
  rw [blockMarkup_eq, collect_sealed passes (by decide), List.flatMap_assoc]

/-- From a node that is not a method as much is collected as from the nodes inside. -/
theorem collect_markup {node : SyntaxTree} (other : ¬ node.isMethod = true) :
    node.markup.flatMap collect =
      node.inside.flatMap fun child => child.markup.flatMap collect := by
  rw [markup_eq, if_neg other, inside, interior?, if_neg other]
  cases labelled : declarationLabel? node.kind with
  | some label =>
    dsimp only
    rw [if_pos (mem_declarationKinds labelled), List.flatMap_singleton,
      collect_sealed passes (plain_of_declarationLabel? labelled), List.flatMap_append,
      collect_nameMarkup passes, List.nil_append, List.flatMap_map, List.flatMap_assoc]
    exact List.flatMap_congr fun body _ => collect_blockMarkup passes body
  | none =>
    dsimp only
    rw [if_neg (declarationLabel?_eq_none_iff.1 labelled), Option.toList_some,
      List.flatMap_singleton]
    split
    -- a class body gets a class and a block around it, any other node gets nothing
    · rw [List.flatMap_singleton, RawTree.inner, passes _ (by decide), List.flatMap_singleton,
        collect_blockMarkup passes]
    · rw [List.flatMap_assoc]

end Passes

/-! ## Functions and parameters -/

/-- A node with a plain label is neither a function nor a parameter. -/
theorem plain_hasLastLabel {label : String} (h : label ∈ plainLabels) {token : Option String}
    {trees : List RawTree} :
    ¬ RawTree.hasLastLabel ⟨label, token, trees⟩ SrcmlElement.function = true ∧
      ¬ RawTree.hasLastLabel ⟨label, token, trees⟩ SrcmlElement.parameter = true := by
  have known : ∀ label ∈ plainLabels, ¬ (Label.lastSegment label == "function") = true ∧
      ¬ (Label.lastSegment label == "parameter") = true := by
    decide
  exact known label h

theorem passes_functions : Passes RawTree.functions := by
  intro label plain token trees
  obtain ⟨other, -⟩ := @plain_hasLastLabel label plain token trees
  rw [RawTree.functions_eq, if_neg other, List.nil_append]

theorem passes_looseParameters : Passes RawTree.looseParameters := by
  intro label plain token trees
  obtain ⟨notFunction, notParameter⟩ := @plain_hasLastLabel label plain token trees
  rw [RawTree.looseParameters_eq, if_neg notFunction, if_neg notParameter]

/-- What is collected from a parameter besides the parameter itself. -/
theorem collect_decl {β : Type} {collect : RawTree → List β} (passes : Passes collect)
    (slot : SyntaxTree) : slot.parameterMarkup.children.flatMap collect = [] := by
  rw [parameterMarkup, RawTree.inner, List.flatMap_singleton, RawTree.inner, passes _ (by decide),
    List.flatMap_cons, collect_sealed passes (by decide), List.flatMap_append,
    collect_specifierMarkup passes, collect_nameMarkup passes]
  split
  · rw [List.flatMap_map, List.append_nil, List.nil_append, List.flatMap_eq_nil_iff]
    intro type _
    exact collect_leaf passes (by decide)
  · rw [collect_typeMarkup passes, List.append_nil, List.nil_append]

theorem functions_parameterMarkup (slot : SyntaxTree) : slot.parameterMarkup.functions = [] := by
  have other : ¬ slot.parameterMarkup.hasLastLabel SrcmlElement.function = true :=
    RawTree.hasLastLabel_element.not.2 (by decide)
  rw [RawTree.functions_eq, if_neg other, collect_decl passes_functions, List.nil_append]

theorem looseParameters_parameterMarkup (slot : SyntaxTree) :
    slot.parameterMarkup.looseParameters = [slot.parameterMarkup] := by
  have notFunction : ¬ slot.parameterMarkup.hasLastLabel SrcmlElement.function = true :=
    RawTree.hasLastLabel_element.not.2 (by decide)
  have isParameter : slot.parameterMarkup.hasLastLabel SrcmlElement.parameter = true :=
    RawTree.hasLastLabel_element.2 rfl
  rw [RawTree.looseParameters_eq, if_neg notFunction, if_pos isParameter,
    collect_decl passes_looseParameters]

theorem isFunction_methodMarkup (method : SyntaxTree) :
    method.methodMarkup.hasLastLabel SrcmlElement.function = true :=
  RawTree.hasLastLabel_element.2 rfl

/-- The nodes inside a method are those below its block. -/
theorem inside_of_method {method : SyntaxTree} (h : method.isMethod = true) :
    method.inside = method.block?.toList.flatMap namedChildren := by
  rw [inside, interior?, if_pos h]

/-- The functions in the markup of a node are the methods met on the walk from it. -/
theorem functions_markup (node : SyntaxTree) :
    node.markup.flatMap RawTree.functions = node.methods.map methodMarkup := by
  induction node using insideInduction with
  | step node ih =>
    rw [methods_eq, List.map_append, List.map_flatMap, ← List.flatMap_congr ih]
    by_cases h : node.isMethod = true
    · rw [markup_of_method h, List.flatMap_singleton, RawTree.functions_eq,
        if_pos (isFunction_methodMarkup node), if_pos h, inside_of_method h, methodMarkup,
        RawTree.inner, List.flatMap_append, collect_signatureMarkup passes_functions,
        List.flatMap_map, List.flatMap_assoc]
      have none : (node.formalParameters.flatMap fun slot => slot.parameterMarkup.functions) = [] :=
        List.flatMap_eq_nil_iff.2 fun slot _ => functions_parameterMarkup slot
      rw [none, List.nil_append]
      refine congrArg _ (List.flatMap_congr fun block _ => ?_)
      exact collect_blockMarkup passes_functions block
    · rw [collect_markup passes_functions h, if_neg h, List.map_nil, List.nil_append]

/-- Every parameter in the markup of a node stands in a function. -/
theorem looseParameters_markup (node : SyntaxTree) :
    node.markup.flatMap RawTree.looseParameters = [] := by
  induction node using insideInduction with
  | step node ih =>
    by_cases h : node.isMethod = true
    · rw [markup_of_method h, List.flatMap_singleton, RawTree.looseParameters_eq,
        if_pos (isFunction_methodMarkup node)]
    · rw [collect_markup passes_looseParameters h, List.flatMap_eq_nil_iff]
      exact ih

/-- The functions of the markup of a source are its methods, in order. -/
theorem functions_unitMarkup (root : SyntaxTree) :
    root.unitMarkup.functions = root.allMethods.map methodMarkup := by
  rw [unitMarkup, collect_sealed passes_functions (by decide), forestMarkup_eq, List.flatMap_assoc,
    allMethods, List.map_flatMap]
  exact List.flatMap_congr fun node _ => functions_markup node

/-- The slots of a method in the markup are its parameters. -/
theorem slots_methodMarkup (method : SyntaxTree) :
    method.methodMarkup.slots = method.formalParameters.map parameterMarkup := by
  rw [RawTree.slots, methodMarkup, RawTree.inner, List.flatMap_append,
    collect_signatureMarkup passes_looseParameters, List.flatMap_map]
  have body : (method.block?.toList.flatMap fun block => (blockMarkup block).looseParameters) =
      [] := by
    rw [List.flatMap_eq_nil_iff]
    intro block _
    rw [collect_blockMarkup passes_looseParameters, List.flatMap_eq_nil_iff]
    exact fun child _ => looseParameters_markup child
  rw [body, List.append_nil, List.map_eq_flatMap]
  exact List.flatMap_congr fun slot _ => looseParameters_parameterMarkup slot

/-! ## Tokens -/

section Sound

open RawTree (Sound)

theorem sound_elementLeaf (element : SrcmlElement) (token : String) :
    Sound (elementLeaf element token) :=
  RawTree.sound_leaf _ _

theorem sound_of_mem_nameMarkup {node : Option SyntaxTree} {tree : RawTree}
    (h : tree ∈ nameMarkup node) : Sound tree := by
  obtain ⟨name, -, rfl⟩ := List.mem_map.1 h
  exact sound_elementLeaf _ _

theorem sound_of_mem_specifierMarkup {modifiers : Option SyntaxTree} {tree : RawTree}
    (h : tree ∈ specifierMarkup modifiers) : Sound tree := by
  obtain ⟨modifiers, -, mem⟩ := List.mem_flatMap.1 h
  obtain ⟨keyword, -, rfl⟩ := List.mem_map.1 mem
  exact sound_elementLeaf _ _

theorem sound_of_mem_annotationMarkup {modifiers : Option SyntaxTree} {tree : RawTree}
    (h : tree ∈ annotationMarkup modifiers) : Sound tree := by
  obtain ⟨modifiers, -, mem⟩ := List.mem_flatMap.1 h
  obtain ⟨mark, -, rfl⟩ := List.mem_map.1 mem
  exact RawTree.sound_sealed fun name => sound_of_mem_nameMarkup

theorem sound_typeName (elementText : String) (brackets : Nat) :
    Sound (typeName elementText brackets) := by
  rw [typeName]
  split
  · exact sound_elementLeaf _ _
  · refine RawTree.sound_inner (by simp) fun tree mem => ?_
    rcases List.mem_cons.1 mem with rfl | mem
    · exact sound_elementLeaf _ _
    · rw [(List.mem_replicate.1 mem).2]
      exact sound_elementLeaf _ _

theorem sound_of_mem_typeMarkup {declaration : SyntaxTree} {tree : RawTree}
    (h : tree ∈ declaration.typeMarkup) : Sound tree := by
  obtain ⟨type, -, rfl⟩ := List.mem_map.1 h
  exact sound_typeName _ _

theorem sound_parameterMarkup (slot : SyntaxTree) : Sound slot.parameterMarkup := by
  rw [parameterMarkup]
  refine RawTree.sound_inner (by simp) fun decl mem => ?_
  obtain rfl := List.mem_singleton.1 mem
  refine RawTree.sound_inner (by simp) fun tree mem => ?_
  rcases List.mem_cons.1 mem with rfl | mem
  · refine RawTree.sound_sealed fun part mem => ?_
    rcases List.mem_append.1 mem with mem | mem
    · exact sound_of_mem_specifierMarkup mem
    · split at mem
      · obtain ⟨type, -, rfl⟩ := List.mem_map.1 mem
        exact sound_elementLeaf _ _
      · exact sound_of_mem_typeMarkup mem
  · exact sound_of_mem_nameMarkup mem

theorem sound_of_mem_signatureMarkup {method : SyntaxTree} {tree : RawTree}
    (h : tree ∈ method.signatureMarkup) : Sound tree := by
  rw [signatureMarkup] at h
  rcases List.mem_append.1 h with mem | h
  · exact sound_of_mem_annotationMarkup mem
  rcases List.mem_cons.1 h with rfl | h
  · refine RawTree.sound_sealed fun part mem => ?_
    rcases List.mem_append.1 mem with mem | mem
    · exact sound_of_mem_specifierMarkup mem
    · exact sound_of_mem_typeMarkup mem
  rcases List.mem_append.1 h with mem | mem
  · exact sound_of_mem_nameMarkup mem
  · obtain ⟨list, -, rfl⟩ := List.mem_map.1 mem
    refine RawTree.sound_sealed fun part mem => ?_
    obtain ⟨slot, -, rfl⟩ := List.mem_map.1 mem
    exact sound_parameterMarkup slot

theorem sound_blockMarkup {node : SyntaxTree}
    (inner : ∀ child ∈ node.namedChildren, ∀ tree ∈ child.markup, Sound tree) :
    Sound (blockMarkup node) := by
  rw [blockMarkup_eq]
  refine RawTree.sound_sealed fun tree mem => ?_
  obtain ⟨child, listed, mem⟩ := List.mem_flatMap.1 mem
  exact inner child listed tree mem

/-- In the markup of a node exactly the leaves carry a token. -/
theorem sound_of_mem_markup (node : SyntaxTree) : ∀ tree ∈ node.markup, Sound tree := by
  induction node using insideInduction with
  | step node ih =>
    intro tree mem
    rw [inside, interior?] at ih
    rw [markup_eq] at mem
    by_cases h : node.isMethod = true
    · rw [if_pos h] at ih mem
      obtain rfl := List.mem_singleton.1 mem
      refine RawTree.sound_inner (by simp [signatureMarkup]) fun part mem => ?_
      rcases List.mem_append.1 mem with mem | mem
      · exact sound_of_mem_signatureMarkup mem
      · obtain ⟨block, is, rfl⟩ := List.mem_map.1 mem
        exact sound_blockMarkup fun child listed =>
          ih child (List.mem_flatMap.2 ⟨block, is, listed⟩)
    rw [if_neg h] at ih mem
    cases labelled : declarationLabel? node.kind with
    | some label =>
      rw [if_pos (mem_declarationKinds labelled)] at ih
      rw [labelled] at mem
      obtain rfl := List.mem_singleton.1 mem
      refine RawTree.sound_sealed fun part mem => ?_
      rcases List.mem_append.1 mem with mem | mem
      · exact sound_of_mem_nameMarkup mem
      · obtain ⟨body, is, rfl⟩ := List.mem_map.1 mem
        exact sound_blockMarkup fun child listed =>
          ih child (List.mem_flatMap.2 ⟨body, is, listed⟩)
    | none =>
      rw [if_neg (declarationLabel?_eq_none_iff.1 labelled), Option.toList_some,
        List.flatMap_singleton] at ih
      rw [labelled] at mem
      dsimp only at mem
      split at mem
      · obtain rfl := List.mem_singleton.1 mem
        refine RawTree.sound_inner (by simp) fun part mem => ?_
        obtain rfl := List.mem_singleton.1 mem
        exact sound_blockMarkup ih
      · obtain ⟨child, listed, mem⟩ := List.mem_flatMap.1 mem
        exact ih child listed tree mem

/-- In the markup of a source exactly the leaves carry a token, however broken the source is. -/
theorem sound_unitMarkup (root : SyntaxTree) : Sound root.unitMarkup := by
  rw [unitMarkup, forestMarkup_eq]
  refine RawTree.sound_sealed fun tree mem => ?_
  obtain ⟨node, -, mem⟩ := List.mem_flatMap.1 mem
  exact sound_of_mem_markup node tree mem

end Sound

end SyntaxTree

end MethodCorpus
