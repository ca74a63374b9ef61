import MethodCorpus.Proofs.Signature.AntlrReading
import MethodCorpus.Proofs.Signature.Split

/-!
# The declaration around a method

Nothing above a method is looked at but the nearest class or enumeration around it. So a walk down a
tree by value that carries this declaration along has at every method all that its reading needs,
and what a tree is split into can be told without the table of the tree. Under a root that is
neither a method nor a declaration every subtree is therefore split as if it stood alone.

* `Tree.Node.scope`, `RawTree.methodsWithin`: the declaration around a node, and the walk that
  carries it down;
* `Split.map_methods`: both find the same methods in the same surroundings;
* `Split.signatures_eq`, `Split.diagnostics_eq`: a tree is split as the walk over its copy tells;
* `Split.siblings_isolated`: siblings do not matter to each other.
-/

namespace MethodCorpus

/-! ## Scopes -/

/-- The nearest class or enumeration around a method, by its kind and its simple name. -/
abbrev Scope := Option (EnclosingKind × Option String)

/-- A summary with the declaration around the method filled in. -/
def Summary.within (summary : Summary) (scope : Scope) : Summary :=
  { summary with enclosingKind := scope.map Prod.fst, enclosingName := scope.bind Prod.snd }

/-- What a summary tells of the declaration around a method. -/
def Enclosing.scope {tree : Tree} (enclosing : Enclosing tree) : EnclosingKind × Option String :=
  (enclosing.kind, enclosing.name)

theorem Signature.summary_eq {tree : Tree} (signature : Signature tree) :
    signature.summary =
      signature.summary.alone.within (signature.enclosing.map Enclosing.scope) := by
  obtain ⟨root, filePath, nameNode, parameters, returnType, enclosing, -⟩ := signature
  cases enclosing <;> rfl

/-- The last segments that a dialect gives to methods and to the declarations around them. -/
def Dialect.unitLabels : Dialect → List String
  | antlr => [AntlrRule.methodDeclaration.text, AntlrRule.classDeclaration.text]
  | srcml => [SrcmlElement.function.text, SrcmlElement.classElement.text,
      SrcmlElement.enumElement.text]

namespace RawTree

/-- The class or enumeration that a tree is, with its simple name. -/
def declares? (dialect : Dialect) (tree : RawTree) : Scope :=
  match dialect with
  | .antlr =>
    if tree.hasLastLabel AntlrRule.classDeclaration then
      some (.classDeclaration, (tree.child? AntlrRule.identifier).bind token)
    else none
  | .srcml =>
    if tree.hasLastLabel SrcmlElement.classElement then
      some (.classDeclaration, (tree.child? SrcmlElement.name).bind token)
    else if tree.hasLastLabel SrcmlElement.enumElement then
      some (.enumDeclaration, (tree.child? SrcmlElement.name).bind token)
    else none

/-- Whether a tree is a method. -/
def isMethod (dialect : Dialect) (tree : RawTree) : Bool := tree.lastLabel == dialect.methodLabel

mutual

/-- The methods at and below a tree, in pre-order, each with the declaration around it. -/
def methodsWithin (dialect : Dialect) (scope : Scope) : RawTree → List (Scope × RawTree)
  | ⟨label, token, children⟩ =>
    (if isMethod dialect ⟨label, token, children⟩ then [(scope, ⟨label, token, children⟩)]
      else []) ++
      forestMethodsWithin dialect ((declares? dialect ⟨label, token, children⟩).or scope) children

/-- The methods of some trees that stand within the same declaration. -/
def forestMethodsWithin (dialect : Dialect) (scope : Scope) : List RawTree → List (Scope × RawTree)
  | [] => []
  | tree :: rest => tree.methodsWithin dialect scope ++ forestMethodsWithin dialect scope rest

end

theorem forestMethodsWithin_eq (dialect : Dialect) (scope : Scope) (trees : List RawTree) :
    forestMethodsWithin dialect scope trees = trees.flatMap (methodsWithin dialect scope) := by
  induction trees with
  | nil => rfl
  | cons tree rest ih => rw [forestMethodsWithin, ih, List.flatMap_cons]

theorem methodsWithin_eq (dialect : Dialect) (scope : Scope) (tree : RawTree) :
    tree.methodsWithin dialect scope =
      (if tree.isMethod dialect then [(scope, tree)] else []) ++
        tree.children.flatMap (methodsWithin dialect ((tree.declares? dialect).or scope)) := by
  obtain ⟨label, token, children⟩ := tree
  rw [methodsWithin, forestMethodsWithin_eq]

/-- A tree that is neither a method nor a declaration passes on what stands around it. -/
theorem methodsWithin_of_plain {dialect : Dialect} {tree : RawTree}
    (plain : tree.lastLabel ∉ dialect.unitLabels) (scope : Scope) :
    tree.methodsWithin dialect scope = tree.children.flatMap (methodsWithin dialect scope) := by
  have noMethod : tree.isMethod dialect = false := by
    rw [isMethod, beq_eq_false_iff_ne]
    rintro same
    rw [same] at plain
    cases dialect <;> exact plain (by decide)
  have noDeclaration : tree.declares? dialect = none := by
    cases dialect <;>
      simp_all [declares?, hasLastLabel, Dialect.unitLabels, Vocabulary.text]
  rw [methodsWithin_eq, noMethod, noDeclaration]
  rfl

theorem methodsWithin_inner {dialect : Dialect} {label : String}
    (plain : Label.lastSegment label ∉ dialect.unitLabels) (scope : Scope) (trees : List RawTree) :
    (inner label trees).methodsWithin dialect scope =
      trees.flatMap (methodsWithin dialect scope) := by
  rw [methodsWithin_of_plain (show (inner label trees).lastLabel ∉ dialect.unitLabels from plain)]
  rfl

end RawTree

namespace Tree.Node

variable {tree : Tree}

/-- The nearest class or enumeration above a node. -/
def scope (dialect : Dialect) (node : Node tree) : Scope :=
  node.ancestors.findSome? fun above => above.toRaw.declares? dialect

theorem scope_root (dialect : Dialect) (tree : Tree) : tree.root.scope dialect = none := by
  rw [scope, ancestors_of_parent?_eq_none (parent?_root tree), List.findSome?_nil]

/-- What stands around a child is its parent, or what stands around that. -/
theorem scope_child {node child : Node tree} (h : child ∈ node.children) (dialect : Dialect) :
    child.scope dialect = (node.toRaw.declares? dialect).or (node.scope dialect) := by
  rw [scope, ancestors_of_parent? (parent?_eq_some_iff.2 h), List.findSome?_cons]
  cases node.toRaw.declares? dialect <;> rfl

end Tree.Node

/-! ## Readings in their surroundings -/

namespace Signature

open MethodCorpus.Tree

variable {tree : Tree}

theorem Srcml.map_enclosing (function : Node tree) :
    (Srcml.enclosing function).map Enclosing.scope = function.scope .srcml := by
  rw [Srcml.enclosing, List.map_findSome?, Node.scope]
  refine congrArg (List.findSome? · _) (funext fun above => ?_)
  rw [Function.comp_apply, RawTree.declares?, Node.toRaw_hasLastLabel, Node.toRaw_hasLastLabel,
    ← Node.bind_token?_child?]
  by_cases isClass : above.hasLastLabel SrcmlElement.classElement = true
  · rw [if_pos isClass, Node.kind?_eq_some_iff.2 isClass]
    rfl
  by_cases isEnum : above.hasLastLabel SrcmlElement.enumElement = true
  · rw [if_neg isClass, if_pos isEnum, Node.kind?_eq_some_iff.2 isEnum]
    rfl
  · rw [if_neg isClass, if_neg isEnum]
    split
    · next kind => exact absurd (Node.kind?_eq_some_iff.1 kind) isClass
    · next kind => exact absurd (Node.kind?_eq_some_iff.1 kind) isEnum
    · rfl

/-- A signature keeps the declaration that was found around its function. -/
theorem Srcml.enclosing_of_ok {function : Node tree} {filePath : String}
    {signature : Signature tree} (h : (Srcml.read function filePath).result = .ok signature) :
    signature.enclosing = Srcml.enclosing function := by
  obtain ⟨returnType, typed⟩ := Srcml.exists_type_of_ok h
  rw [Srcml.read_of_ok typed] at h
  obtain rfl := Except.ok.inj h
  rfl

/-- A method is not a class, so a search from the method upwards finds what stands around it. -/
theorem Antlr.map_enclosing {method : Node tree}
    (isMethod : method.lastLabel = Dialect.antlr.methodLabel) :
    (Antlr.enclosing method).map Enclosing.scope = method.scope .antlr := by
  have noClass : method.hasLastLabel AntlrRule.classDeclaration = false := by
    rw [Node.hasLastLabel, isMethod]
    decide
  rw [Antlr.enclosing, Node.findUp?, List.find?_cons_of_neg (by simp [noClass]), Node.scope]
  generalize method.ancestors = above
  induction above with
  | nil => rfl
  | cons first rest ih =>
    rw [List.find?_cons, List.findSome?_cons, RawTree.declares?, Node.toRaw_hasLastLabel,
      ← Node.bind_token?_child?]
    cases first.hasLastLabel AntlrRule.classDeclaration with
    | true => rfl
    | false => exact ih

end Signature

namespace Dialect

open MethodCorpus.Tree

variable {tree : Tree} (dialect : Dialect)

/-- The reading of a method by value, without the declaration around it. -/
def readingOf (method : RawTree) (filePath : String) : Reading Summary :=
  match dialect with
  | antlr => RawTree.Antlr.reading method filePath
  | srcml => method.parts.reading filePath

/-- The name by which a method by value is reported if it could not be read. -/
def nameOf (method : RawTree) : Option String :=
  (method.children.find? (·.firstLabel == dialect.nameLabel)).bind RawTree.token

theorem methodName?_eq (node : Node tree) :
    dialect.methodName? node = dialect.nameOf node.toRaw := by
  rw [methodName?, nameOf, Node.toRaw_children, List.find?_map, Option.bind_map,
    Node.token_comp_toRaw]
  simp only [Function.comp_def, Node.toRaw_firstLabel]

/-- A method is read as its copy and the declaration around it tell. -/
theorem read_eq {method : Node tree} (isMethod : method.lastLabel = dialect.methodLabel)
    (filePath : String) :
    (dialect.read method filePath).result.map Signature.summary =
        (dialect.readingOf method.toRaw filePath).result.map (·.within (method.scope dialect)) ∧
      (dialect.read method filePath).notes = (dialect.readingOf method.toRaw filePath).notes := by
  have parts :
      ((dialect.read method filePath).result.map (fun signature => signature.summary.alone) =
          (dialect.readingOf method.toRaw filePath).result ∧
        (dialect.read method filePath).notes = (dialect.readingOf method.toRaw filePath).notes) ∧
      ∀ signature, (dialect.read method filePath).result = .ok signature →
        signature.enclosing.map Enclosing.scope = method.scope dialect := by
    cases dialect with
    | antlr =>
      refine ⟨Signature.Antlr.read_eq method filePath, fun signature found => ?_⟩
      rw [Signature.Antlr.enclosing_of_ok found, Signature.Antlr.map_enclosing isMethod]
    | srcml =>
      have isFunction : method.hasLastLabel SrcmlElement.function = true := beq_iff_eq.2 isMethod
      refine ⟨Signature.Srcml.read_eq isFunction filePath, fun signature found => ?_⟩
      rw [Signature.Srcml.enclosing_of_ok found, Signature.Srcml.map_enclosing]
  obtain ⟨⟨result, notes⟩, around⟩ := parts
  refine ⟨?_, notes⟩
  rw [← result]
  cases found : (dialect.read method filePath).result with
  | error error => rfl
  | ok signature =>
    show Except.ok signature.summary = Except.ok (signature.summary.alone.within _)
    rw [← around signature found, ← signature.summary_eq]

end Dialect

/-! ## Splitting by value -/

namespace Split

open MethodCorpus.Tree

variable {tree : Tree} (dialect : Dialect) (filePath : String)

/-- What a method by value is split off as, given the declaration around it. -/
def summaryOf? (found : Scope × RawTree) : Option Summary :=
  (dialect.readingOf found.2 filePath).result.toOption.map (·.within found.1)

/-- What is reported of a method by value. -/
def reportsOf (method : RawTree) : List Diagnostic :=
  (dialect.readingOf method filePath).notes ++
    match (dialect.readingOf method filePath).result with
    | .ok _ => []
    | .error error => [.ofError error filePath (dialect.nameOf method)]

/-- The walk that carries the declaration down finds the methods of a tree. -/
theorem map_methods (node : Node tree) :
    (dialect.methods node).map (fun method => (method.scope dialect, method.toRaw)) =
      node.toRaw.methodsWithin dialect (node.scope dialect) := by
  induction node using Node.childInduction with
  | step node ih =>
    have below : ((node.children.flatMap Node.preOrder).filter
          (·.lastLabel == dialect.methodLabel)).map
            (fun method => (method.scope dialect, method.toRaw)) =
        (node.children.map Node.toRaw).flatMap
          (RawTree.methodsWithin dialect
            ((node.toRaw.declares? dialect).or (node.scope dialect))) := by
      rw [List.filter_flatMap, List.map_flatMap, List.flatMap_map]
      refine List.flatMap_congr fun child mem => ?_
      rw [← Node.scope_child mem dialect]
      exact ih child mem
    rw [Dialect.methods, Node.preOrder_eq, List.filter_cons, RawTree.methodsWithin_eq,
      RawTree.isMethod, Node.toRaw_lastLabel, Node.toRaw_children, ← below]
    split <;> rfl

theorem isMethod_of_mem {node method : Node tree} (h : method ∈ dialect.methods node) :
    method.lastLabel = dialect.methodLabel :=
  beq_iff_eq.1 (List.mem_filter.1 h).2

/-- The signatures of a tree are those of the methods that the walk over its copy finds. -/
theorem signatures_eq (node : Node tree) :
    (ofNode dialect filePath node).signatures.map
        (fun signature => (signature.root.toRaw, signature.summary)) =
      (node.toRaw.methodsWithin dialect (node.scope dialect)).filterMap fun found =>
        (summaryOf? dialect filePath found).map (found.2, ·) := by
  rw [← map_methods, List.filterMap_map]
  show List.map _ (List.filterMap _ _) = _
  rw [List.map_filterMap]
  refine List.filterMap_congr fun method mem => ?_
  have same := (dialect.read_eq (isMethod_of_mem dialect mem) filePath).1
  rw [Function.comp_apply, summaryOf?]
  cases read : (dialect.read method filePath).result with
  | error error =>
    rw [read] at same
    cases other : (dialect.readingOf method.toRaw filePath).result with
    | error error => rfl
    | ok summary => rw [other] at same; cases same
  | ok signature =>
    rw [read] at same
    cases other : (dialect.readingOf method.toRaw filePath).result with
    | error error => rw [other] at same; cases same
    | ok summary =>
      rw [other] at same
      have around : signature.summary = summary.within (method.scope dialect) :=
        Except.ok.inj same
      simp only [Except.toOption, Option.map_some, around, (Dialect.origin_of_read read).1]

/-- The summaries of a tree are those of the methods that the walk over its copy finds. -/
theorem summaries_eq (node : Node tree) :
    (ofNode dialect filePath node).signatures.map Signature.summary =
      (node.toRaw.methodsWithin dialect (node.scope dialect)).filterMap
        (summaryOf? dialect filePath) := by
  have found := congrArg (List.map Prod.snd) (signatures_eq dialect filePath node)
  rw [List.map_map, List.map_filterMap] at found
  refine found.trans (List.filterMap_congr fun method _ => ?_)
  rw [Option.map_map]
  exact Option.map_id'

/-- The diagnostics of a tree are those of the methods that the walk over its copy finds. -/
theorem diagnostics_eq (node : Node tree) :
    (ofNode dialect filePath node).diagnostics =
      (node.toRaw.methodsWithin dialect (node.scope dialect)).flatMap fun found =>
        reportsOf dialect filePath found.2 := by
  rw [← map_methods, List.flatMap_map]
  refine List.flatMap_congr fun method mem => ?_
  obtain ⟨result, notes⟩ := dialect.read_eq (isMethod_of_mem dialect mem) filePath
  rw [diagnosticsOf, reportsOf, notes, dialect.methodName?_eq]
  revert result
  cases (dialect.read method filePath).result <;>
    cases (dialect.readingOf method.toRaw filePath).result <;>
    simp +contextual [Except.map]

/-! ## Siblings -/

/-- The trees that some tables were made from are the copies of their roots. -/
theorem eq_map_root_toRaw {trees : List RawTree} {parts : List Tree}
    (entered : List.Forall₂ (fun raw part => ofRaw raw = .ok part) trees parts) :
    trees = parts.map fun part => part.root.toRaw := by
  induction entered with
  | nil => rfl
  | cons made _ ih => rw [List.map_cons, toRaw_root_of_ofRaw made, ← ih]

theorem sound_of_mem {trees : List RawTree} {parts : List Tree}
    (entered : List.Forall₂ (fun raw part => ofRaw raw = .ok part) trees parts) :
    ∀ raw ∈ trees, raw.Sound := by
  induction entered with
  | nil => simp
  | cons made _ ih => exact List.forall_mem_cons.2 ⟨(ofRaw_eq_ok_iff_sound _).1 ⟨_, made⟩, ih⟩

/-- Some trees under a root that is neither a method nor a declaration are split as each of them is
split alone, one after the other: neither what is read of a method nor what is reported of it
depends on anything in another tree. -/
theorem siblings_isolated (label : String) (trees : List RawTree) (parts : List Tree)
    (nonempty : trees ≠ [])
    (entered : List.Forall₂ (fun raw part => ofRaw raw = .ok part) trees parts)
    (plain : Label.lastSegment label ∉ dialect.unitLabels) :
    ∃ tree, ofRaw (.inner label trees) = .ok tree ∧
      (ofNode dialect filePath tree.root).signatures.map Signature.summary =
        parts.flatMap (fun part =>
          (ofNode dialect filePath part.root).signatures.map Signature.summary) ∧
      (ofNode dialect filePath tree.root).diagnostics =
        parts.flatMap fun part => (ofNode dialect filePath part.root).diagnostics := by
  have sound : (RawTree.inner label trees).Sound :=
    RawTree.sound_inner nonempty (sound_of_mem entered)
  obtain ⟨tree, made, copy⟩ := exists_of_sound sound
  refine ⟨tree, made, ?_, ?_⟩
  · simp only [summaries_eq, Node.scope_root, copy, RawTree.methodsWithin_inner plain,
      eq_map_root_toRaw entered, List.flatMap_map, List.filterMap_flatMap]
  · simp only [diagnostics_eq, Node.scope_root, copy, RawTree.methodsWithin_inner plain,
      eq_map_root_toRaw entered, List.flatMap_map, List.flatMap_assoc]

/-- A method of a class next to one that cannot be read. -/
theorem siblings_isolated_next_to_unread :
    ∃ tree, ofRaw (.inner "unit" [
          .inner "class" [.leaf "name" "A",
            .inner "function" [.inner "type" [.leaf "name" "int"], .leaf "name" "f"]],
          .inner "function" [.leaf "name" "g"]]) = .ok tree ∧
      (ofNode .srcml "A.java" tree.root).signatures.map
          (fun signature => (signature.summary.name, signature.summary.enclosingName)) =
        [(some "f", some "A")] ∧
      (ofNode .srcml "A.java" tree.root).diagnostics.map (fun note => (note.kind, note.function)) =
        [(.missingTypeToken, some "g")] := by
  have sound : (RawTree.inner "class" [.leaf "name" "A",
      .inner "function" [.inner "type" [.leaf "name" "int"], .leaf "name" "f"]]).Sound := by
    decide
  have sound' : (RawTree.inner "function" [.leaf "name" "g"]).Sound := by decide
  obtain ⟨first, made, copy⟩ := exists_of_sound sound
  obtain ⟨second, made', copy'⟩ := exists_of_sound sound'
  obtain ⟨tree, entered, summaries, diagnostics⟩ := siblings_isolated .srcml "A.java" "unit"
    [_, _] [first, second] (List.cons_ne_nil _ _) (.cons made (.cons made' .nil)) (by decide)
  refine ⟨tree, entered, ?_, ?_⟩
  · have names := congrArg (List.map fun summary => (summary.name, summary.enclosingName)) summaries
    rw [List.map_map] at names
    refine names.trans ?_
    simp only [List.flatMap_cons, List.flatMap_nil, summaries_eq, Node.scope_root, copy, copy']
    rfl
  · rw [diagnostics]
    simp only [List.flatMap_cons, List.flatMap_nil, diagnostics_eq, Node.scope_root, copy, copy']
    rfl

end Split

end MethodCorpus
