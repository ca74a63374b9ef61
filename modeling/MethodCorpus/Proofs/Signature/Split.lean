import MethodCorpus.Proofs.Signature.Reading
import MethodCorpus.Signature.Split

/-!
# Splitting a tree

A tree is split method by method, so what is said of one reading carries over to the whole: what a
srcML tree is split into depends on the copies of its functions only, and the diagnostics that stand
for a lost unit can be counted.

* `signatures_srcml`, `diagnostics_srcml`: a tree is split as its copy tells;
* `lost_of_method`: what one method adds to the count of lost units;
* `lost_eq_add`: a unit counts as lost if its method was not read, and also if only its parameter
  list was left out.
-/

namespace MethodCorpus

/-- A signature keeps the method it was read from and the path of the file. -/
theorem Dialect.origin_of_read {tree : Tree} {dialect : Dialect} {method : Tree.Node tree}
    {path : String} {signature : Signature tree}
    (h : (dialect.read method path).result = .ok signature) :
    signature.root = method ∧ signature.filePath = path := by
  cases dialect with
  | antlr =>
    simp only [read, Signature.Antlr.read] at h
    split at h
    · cases h
    · obtain rfl := Except.ok.inj h
      exact ⟨rfl, rfl⟩
  | srcml =>
    obtain ⟨returnType, typed⟩ := Signature.Srcml.exists_type_of_ok h
    simp only [read, Signature.Srcml.read_of_ok typed] at h
    obtain rfl := Except.ok.inj h
    exact ⟨rfl, rfl⟩

/-! ## Splitting by value -/

namespace Signature.Srcml.Parts

/-- All that is reported of a method: its notes, or the failure if it was not read. -/
def diagnostics (parts : Parts) (filePath : String) : List Diagnostic :=
  (parts.reading filePath).notes ++ match (parts.reading filePath).result with
    | .ok _ => []
    | .error error => [.ofError error filePath parts.name]

end Signature.Srcml.Parts

/-- The functions at and below a tree, in pre-order. -/
def RawTree.functions (tree : RawTree) : List RawTree :=
  tree.subtrees.filter (·.hasLastLabel SrcmlElement.function)

theorem RawTree.functions_eq (tree : RawTree) :
    tree.functions = (if tree.hasLastLabel SrcmlElement.function then [tree] else []) ++
      tree.children.flatMap functions := by
  rw [functions, subtrees_eq, List.filter_cons, List.filter_flatMap]
  split <;> rfl

namespace Split

open MethodCorpus.Tree

variable {tree : Tree}

theorem isFunction_of_mem_methods {node method : Node tree}
    (h : method ∈ Dialect.srcml.methods node) :
    method.hasLastLabel SrcmlElement.function = true :=
  (List.mem_filter.1 h).2

theorem map_toRaw_methods (node : Node tree) :
    (Dialect.srcml.methods node).map Node.toRaw = node.toRaw.functions := by
  rw [Dialect.methods, RawTree.functions, ← Node.map_toRaw_preOrder, List.filter_map]
  refine congrArg (List.map Node.toRaw) (List.filter_congr fun method _ => ?_)
  exact (Node.toRaw_hasLastLabel method SrcmlElement.function).symm

/-- The signatures of a tree are those of the functions of its copy, each read from its own. -/
theorem signatures_srcml (filePath : String) (node : Node tree) :
    (ofNode .srcml filePath node).signatures.map
        (fun signature => (signature.root.toRaw, signature.summary.alone)) =
      node.toRaw.functions.filterMap fun function =>
        (function.parts.reading filePath).result.toOption.map (function, ·) := by
  rw [← map_toRaw_methods, List.filterMap_map]
  show List.map _ (List.filterMap _ _) = _
  rw [List.map_filterMap]
  refine List.filterMap_congr fun method mem => ?_
  have same := (Signature.Srcml.read_eq (isFunction_of_mem_methods mem) filePath).1
  rw [Function.comp_apply, ← same]
  show Option.map _ (Signature.Srcml.read method filePath).result.toOption = _
  cases found : (Signature.Srcml.read method filePath).result with
  | error error => rfl
  | ok signature =>
    have root := Signature.Srcml.root_of_ok found
    simp only [Except.toOption, Except.map, Option.map_some, root]

/-- The diagnostics of a tree are those of the functions of its copy. -/
theorem diagnostics_srcml (filePath : String) (node : Node tree) :
    (ofNode .srcml filePath node).diagnostics =
      node.toRaw.functions.flatMap fun function => function.parts.diagnostics filePath := by
  rw [← map_toRaw_methods, List.flatMap_map]
  refine List.flatMap_congr fun method mem => ?_
  obtain ⟨result, notes⟩ := Signature.Srcml.read_eq (isFunction_of_mem_methods mem) filePath
  have name : method.toRaw.parts.name = Dialect.srcml.methodName? method :=
    Signature.Srcml.parts_name_eq method
  rw [Signature.Srcml.Parts.diagnostics, ← notes, ← result, name]
  show (Signature.Srcml.read method filePath).notes ++ _ = _
  cases found : (Signature.Srcml.read method filePath).result <;>
    simp only [Except.map, Dialect.read, found]

/-! ## Lost units -/

/-- The number of diagnostics that stand for a lost unit. -/
def lost (diagnostics : List Diagnostic) : Nat := diagnostics.countP (·.kind.dropsUnit)

theorem dropsUnit_kindOf (error : Error) : (Diagnostic.kindOf error).dropsUnit = true := by
  cases error <;> rfl

theorem lost_append (front back : List Diagnostic) :
    lost (front ++ back) = lost front + lost back :=
  List.countP_append

/-- Notes on single entries do not count. -/
theorem lost_notesOn {note : Diagnostic} (entry : note.kind.dropsUnit = false)
    (entries : List (Option String)) : lost (Signature.Srcml.notesOn note entries) = 0 := by
  rw [lost, List.countP_eq_zero]
  intro other mem
  rw [(List.mem_replicate.1 mem).2, entry]
  simp

/-- A parameter list that was left out counts like a lost unit. -/
theorem lost_of_read_srcml {method : Node tree} {filePath : String} {signature : Signature tree}
    (h : (Signature.Srcml.read method filePath).result = .ok signature) :
    lost (Signature.Srcml.read method filePath).notes =
      if signature.parameters.isNone then 1 else 0 := by
  obtain ⟨returnType, typed⟩ := Signature.Srcml.exists_type_of_ok h
  rw [Signature.Srcml.read_of_ok typed] at h ⊢
  obtain rfl := Except.ok.inj h
  rw [lost_append, lost_append, lost_notesOn rfl, lost_notesOn rfl, Nat.zero_add, Nat.add_zero,
    Signature.Srcml.listNotes]
  dsimp only
  cases Signature.Srcml.parameters method with
  | ok list => rfl
  | error error =>
    show lost [_] = 1
    rw [lost, List.countP_singleton]
    exact if_pos (dropsUnit_kindOf error)

/-- A signature of an ANTLR tree always has its parameters. -/
theorem parameters_isNone_antlr {method : Node tree} {filePath : String}
    {signature : Signature tree}
    (h : (Signature.Antlr.read method filePath).result = .ok signature) :
    signature.parameters.isNone = false := by
  unfold Signature.Antlr.read at h
  dsimp only at h
  split at h
  · cases h
  · obtain rfl := Except.ok.inj h
    rfl

/-- What one method adds to the count of lost units: one if it was not read, and one if it was read
without its parameter list. -/
theorem lost_of_method (dialect : Dialect) (filePath : String) (method : Node tree) :
    lost (diagnosticsOf dialect filePath method) =
      match (dialect.read method filePath).result with
      | .error _ => 1
      | .ok signature => if signature.parameters.isNone then 1 else 0 := by
  rw [diagnosticsOf]
  cases found : (dialect.read method filePath).result with
  | error error =>
    have silent : (dialect.read method filePath).notes = [] := by
      cases dialect with
      | antlr => rfl
      | srcml => exact Signature.Srcml.notes_of_error found
    rw [silent, List.nil_append, lost, List.countP_singleton]
    exact if_pos (dropsUnit_kindOf error)
  | ok signature =>
    rw [List.append_nil]
    cases dialect with
    | antlr =>
      dsimp only
      rw [parameters_isNone_antlr found]
      rfl
    | srcml => exact lost_of_read_srcml found

/-- The count of lost units over some methods, read one after the other. -/
theorem lost_of_methods (dialect : Dialect) (filePath : String) (methods : List (Node tree)) :
    (methods.filterMap fun method => (dialect.read method filePath).result.toOption).length +
        lost (methods.flatMap (diagnosticsOf dialect filePath)) =
      methods.length + (methods.filterMap fun method =>
        (dialect.read method filePath).result.toOption).countP (·.parameters.isNone) := by
  induction methods with
  | nil => rfl
  | cons method rest ih =>
    have step := lost_of_method dialect filePath method
    rw [List.flatMap_cons, lost_append, List.length_cons]
    cases found : (dialect.read method filePath).result with
    | error error =>
      rw [found] at step
      dsimp only at step
      rw [List.filterMap_cons_none (by rw [found]; rfl), step]
      omega
    | ok signature =>
      rw [found] at step
      dsimp only at step
      rw [List.filterMap_cons_some (by rw [found]; rfl), List.length_cons, List.countP_cons, step]
      omega

theorem length_signatures_le (dialect : Dialect) (filePath : String) (node : Node tree) :
    (ofNode dialect filePath node).signatures.length ≤
      node.preOrder.countP (·.lastLabel == dialect.methodLabel) := by
  rw [List.countP_eq_length_filter]
  exact List.length_filterMap_le _ _

theorem lost_eq_add (dialect : Dialect) (filePath : String) (node : Node tree) :
    lost (ofNode dialect filePath node).diagnostics =
      node.preOrder.countP (·.lastLabel == dialect.methodLabel) -
          (ofNode dialect filePath node).signatures.length +
        (ofNode dialect filePath node).signatures.countP (·.parameters.isNone) := by
  have total := lost_of_methods dialect filePath (dialect.methods node)
  have fewer := length_signatures_le dialect filePath node
  rw [Dialect.methods, ← List.countP_eq_length_filter] at total
  simp only [ofNode, Dialect.methods] at fewer ⊢
  omega

theorem lost_eq_iff (dialect : Dialect) (filePath : String) (node : Node tree) :
    lost (ofNode dialect filePath node).diagnostics =
        node.preOrder.countP (·.lastLabel == dialect.methodLabel) -
          (ofNode dialect filePath node).signatures.length ↔
      ∀ signature ∈ (ofNode dialect filePath node).signatures,
        signature.parameters.isSome = true := by
  rw [lost_eq_add, Nat.add_eq_left, List.countP_eq_zero]
  refine forall₂_congr fun signature _ => ?_
  cases signature.parameters <;> simp

/-- The diagnostics that stand for a lost unit are as many as the methods that were not read and the
signatures without parameters taken together. So they are as many as the methods that were not read
exactly if every signature has its parameters, which it always has in an ANTLR tree. -/
theorem lost_units_accounting (filePath : String) (node : Node tree) :
    (∀ dialect : Dialect,
      lost (ofNode dialect filePath node).diagnostics =
        node.preOrder.countP (·.lastLabel == dialect.methodLabel) -
            (ofNode dialect filePath node).signatures.length +
          (ofNode dialect filePath node).signatures.countP (·.parameters.isNone) ∧
      (lost (ofNode dialect filePath node).diagnostics =
          node.preOrder.countP (·.lastLabel == dialect.methodLabel) -
            (ofNode dialect filePath node).signatures.length ↔
        ∀ signature ∈ (ofNode dialect filePath node).signatures,
          signature.parameters.isSome = true)) ∧
    lost (ofNode .antlr filePath node).diagnostics =
      node.preOrder.countP (·.lastLabel == Dialect.antlr.methodLabel) -
        (ofNode .antlr filePath node).signatures.length := by
  refine ⟨fun dialect => ⟨lost_eq_add dialect filePath node, lost_eq_iff dialect filePath node⟩,
    (lost_eq_iff .antlr filePath node).2 fun signature mem => ?_⟩
  obtain ⟨method, -, found⟩ := List.mem_filterMap.1 mem
  have read : (Signature.Antlr.read method filePath).result = .ok signature :=
    toOption_eq_some_iff.1 found
  rw [← Bool.not_eq_false, Option.isSome_eq_false_iff, parameters_isNone_antlr read]
  simp

/-- A source with one method, whose only parameter has no declaration. -/
def undeclaredParameter : RawTree :=
  .inner "unit" [.inner "function"
    [.inner "type" [.leaf "name" "void"], .leaf "name" "run",
      .inner "parameter_list" [.leaf "parameter" "int a"]]]

/-- A method that is read without its parameter list is reported as a lost unit. -/
theorem lost_of_undeclaredParameter :
    ∃ tree : Tree, ofRaw undeclaredParameter = .ok tree ∧
      lost (ofNode .srcml "Foo.java" tree.root).diagnostics ≠
        tree.root.preOrder.countP (·.lastLabel == Dialect.srcml.methodLabel) -
          (ofNode .srcml "Foo.java" tree.root).signatures.length := by
  obtain ⟨tree, made, copy⟩ := @exists_of_sound undeclaredParameter (by decide)
  refine ⟨tree, made, fun equal => ?_⟩
  have complete := (lost_eq_iff .srcml "Foo.java" tree.root).1 equal
  have known := signatures_srcml "Foo.java" tree.root
  rw [copy] at known
  obtain ⟨signature, rest, whole, read, -⟩ := List.map_eq_cons_iff.1 known
  have present := complete signature (by rw [whole]; simp)
  have absent : signature.parameters = none := congrArg (·.2.parameters) read
  rw [absent] at present
  cases present

end Split

end MethodCorpus
