import MethodCorpus.Proofs.Signature.Scope
import MethodCorpus.Proofs.Tree.Dump

/-!
# Methods split off their copies

What is stored of a method is the copy of its subtree. The copy is a tree of its own, with the
method at its root and nothing around it, and nothing that is read of the method lies outside. So
the method is split off its copy as it was split off the tree that it comes from, but for the
declaration that stood around it there.

* `Dialect.exists_reading_of_read`, `Dialect.exists_read_of_reading`: a method is read exactly if
  its copy is;
* `Split.signatures_of_read`: a method at the root is the first that is split off;
* `Split.resplit`: what is stored of a method is split again.
-/

namespace MethodCorpus

namespace Dialect

open MethodCorpus.Tree

variable {tree : Tree} {dialect : Dialect} {method : Node tree} {filePath : String}

theorem exists_reading_of_read (isMethod : method.lastLabel = dialect.methodLabel)
    {signature : Signature tree} (h : (dialect.read method filePath).result = .ok signature) :
    ∃ summary, (dialect.readingOf method.toRaw filePath).result = .ok summary ∧
      signature.summary = summary.within (method.scope dialect) := by
  have same := (dialect.read_eq isMethod filePath).1
  rw [h] at same
  obtain ⟨summary, reading, around⟩ := map_eq_ok_iff.1 same.symm
  exact ⟨summary, reading, around.symm⟩

theorem exists_read_of_reading (isMethod : method.lastLabel = dialect.methodLabel)
    {summary : Summary} (h : (dialect.readingOf method.toRaw filePath).result = .ok summary) :
    ∃ signature, (dialect.read method filePath).result = .ok signature ∧
      signature.summary = summary.within (method.scope dialect) := by
  have same := (dialect.read_eq isMethod filePath).1
  rw [h] at same
  exact map_eq_ok_iff.1 same

end Dialect

namespace Split

open MethodCorpus.Tree

variable {tree : Tree} {dialect : Dialect} {filePath : String} {node : Node tree}

/-- A signature was read from a method, which it keeps. -/
theorem read_of_mem {signature : Signature tree}
    (mem : signature ∈ (ofNode dialect filePath node).signatures) :
    signature.root.lastLabel = dialect.methodLabel ∧
      (dialect.read signature.root filePath).result = .ok signature := by
  obtain ⟨method, found, read⟩ := List.mem_filterMap.1 mem
  have read : (dialect.read method filePath).result = .ok signature := toOption_eq_some_iff.1 read
  rw [(Dialect.origin_of_read read).1]
  exact ⟨isMethod_of_mem dialect found, read⟩

/-- A method that can be read comes before all methods below it. -/
theorem signatures_of_read (isMethod : node.lastLabel = dialect.methodLabel)
    {signature : Signature tree} (h : (dialect.read node filePath).result = .ok signature) :
    ∃ others, (ofNode dialect filePath node).signatures = signature :: others := by
  have methods : dialect.methods node = node ::
      (node.children.flatMap Node.preOrder).filter (·.lastLabel == dialect.methodLabel) := by
    rw [Dialect.methods, Node.preOrder_eq, List.filter_cons, if_pos (beq_iff_eq.2 isMethod)]
  have first : (fun method : Node tree => (dialect.read method filePath).result.toOption) node =
      some signature := toOption_eq_some_iff.2 h
  exact ⟨_, (congrArg _ methods).trans (List.filterMap_cons_some first)⟩

/-- What is stored of a method is read back as a tree in which exactly the leaves carry a token. The
first method that is split off this tree is its root, and its summary is the one it had before, but
for the declaration around it: there is none any more. -/
theorem resplit (dialect : Dialect) (filePath : String) (tree : Tree) (node : Node tree)
    (signature : Signature tree)
    (split : signature ∈ (ofNode dialect filePath node).signatures) :
    RawTree.ofDump? signature.root.toRaw.dump = some signature.root.toRaw ∧
    ∃ part first others,
      ofRaw signature.root.toRaw = .ok part ∧
      (ofNode dialect filePath part.root).signatures = first :: others ∧
      first.root = part.root ∧
      first.summary = { signature.summary with enclosingKind := none, enclosingName := none } := by
  obtain ⟨isMethod, read⟩ := read_of_mem split
  obtain ⟨summary, reading, around⟩ := Dialect.exists_reading_of_read isMethod read
  obtain ⟨part, entered, copy⟩ := exists_of_sound signature.root.sound_toRaw
  -- the root of the new tree has the same copy, so it is a method that is read as well
  have isMethod' : part.root.lastLabel = dialect.methodLabel := by
    rw [← Node.toRaw_lastLabel, copy, Node.toRaw_lastLabel, isMethod]
  rw [← copy] at reading
  obtain ⟨first, read', alone⟩ := Dialect.exists_read_of_reading isMethod' reading
  obtain ⟨others, whole⟩ := signatures_of_read isMethod' read'
  refine ⟨RawTree.ofDump?_dump _, part, first, others, entered, whole,
    (Dialect.origin_of_read read').1, ?_⟩
  rw [alone, Node.scope_root, around]
  rfl

/-- A method of a class is split off its copy without the class. -/
theorem resplit_of_classMethod :
    ∃ (tree : Tree) (signature : Signature tree) (part : Tree) (first : Signature part)
      (others : _),
      tree.root.toRaw = .inner "unit" [.inner "class" [.leaf "name" "A", .inner "function" [
        .inner "type" [.leaf "specifier" "static", .leaf "name" "int"], .leaf "name" "f"]]] ∧
      signature ∈ (ofNode .srcml "A.java" tree.root).signatures ∧
      signature.summary.enclosingName = some "A" ∧
      ofRaw signature.root.toRaw = .ok part ∧
      (ofNode .srcml "A.java" part.root).signatures = first :: others ∧
      first.summary.name = some "f" ∧ first.summary.modifiers = some ["static"] ∧
      first.summary.enclosingName = none := by
  have sound : (RawTree.inner "unit" [.inner "class" [.leaf "name" "A", .inner "function" [
      .inner "type" [.leaf "specifier" "static", .leaf "name" "int"],
      .leaf "name" "f"]]]).Sound := by
    decide
  obtain ⟨tree, -, copy⟩ := exists_of_sound sound
  have found : (ofNode .srcml "A.java" tree.root).signatures.map
      (fun signature => (signature.summary.name, signature.summary.modifiers,
        signature.summary.enclosingName)) = [(some "f", some ["static"], some "A")] := by
    have summaries := congrArg (List.map fun summary => (summary.name, summary.modifiers,
      summary.enclosingName)) (summaries_eq .srcml "A.java" tree.root)
    rw [List.map_map, Node.scope_root, copy] at summaries
    exact summaries
  obtain ⟨signature, only, told⟩ := List.map_eq_singleton_iff.1 found
  have split : signature ∈ (ofNode .srcml "A.java" tree.root).signatures := by simp [only]
  obtain ⟨-, part, first, others, entered, whole, -, alone⟩ :=
    resplit .srcml "A.java" tree tree.root signature split
  simp only [Prod.mk.injEq] at told
  refine ⟨tree, signature, part, first, others, copy, split, told.2.2, entered, whole, ?_⟩
  rw [alone]
  exact ⟨told.1, told.2.1, rfl⟩

end Split

end MethodCorpus
