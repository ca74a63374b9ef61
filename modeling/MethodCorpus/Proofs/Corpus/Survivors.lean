import MethodCorpus.Corpus.Run
import MethodCorpus.Proofs.Signature.Split

/-!
# What is stored of a source

A whole file is stored if all filters accept it and it has a label; so is every method that is read
from it. The records of a source are told here from its tree alone, without the units that are made
of it on the way, and they are what comes of the source in a run.

* `Split.roots_sublist`: methods that are read stand in the order of the tree;
* `survivors`, `recordsOf`: the records of a tree, and of the sources at some paths;
* `records_yieldOfTree`, `flatMap_records_yieldOf`: they are what a run stores;
* `countP_isSkipped_yieldOf`: the sources that are counted as skipped.
-/

namespace MethodCorpus

/-! ## Methods of a tree -/

namespace Split

variable {tree : Tree} {dialect : Dialect} {path : String} {node : Tree.Node tree}

theorem filePath_of_mem {signature : Signature tree}
    (mem : signature ∈ (ofNode dialect path node).signatures) : signature.filePath = path := by
  obtain ⟨method, -, read⟩ := List.mem_filterMap.1 mem
  cases outcome : (dialect.read method path).result with
  | error error =>
    rw [outcome] at read
    cases read
  | ok other =>
    rw [outcome] at read
    obtain rfl := Option.some.inj read
    exact (Dialect.origin_of_read outcome).2

/-- The methods that are read stand in the order of the tree. -/
theorem roots_sublist (dialect : Dialect) (path : String) (node : Tree.Node tree) :
    ((ofNode dialect path node).signatures.map Signature.root).Sublist node.preOrder := by
  have same : (ofNode dialect path node).signatures.map Signature.root =
      (dialect.methods node).filter fun method =>
        (dialect.read method path).result.toOption.isSome := by
    rw [ofNode, List.map_filterMap, ← List.filterMap_eq_filter]
    refine List.filterMap_congr fun method _ => ?_
    cases outcome : (dialect.read method path).result with
    | error error => simp [Except.toOption, Option.guard, outcome]
    | ok signature =>
      simp [Except.toOption, Option.guard, outcome, (Dialect.origin_of_read outcome).1]
  rw [same, Dialect.methods]
  exact List.filter_sublist.trans List.filter_sublist

end Split

namespace Config

variable (config : Config) {tree : Tree}

/-! ## Records of a tree -/

/-- The record of a subtree of a source under a label. -/
def recordOf (path label : String) (node : Tree.Node tree) : Record :=
  ⟨Record.idOf path label node.index, label, path, node.toRaw⟩

/-- The record of a whole file, if all filters accept it and it has a label. -/
def fileRecord? (tree : Tree) (path : String) : Option Record :=
  if ∀ filter ∈ config.filters, filter.acceptsFile? tree.root = some true then
    (config.labeling.fileLabel? path).map (recordOf path · tree.root)
  else none

/-- The record of a method, if all filters accept it and it has a label. -/
def methodRecord? (path : String) (signature : Signature tree) : Option Record :=
  if ∀ filter ∈ config.filters, filter.accepts signature = true then
    (config.labeling.functionLabel? signature).map (recordOf path · signature.root)
  else none

/-- The records that are to be stored of the tree of a source. -/
def survivors (tree : Tree) (path : String) : List Record :=
  match config.labeling.granularity with
  | .file => (config.fileRecord? tree path).toList
  | .function =>
    (Split.ofNode config.parser.dialect path tree.root).signatures.filterMap
      (config.methodRecord? path)

/-- The records that are to be stored of the source at a path: none if it cannot be loaded. -/
def recordsAt (parser : String → SyntaxTree) (fs : FileSystem) (path : String) : List Record :=
  match Source.load parser config.parser.dialect fs path with
  | .ok tree => config.survivors tree path
  | .error _ => []

/-- The records that are to be stored of the sources at some paths, in order. -/
def recordsOf (parser : String → SyntaxTree) (fs : FileSystem) (paths : List String) :
    List Record :=
  paths.flatMap (config.recordsAt parser fs)

/-- Whether the source at a path can be loaded. -/
def loads (parser : String → SyntaxTree) (fs : FileSystem) (path : String) : Bool :=
  (Source.load parser config.parser.dialect fs path).toOption.isSome

theorem map_record_fileUnits (tree : Tree) (path : String) :
    (config.fileUnits tree path).map LabeledUnit.record =
      (config.fileRecord? tree path).toList := by
  have accepted : config.filters.all (·.acceptsFile? tree.root == some true) = true ↔
      ∀ filter ∈ config.filters, filter.acceptsFile? tree.root = some true := by
    simp
  rw [fileUnits, fileRecord?, if_congr accepted rfl rfl]
  split
  · cases config.labeling.fileLabel? path <;> rfl
  · rfl

theorem map_record_functionUnits {path : String} {signatures : List (Signature tree)}
    (h : ∀ signature ∈ signatures, signature.filePath = path) :
    (config.functionUnits signatures).map LabeledUnit.record =
      signatures.filterMap (config.methodRecord? path) := by
  rw [functionUnits, List.filterMap_filter, List.map_filterMap]
  refine List.filterMap_congr fun signature mem => ?_
  have accepted : config.keeps signature = true ↔
      ∀ filter ∈ config.filters, filter.accepts signature = true := List.all_eq_true
  rw [methodRecord?, if_congr accepted rfl rfl]
  split
  · cases config.labeling.functionLabel? signature with
    | none => rfl
    | some label => simp [LabeledUnit.record, LabeledUnit.id, recordOf, h signature mem]
  · rfl

theorem records_yieldOfTree (tree : Tree) (path : String) :
    (config.yieldOfTree tree path).records = config.survivors tree path := by
  rw [yieldOfTree, survivors]
  cases config.labeling.granularity with
  | file => exact config.map_record_fileUnits tree path
  | function => exact config.map_record_functionUnits fun _ => Split.filePath_of_mem

theorem isSkipped_yieldOfTree (tree : Tree) (path : String) :
    (config.yieldOfTree tree path).isSkipped = false := by
  rw [yieldOfTree]
  cases config.labeling.granularity <;> rfl

/-! ## What comes of sources -/

variable {config} {parser : String → SyntaxTree} {fs fs' : FileSystem} {path : String}

theorem records_yieldOf :
    (config.yieldOf parser fs path).records = config.recordsAt parser fs path := by
  rw [yieldOf, recordsAt]
  cases Source.load parser config.parser.dialect fs path with
  | error error => rfl
  | ok tree => exact config.records_yieldOfTree tree path

theorem isSkipped_yieldOf :
    (config.yieldOf parser fs path).isSkipped = !config.loads parser fs path := by
  rw [yieldOf, loads]
  cases Source.load parser config.parser.dialect fs path with
  | error error => rfl
  | ok tree => exact config.isSkipped_yieldOfTree tree path

theorem recordsAt_congr (h : (Source.load parser config.parser.dialect fs' path).toOption =
    (Source.load parser config.parser.dialect fs path).toOption) :
    config.recordsAt parser fs' path = config.recordsAt parser fs path := by
  have elim : ∀ fs : FileSystem, config.recordsAt parser fs path =
      (Source.load parser config.parser.dialect fs path).toOption.elim []
        (config.survivors · path) := by
    intro fs
    rw [recordsAt]
    cases Source.load parser config.parser.dialect fs path <;> rfl
  rw [elim, elim, h]

theorem recordsAt_of_not_loads (h : config.loads parser fs path = false) :
    config.recordsAt parser fs path = [] := by
  rw [loads] at h
  rw [recordsAt]
  cases loaded : Source.load parser config.parser.dialect fs path with
  | error error => rfl
  | ok tree =>
    rw [loaded] at h
    cases h

theorem total_map_length (yields : List Yield) :
    total (yields.map (·.records.length)) = (yields.flatMap Yield.records).length := by
  induction yields with
  | nil => rfl
  | cons first rest ih =>
    rw [List.map_cons, total, ih, List.flatMap_cons, List.length_append]

theorem flatMap_records_yieldOf (paths : List String) :
    (paths.map (config.yieldOf parser fs)).flatMap Yield.records =
      config.recordsOf parser fs paths := by
  rw [List.flatMap_map, recordsOf]
  exact List.flatMap_congr fun path _ => records_yieldOf

theorem countP_isSkipped_yieldOf (paths : List String) :
    (paths.map (config.yieldOf parser fs)).countP Yield.isSkipped =
      paths.countP (!config.loads parser fs ·) := by
  rw [List.countP_map]
  exact List.countP_congr fun path _ => by rw [Function.comp_apply, isSkipped_yieldOf]

end Config

end MethodCorpus
