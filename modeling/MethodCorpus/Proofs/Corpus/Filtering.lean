import MethodCorpus.Proofs.Corpus.Failure
import MethodCorpus.Proofs.Corpus.Identity

/-!
# Filters of a configuration as a set

The units of a tree that have a label do not depend on the filters, and one of them is kept if every
filter accepts it. So it does not matter in which order filters stand and how often, and a further
filter takes away the units that it does not accept alone.

* `Config.candidates`, `Config.unitsOfTree_eq`: the units of a tree before filters are asked, and
  those that are kept;
* `Config.unitsOfTree_congr`: the same filters keep the same units;
* `Config.unitsOfTree_insert`: what a further filter keeps;
* `Config.yieldOfTree_withFilters`: nothing else depends on the filters;
* `Pipeline.units_of_filters`: all of this for filters that fit.
-/

namespace MethodCorpus

deriving instance DecidableEq for LabeledUnit

/-- A unit with a label, and the filters that accept it. -/
structure Candidate (tree : Tree) where
  unit : LabeledUnit tree
  accepted : Filter → Bool

namespace Config

/-- A configuration with filters in place of its own. -/
def withFilters (config : Config) (filters : List Filter) : Config := { config with filters }

variable (config : Config) {tree : Tree}

/-- A whole file as a candidate, if it has a label. -/
def fileCandidates (tree : Tree) (path : String) : List (Candidate tree) :=
  (config.labeling.fileLabel? path).toList.map fun label =>
    ⟨⟨tree.root, label, path⟩, fun filter => filter.acceptsFile? tree.root == some true⟩

/-- A method as a candidate, if it has a label. -/
def methodCandidate? (signature : Signature tree) : Option (Candidate tree) :=
  (config.labeling.functionLabel? signature).map fun label =>
    ⟨⟨signature.root, label, signature.filePath⟩, fun filter => filter.accepts signature⟩

/-- The units of a tree that have a label, in the order of the tree. -/
def candidates (tree : Tree) (path : String) : List (Candidate tree) :=
  match config.labeling.granularity with
  | .file => config.fileCandidates tree path
  | .function =>
    (Split.ofNode config.parser.dialect path tree.root).signatures.filterMap config.methodCandidate?

/-- The units of a tree that are kept are the candidates that every filter accepts. -/
theorem unitsOfTree_eq (tree : Tree) (path : String) :
    config.unitsOfTree tree path =
      ((config.candidates tree path).filter fun candidate =>
        config.filters.all candidate.accepted).map Candidate.unit := by
  rw [unitsOfTree, candidates]
  cases config.labeling.granularity with
  | file =>
    dsimp only
    rw [fileUnits, fileCandidates]
    cases config.labeling.fileLabel? path with
    | none => simp
    | some label => split <;> simp_all
  | function =>
    dsimp only
    rw [functionUnits, List.filterMap_filter, List.filter_filterMap, List.map_filterMap]
    refine List.filterMap_congr fun signature _ => ?_
    rw [methodCandidate?]
    cases config.labeling.functionLabel? signature with
    | none => simp
    | some label =>
      rw [Option.map_some, Option.map_some, Option.filter_some, apply_ite (Option.map _)]
      rfl

/-- Other filters choose from the same candidates. -/
theorem unitsOfTree_withFilters (filters : List Filter) (tree : Tree) (path : String) :
    (config.withFilters filters).unitsOfTree tree path =
      ((config.candidates tree path).filter fun candidate =>
        filters.all candidate.accepted).map Candidate.unit :=
  (config.withFilters filters).unitsOfTree_eq tree path

/-- No two candidates are the same unit: without filters all of them are kept. -/
theorem nodup_map_unit_candidates (tree : Tree) (path : String) :
    ((config.candidates tree path).map Candidate.unit).Nodup := by
  have all : (config.withFilters []).unitsOfTree tree path =
      (config.candidates tree path).map Candidate.unit := by
    rw [unitsOfTree_withFilters]
    exact congrArg _ (List.filter_eq_self.2 fun _ _ => rfl)
  rw [← all]
  exact (pairwise_unitsOfTree tree path).imp fun differ same => differ (congrArg _ same)

/-- A candidate is kept by a test exactly if its unit is one of those that are. -/
theorem mem_map_unit_filter_iff {path : String} {candidate : Candidate tree}
    (keep : Candidate tree → Bool) (mem : candidate ∈ config.candidates tree path) :
    candidate.unit ∈ ((config.candidates tree path).filter keep).map Candidate.unit ↔
      keep candidate = true := by
  constructor
  · intro kept
    obtain ⟨other, listed, same⟩ := List.mem_map.1 kept
    obtain ⟨mem', kept⟩ := List.mem_filter.1 listed
    rwa [List.inj_on_of_nodup_map (config.nodup_map_unit_candidates tree path) mem' mem same]
      at kept
  · exact fun kept => List.mem_map_of_mem (List.mem_filter.2 ⟨mem, kept⟩)

variable {config} {filters : List Filter}

/-- The same filters, in whatever order and however often, keep the same units. -/
theorem unitsOfTree_congr (same : ∀ filter, filter ∈ filters ↔ filter ∈ config.filters)
    (tree : Tree) (path : String) :
    (config.withFilters filters).unitsOfTree tree path = config.unitsOfTree tree path := by
  rw [unitsOfTree_withFilters, unitsOfTree_eq]
  refine congrArg _ (List.filter_congr fun candidate _ => Bool.eq_iff_iff.2 ?_)
  simp only [List.all_eq_true, same]

/-- Of the units that are kept a further filter keeps those that it keeps alone. -/
theorem unitsOfTree_insert {before after : List Filter} (split : config.filters = before ++ after)
    (filter : Filter) (tree : Tree) (path : String) :
    (config.withFilters (before ++ filter :: after)).unitsOfTree tree path =
      (config.unitsOfTree tree path).filter
        (· ∈ (config.withFilters [filter]).unitsOfTree tree path) := by
  rw [unitsOfTree_withFilters, unitsOfTree_withFilters, unitsOfTree_eq, List.filter_map,
    List.filter_filter]
  refine congrArg _ (List.filter_congr fun candidate mem => Bool.eq_iff_iff.2 ?_)
  simp only [Bool.and_eq_true, Function.comp_apply, decide_eq_true_eq,
    config.mem_map_unit_filter_iff _ mem, split, List.all_append, List.all_cons, List.all_nil,
    Bool.and_true, and_left_comm]

/-- The filters decide on what is stored of a tree, not on what is said of it. -/
theorem yieldOfTree_withFilters (filters : List Filter) (tree : Tree) (path : String) :
    (config.withFilters filters).yieldOfTree tree path =
      ⟨((config.withFilters filters).unitsOfTree tree path).map LabeledUnit.record,
        (config.yieldOfTree tree path).diagnostics, false⟩ := by
  rw [yieldOfTree, yieldOfTree, unitsOfTree,
    show (config.withFilters filters).labeling = config.labeling from rfl]
  cases config.labeling.granularity <;> rfl

/-- Filters fit the units of a configuration if each of them does. -/
theorem misfit?_eq_none_iff : config.misfit? = none ↔
    (config.labeling.granularity = .file →
      ∀ filter ∈ config.filters, filter.appliesToFiles = true) := by
  rw [misfit?]
  cases config.labeling.granularity <;> simp

theorem misfit?_withFilters_eq_none_iff : (config.withFilters filters).misfit? = none ↔
    (config.labeling.granularity = .file → ∀ filter ∈ filters, filter.appliesToFiles = true) :=
  misfit?_eq_none_iff

end Config

namespace Pipeline

theorem exists_ofConfig_iff {config : Config} :
    (∃ pipeline, ofConfig config = .ok pipeline) ↔ config.misfit? = none := by
  simp only [ofConfig_eq_ok_iff]
  exact ⟨fun ⟨pipeline, same⟩ => same ▸ pipeline.fits, fun fits => ⟨⟨config, fits⟩, rfl⟩⟩

/-- The filters of a pipeline act as a set on the units of every tree. The same filters in another
order, some of them repeated, fit as well and keep the same units. One more filter fits where it
does alone, and wherever it stands, it leaves of the units those that it keeps alone, in their
order. What is said of a tree is the same for all filters. -/
theorem units_of_filters (pipeline : Pipeline) (tree : Tree) (path : String) :
    (∀ filters, (∀ filter, filter ∈ filters ↔ filter ∈ pipeline.config.filters) →
      (∃ other, ofConfig (pipeline.config.withFilters filters) = .ok other) ∧
      (pipeline.config.withFilters filters).unitsOfTree tree path =
        pipeline.config.unitsOfTree tree path) ∧
    (∀ before after filter, pipeline.config.filters = before ++ after →
      ((∃ other, ofConfig (pipeline.config.withFilters (before ++ filter :: after)) = .ok other) ↔
        ∃ alone, ofConfig (pipeline.config.withFilters [filter]) = .ok alone) ∧
      (pipeline.config.withFilters (before ++ filter :: after)).unitsOfTree tree path =
        (pipeline.config.unitsOfTree tree path).filter
          (· ∈ (pipeline.config.withFilters [filter]).unitsOfTree tree path)) ∧
    ∀ filters, (pipeline.config.withFilters filters).yieldOfTree tree path =
      ⟨((pipeline.config.withFilters filters).unitsOfTree tree path).map LabeledUnit.record,
        (pipeline.config.yieldOfTree tree path).diagnostics, false⟩ := by
  have fits := Config.misfit?_eq_none_iff.1 pipeline.fits
  simp only [exists_ofConfig_iff, Config.misfit?_withFilters_eq_none_iff]
  refine ⟨fun filters same => ⟨fun whole filter mem => ?_, Config.unitsOfTree_congr same tree path⟩,
    fun before after filter split => ⟨?_, Config.unitsOfTree_insert split filter tree path⟩,
    fun filters => Config.yieldOfTree_withFilters filters tree path⟩
  · exact fits whole filter ((same filter).1 mem)
  · rw [split] at fits
    simp only [List.forall_mem_append, List.forall_mem_cons] at fits ⊢
    exact ⟨fun more whole => ⟨(more whole).2.1, nofun⟩,
      fun alone whole => ⟨(fits whole).1, (alone whole).1, (fits whole).2⟩⟩

end Pipeline

end MethodCorpus
