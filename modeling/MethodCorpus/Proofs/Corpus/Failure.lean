import MethodCorpus.Proofs.Corpus.Rerun

/-!
# How a run fails

A configuration has no pipeline if units are whole files and a filter asks for more than their size;
the first such filter is named. A pipeline then fails in two ways only: there is no directory to
look for sources in, and nothing was touched yet, or the store of a language cannot be opened. Once
it is open it can be written, and what could be stored once can be stored again.

* `Config.misfit?_eq_some_iff`, `Config.exists_isMisfit_iff`: the filters that do not fit;
* `Pipeline.ofConfig_eq_error_iff`, `Pipeline.ofConfig_eq_ok_iff`: which configurations have a
  pipeline;
* `Config.runLanguage_eq_error_iff`, `Config.runLanguages_eq_error_iff`: the runs that fail;
* `Pipeline.run_eq_error_iff`: the same of a pipeline.
-/

namespace MethodCorpus

variable {config : Config} {parser : String → SyntaxTree} {fs left : FileSystem} {error : Error}

/-! ## Filters that do not fit -/

/-- Whether a filter is the first one of a configuration that asks for more than the size of a tree,
and units are whole files. -/
structure Config.IsMisfit (config : Config) (filter : Filter) : Prop where
  wholeFiles : config.labeling = .fileName ∨ config.labeling = .folderName
  first : ∃ before after, config.filters = before ++ filter :: after ∧
    ∀ earlier ∈ before, ∃ least greatest, earlier = .treeSize least greatest
  other : ∀ least greatest, filter ≠ .treeSize least greatest

theorem Filter.appliesToFiles_iff {filter : Filter} :
    filter.appliesToFiles = true ↔ ∃ least greatest, filter = .treeSize least greatest := by
  cases filter <;> simp [appliesToFiles]

theorem Labeling.granularity_eq_file_iff {labeling : Labeling} :
    labeling.granularity = .file ↔ labeling = .fileName ∨ labeling = .folderName := by
  cases labeling <;> decide

theorem Filter.not_appliesToFiles_iff {filter : Filter} :
    (!filter.appliesToFiles) = true ↔ ∀ least greatest, filter ≠ .treeSize least greatest := by
  cases filter <;> simp [appliesToFiles]

theorem Config.misfit?_eq_some_iff {filter : Filter} :
    config.misfit? = some filter ↔ config.IsMisfit filter := by
  rw [misfit?]
  cases units : config.labeling.granularity with
  | function =>
    refine ⟨fun absurd => (nomatch absurd), fun misfit => ?_⟩
    rw [Labeling.granularity_eq_file_iff.2 misfit.wholeFiles] at units
    cases units
  | file =>
    simp only [List.find?_eq_some_iff_append, Filter.not_appliesToFiles_iff, Bool.not_not,
      Filter.appliesToFiles_iff]
    constructor
    · rintro ⟨other, before, after, split, sizes⟩
      exact ⟨Labeling.granularity_eq_file_iff.1 units, ⟨before, after, split, sizes⟩, other⟩
    · rintro ⟨-, ⟨before, after, split, sizes⟩, other⟩
      exact ⟨other, before, after, split, sizes⟩

/-- There is a first filter that does not fit where there is one at all. -/
theorem Config.exists_isMisfit_iff :
    (∃ filter, config.IsMisfit filter) ↔
      (config.labeling = .fileName ∨ config.labeling = .folderName) ∧
        ∃ filter ∈ config.filters, ∀ least greatest, filter ≠ .treeSize least greatest := by
  simp only [← Config.misfit?_eq_some_iff, ← Labeling.granularity_eq_file_iff, misfit?]
  cases config.labeling.granularity with
  | function => simp
  | file => simp [← Option.isSome_iff_exists, ← Filter.not_appliesToFiles_iff]

/-- A configuration has no pipeline because of the first filter that does not fit. -/
theorem Pipeline.ofConfig_eq_error_iff :
    ofConfig config = .error error ↔ ∃ filter, config.IsMisfit filter ∧
      error = .config s!"filter '{filter.name}' cannot be applied to file-level units" := by
  simp only [← Config.misfit?_eq_some_iff]
  unfold ofConfig
  split
  · next fits => simp [fits]
  · next filter misfit => simp [misfit, eq_comm]

/-- Where filters fit, a pipeline is its configuration. -/
theorem Pipeline.ofConfig_eq_ok_iff {pipeline : Pipeline} :
    ofConfig config = .ok pipeline ↔ config = pipeline.config := by
  constructor
  · exact fun accepted => (config_eq_of_ofConfig accepted).symm
  · rintro rfl
    unfold ofConfig
    split
    · rfl
    · next filter misfit =>
      rw [pipeline.fits] at misfit
      cases misfit

/-! ## Runs that fail -/

/-- A store that is not opened is a failure of the store. -/
theorem Store.exists_storage_of_create {directory : String}
    (h : create fs directory = (left, .error error)) :
    ∃ message path, error = .storage message path := by
  rw [create] at h
  rcases directories : fs.createDirectories directory with ⟨made, _ | fault⟩ <;>
    rw [directories] at h <;> dsimp only at h
  · cases emptied : made.writeFile (filePath directory) .empty with
    | error fault =>
      rw [emptied] at h
      exact ⟨_, _, (Except.error.inj (Prod.mk.inj h).2).symm⟩
    | ok opened =>
      rw [emptied] at h
      cases h
  · exact ⟨_, _, (Except.error.inj (Prod.mk.inj h).2).symm⟩

namespace Config

/-- A run over a language fails before anything is touched if there is no input directory, and
otherwise only when its store is opened. -/
theorem runLanguage_eq_error_iff {language : Language} :
    config.runLanguage parser fs language = (left, .error error) ↔
      (fs.isDirectory config.inputDir = false ∧ left = fs ∧
        error = .file "input directory does not exist" config.inputDir) ∨
      (fs.isDirectory config.inputDir = true ∧
        Store.create fs (config.storeDirectory language) = (left, .error error)) := by
  rw [runLanguage, Source.findAll, FileSystem.isDirectory]
  cases fs.directory? config.inputDir with
  | none => simp [eq_comm]
  | some top =>
    dsimp only
    rcases created : Store.create fs (config.storeDirectory language) with ⟨opened, _ | ⟨⟩⟩
    · simp
    · -- an open store can be written, whatever the records are
      dsimp only
      generalize List.flatMap Yield.records _ = records
      obtain ⟨written, done⟩ := Store.exists_write created records
      simp [done]

/-- A run over several languages fails as that over the first one does, since any other run would do
the same again. -/
theorem runLanguages_eq_error_iff {language : Language} {rest : List Language} :
    config.runLanguages parser fs (language :: rest) = (left, .error error) ↔
      config.runLanguage parser fs language = (left, .error error) := by
  rw [runLanguages]
  rcases first : config.runLanguage parser fs language with ⟨middle, _ | report⟩
  · simp
  · dsimp only
    rw [runLanguages_of_fixed (runLanguage_again first)]
    simp

end Config

/-- A pipeline fails before anything is touched if it has a language and there is no input
directory, and otherwise only when the store of a language is opened. -/
theorem Pipeline.run_eq_error_iff {pipeline : Pipeline} :
    pipeline.run parser fs = (left, .error error) ↔
      ∃ language ∈ pipeline.config.parser.languages,
        (fs.isDirectory pipeline.config.inputDir = false ∧ left = fs ∧
          error = .file "input directory does not exist" pipeline.config.inputDir) ∨
        (fs.isDirectory pipeline.config.inputDir = true ∧
          Store.create fs (pipeline.config.storeDirectory language) = (left, .error error)) := by
  rw [run]
  cases pipeline.config.parser.languages with
  | nil => simp [Config.runLanguages]
  | cons language rest =>
    rw [Config.runLanguages_eq_error_iff, Config.runLanguage_eq_error_iff]
    constructor
    · exact fun failed => ⟨language, List.mem_cons_self, failed⟩
    · rintro ⟨other, -, failed⟩
      rwa [Subsingleton.elim other language] at failed

end MethodCorpus
