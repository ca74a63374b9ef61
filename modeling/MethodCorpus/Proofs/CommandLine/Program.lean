import MethodCorpus.CommandLine.Program
import MethodCorpus.Proofs.Config.File
import MethodCorpus.Proofs.Corpus.Failure

/-!
# What the commands do

A run is refused before anything is touched if its configuration is not loaded, if the filters do
not fit, or if there is no input directory; every other failure is that of a store. A configuration
that was written is loaded again, unless it stands where a TOML document is expected.

* `perform_of_command`, `status_eq_zero_iff`: what the program comes to;
* `init_eq_ok_iff`, `save_of_perform`: what is written;
* `run_of_refused`, `run_eq_error_iff`, `perform_eq_error_iff`: the runs that fail;
* `perform_of_refused`: the runs that are refused;
* `load_of_init`: the runs of what was written.
-/

namespace MethodCorpus.CommandLine

variable {parser : String → SyntaxTree} {arguments : List String} {command : Command}
  {path : String} {asJson : Bool} {fs left : FileSystem} {error : Error}

/-! ## The program -/

/-- The program does what the command does that is asked for. -/
theorem perform_of_command (asked : command? arguments = some command) :
    perform parser arguments fs =
      ((execute parser command fs).1, some (execute parser command fs).2) := by
  rw [perform, asked]

theorem status_eq_zero_iff {result : Option (Except Error Answer)} :
    status result = 0 ↔ ∃ answer, result = some (.ok answer) := by
  rcases result with _ | _ | answer <;> simp [status]

theorem exists_of_status (success : status (perform parser arguments fs).2 = 0) :
    ∃ left answer, perform parser arguments fs = (left, some (.ok answer)) := by
  obtain ⟨answer, same⟩ := status_eq_zero_iff.1 success
  exact ⟨_, answer, Prod.ext rfl same⟩

/-! ## Writing a configuration -/

theorem init_eq_ok_iff {path input : Option String} {answer : Answer} :
    init path input fs = (left, .ok answer) ↔
      (initialConfig input).save fs (configPath path) = (left, .ok ()) ∧
        answer = .saved (configPath path) := by
  rw [init]
  rcases (initialConfig input).save fs (configPath path) with ⟨saved, _ | ⟨⟩⟩ <;> simp [eq_comm]

theorem save_of_perform {path input : Option String} {answer : Answer}
    (asked : command? arguments = some (.init path input))
    (done : perform parser arguments fs = (left, some (.ok answer))) :
    (initialConfig input).save fs (configPath path) = (left, .ok ()) ∧
      answer = .saved (configPath path) := by
  rw [perform_of_command asked, Prod.mk.injEq, Option.some.injEq] at done
  exact init_eq_ok_iff.1 (Prod.ext done.1 done.2)

/-! ## Running a configuration -/

/-- Why the configuration at a path is not run: it is not loaded, its filters do not fit, or there
is nothing to look for sources in. -/
inductive Refused (fs : FileSystem) (path : String) : Error → Prop
  | unloaded {error : Error} (unloaded : Config.load fs path = .error error) :
    Refused fs path error
  | misfit {config : Config} {error : Error} (loaded : Config.load fs path = .ok config)
      (unfit : Pipeline.ofConfig config = .error error) :
    Refused fs path error
  | noInput {pipeline : Pipeline} (loaded : Config.load fs path = .ok pipeline.config)
      (languages : pipeline.config.parser.languages ≠ [])
      (missing : fs.isDirectory pipeline.config.inputDir = false) :
    Refused fs path (.file "input directory does not exist" pipeline.config.inputDir)

/-- Where there is nothing to look for sources in, a run is refused, be it for another reason. -/
theorem exists_refused_of_noInput {config : Config} (loaded : Config.load fs path = .ok config)
    (languages : config.parser.languages ≠ [])
    (missing : fs.isDirectory config.inputDir = false) : ∃ error, Refused fs path error := by
  cases fits : Pipeline.ofConfig config with
  | error error => exact ⟨error, .misfit loaded fits⟩
  | ok pipeline =>
    obtain rfl := Pipeline.ofConfig_eq_ok_iff.1 fits
    exact ⟨_, .noInput loaded languages missing⟩

theorem run_eq_error_iff_of_loaded (pipeline : Pipeline)
    (loaded : Config.load fs path = .ok pipeline.config) :
    run parser path asJson fs = (left, .error error) ↔
      pipeline.run parser fs = (left, .error error) := by
  have fits : (Config.load fs path).bind Pipeline.ofConfig = .ok pipeline := by
    rw [loaded]
    exact Pipeline.ofConfig_eq_ok_iff.2 rfl
  rw [run, fits]
  dsimp only
  rcases pipeline.run parser fs with ⟨after, _ | reports⟩ <;> simp

/-- A run that is refused touches nothing. -/
theorem run_of_refused (refused : Refused fs path error) :
    run parser path asJson fs = (fs, .error error) := by
  cases refused with
  | unloaded unloaded =>
    rw [run, unloaded]
    rfl
  | misfit loaded unfit => rw [run, loaded, Except.bind, unfit]
  | @noInput pipeline loaded languages missing =>
    obtain ⟨language, mem⟩ := List.exists_mem_of_ne_nil _ languages
    exact (run_eq_error_iff_of_loaded pipeline loaded).2
      (Pipeline.run_eq_error_iff.2 ⟨language, mem, .inl ⟨missing, rfl, rfl⟩⟩)

/-- A run fails before anything is touched if it is refused, and otherwise only when the store of a
language is opened. -/
theorem run_eq_error_iff :
    run parser path asJson fs = (left, .error error) ↔
      (left = fs ∧ Refused fs path error) ∨
      ∃ pipeline : Pipeline, Config.load fs path = .ok pipeline.config ∧
        fs.isDirectory pipeline.config.inputDir = true ∧
        ∃ language ∈ pipeline.config.parser.languages,
          Store.create fs (pipeline.config.storeDirectory language) = (left, .error error) := by
  constructor
  · intro failed
    cases loaded : Config.load fs path with
    | error unloaded =>
      have refused : Refused fs path unloaded := .unloaded loaded
      obtain ⟨rfl, rfl⟩ : fs = left ∧ unloaded = error := by
        simpa using (run_of_refused refused).symm.trans failed
      exact .inl ⟨rfl, refused⟩
    | ok config =>
      cases fits : Pipeline.ofConfig config with
      | error unfit =>
        have refused : Refused fs path unfit := .misfit loaded fits
        obtain ⟨rfl, rfl⟩ : fs = left ∧ unfit = error := by
          simpa using (run_of_refused refused).symm.trans failed
        exact .inl ⟨rfl, refused⟩
      | ok pipeline =>
        obtain rfl := Pipeline.ofConfig_eq_ok_iff.1 fits
        rw [run_eq_error_iff_of_loaded pipeline loaded, Pipeline.run_eq_error_iff] at failed
        obtain ⟨language, mem, ⟨missing, rfl, rfl⟩ | ⟨there, unopened⟩⟩ := failed
        · exact .inl ⟨rfl, .noInput loaded (List.ne_nil_of_mem mem) missing⟩
        · exact .inr ⟨pipeline, rfl, there, language, mem, unopened⟩
  · rintro (⟨rfl, refused⟩ | ⟨pipeline, loaded, there, language, mem, unopened⟩)
    · exact run_of_refused refused
    · exact (run_eq_error_iff_of_loaded pipeline loaded).2
        (Pipeline.run_eq_error_iff.2 ⟨language, mem, .inr ⟨there, unopened⟩⟩)

/-- A run fails as its command does. -/
theorem perform_eq_error_iff (asked : command? arguments = some (.run path asJson)) :
    perform parser arguments fs = (left, some (.error error)) ↔
      run parser path asJson fs = (left, .error error) := by
  rw [perform_of_command asked, execute]
  simp [Prod.ext_iff]

/-- A configuration has no pipeline exactly if units are whole files and a filter asks for more than
their size, and then the first such filter is named. The program that is asked to run a
configuration ends with status one and leaves every file and every directory as they are if the
configuration is not loaded, has no pipeline, or has a language but no input directory. If it fails
in any other way, a store could not be opened. -/
theorem perform_of_refused (parser : String → SyntaxTree) (arguments : List String) (path : String)
    (asJson : Bool) (fs : FileSystem) (asked : command? arguments = some (.run path asJson)) :
    (∀ config, (∃ error, Pipeline.ofConfig config = .error error) ↔
      (config.labeling = .fileName ∨ config.labeling = .folderName) ∧
        ∃ filter ∈ config.filters, ∀ least greatest, filter ≠ .treeSize least greatest) ∧
    (∀ config error, Pipeline.ofConfig config = .error error ↔
      ∃ filter, config.IsMisfit filter ∧
        error = .config s!"filter '{filter.name}' cannot be applied to file-level units") ∧
    (∀ error, Refused fs path error →
      perform parser arguments fs = (fs, some (.error error)) ∧
        status (perform parser arguments fs).2 = 1) ∧
    (∀ config : Config, Config.load fs path = .ok config → config.parser.languages ≠ [] →
      fs.isDirectory config.inputDir = false → ∃ error, Refused fs path error) ∧
    ∀ left error, perform parser arguments fs = (left, some (.error error)) →
      (left = fs ∧ Refused fs path error) ∨
      ∃ message place, error = .storage message place := by
  refine ⟨fun config => ?_, fun config error => Pipeline.ofConfig_eq_error_iff,
    fun error refused => ?_, fun config => exists_refused_of_noInput,
    fun left error failed => ?_⟩
  · rw [← Config.exists_isMisfit_iff]
    simp [Pipeline.ofConfig_eq_error_iff]
  · have failed : perform parser arguments fs = (fs, some (.error error)) :=
      (perform_eq_error_iff asked).2 (run_of_refused refused)
    rw [failed]
    exact ⟨rfl, rfl⟩
  · obtain refused | ⟨pipeline, -, -, language, -, unopened⟩ :=
      run_eq_error_iff.1 ((perform_eq_error_iff asked).1 failed)
    · exact .inl refused
    · exact .inr (Store.exists_storage_of_create unopened)

namespace Sample

/-- A configuration with a filter that applies to whole files, in front of two that do not. -/
def misfit : Config :=
  { Pipeline.Sample.config with
    labeling := .folderName
    filters := [.treeSize 1 none, .noConstructors, .nameWords 1] }

end Sample

/-- The configuration is refused, and the store of a run before stays as it is. -/
theorem perform_of_refused_misfit :
    ∃ fs : FileSystem, Config.load fs "corpus.json" = .ok Sample.misfit ∧
      fs.readText "out/java/labeled.jsonl" = .ok "old\n" ∧
      perform Pipeline.Sample.parser ["run", "corpus.json"] fs =
        (fs, some (.error
          (.config "filter 'no constructors' cannot be applied to file-level units"))) := by
  have asked : command? ["run", "corpus.json"] = some (.run "corpus.json" false) := by
    decide +kernel
  have within : Sample.misfit.WithinLimits := by decide
  have format : Config.isToml "corpus.json" = false := by decide +kernel
  have first : Sample.misfit.IsMisfit .noConstructors :=
    ⟨.inr rfl, ⟨[.treeSize 1 none], [.nameWords 1], rfl, by simp⟩, by simp⟩
  have done : (Sample.misfit.save Pipeline.Sample.files "corpus.json").2.toOption = some () ∧
      (Sample.misfit.save Pipeline.Sample.files "corpus.json").1.readText
        "out/java/labeled.jsonl" = .ok "old\n" := by
    decide +kernel
  rcases saved : Sample.misfit.save Pipeline.Sample.files "corpus.json" with ⟨fs, outcome⟩
  rw [saved] at done
  obtain ⟨ok, store⟩ := done
  obtain rfl := toOption_eq_some_iff.1 ok
  have loaded := Config.load_of_readText within format (Config.readText_of_save saved)
  obtain ⟨-, names, refuses, -⟩ := perform_of_refused Pipeline.Sample.parser _ _ _ fs asked
  have unfit := (names _ _).2 ⟨_, first, rfl⟩
  exact ⟨fs, loaded, store, (refuses _ (.misfit loaded unfit)).1⟩

/-! ## Running what was written -/

theorem withinLimits_initialConfig (input : Option String) : (initialConfig input).WithinLimits :=
  fun _ mem => absurd mem List.not_mem_nil

/-- A configuration with a pipeline is not at fault if its run fails. -/
theorem run_ne_config_error (pipeline : Pipeline)
    (loaded : Config.load fs path = .ok pipeline.config) (message : String) :
    (run parser path asJson fs).2 ≠ .error (.config message) := by
  intro failed
  obtain ⟨language, -, ⟨-, -, other⟩ | ⟨-, unopened⟩⟩ :=
    Pipeline.run_eq_error_iff.1
      ((run_eq_error_iff_of_loaded pipeline loaded).1 (Prod.ext rfl failed))
  · cases other
  · obtain ⟨said, place, other⟩ := Store.exists_storage_of_create unopened
    cases other

/-- If the program has written a configuration and says so, there are two cases. Where the path does
not end as that of a TOML document, the configuration is loaded from it, and is not at fault if a
run of it fails. Where it does, nothing is loaded, and every run of what was written ends with that.
-/
theorem load_of_init (parser : String → SyntaxTree) (arguments : List String)
    (path input : Option String) (fs left : FileSystem) (result : Option (Except Error Answer))
    (asked : command? arguments = some (.init path input))
    (done : perform parser arguments fs = (left, result)) (success : status result = 0) :
    result = some (.ok (.saved (configPath path))) ∧
    (Path.extension? (configPath path) ≠ some "toml" →
      Config.load left (configPath path) = .ok (initialConfig input) ∧
      ∀ again asJson, command? again = some (.run (configPath path) asJson) →
        ∀ message, (perform parser again left).2 ≠ some (.error (.config message))) ∧
    (Path.extension? (configPath path) = some "toml" → ∃ message,
      Config.load left (configPath path) = .error (.config message) ∧
      ∀ again asJson, command? again = some (.run (configPath path) asJson) →
        perform parser again left = (left, some (.error (.config message)))) := by
  obtain ⟨answer, rfl⟩ := status_eq_zero_iff.1 success
  obtain ⟨saved, rfl⟩ := save_of_perform asked done
  have written := Config.readText_of_save saved
  refine ⟨rfl, fun other => ?_, fun toml => ?_⟩
  · have loaded := Config.load_of_readText (withinLimits_initialConfig input)
      (beq_eq_false_iff_ne.2 other) written
    -- methods are what is labelled initially, so every filter would fit
    refine ⟨loaded, fun again asJson asked' message failed => ?_⟩
    rw [perform_of_command asked', execute, Option.some.injEq] at failed
    exact run_ne_config_error ⟨initialConfig input, rfl⟩ loaded message failed
  · have unread := Config.load_toml_of_readText (beq_iff_eq.2 toml) written
    refine ⟨_, unread, fun again asJson asked' => ?_⟩
    exact (perform_eq_error_iff asked').2 (run_of_refused (.unloaded unread))

/-- The directory of the configuration is made, and what was asked for is read again. -/
theorem load_of_init_json :
    ∃ left, command? ["init", "conf/corpus.json", "-i", "src"] =
        some (.init (some "conf/corpus.json") (some "src")) ∧
      perform Pipeline.Sample.parser ["init", "conf/corpus.json", "-i", "src"]
        Pipeline.Sample.files = (left, some (.ok (.saved "conf/corpus.json"))) ∧
      Config.load left "conf/corpus.json" = .ok { Config.initial with inputDir := "src" } := by
  have asked : command? ["init", "conf/corpus.json", "-i", "src"] =
      some (.init (some "conf/corpus.json") (some "src")) := by
    decide +kernel
  have success : status (perform Pipeline.Sample.parser
      ["init", "conf/corpus.json", "-i", "src"] Pipeline.Sample.files).2 = 0 := by
    decide +kernel
  have format : Path.extension? "conf/corpus.json" ≠ some "toml" := by decide +kernel
  obtain ⟨left, answer, done⟩ := exists_of_status success
  obtain ⟨saved, reads, -⟩ := load_of_init _ _ _ _ _ left _ asked done rfl
  exact ⟨left, asked, done.trans (congrArg (left, ·) saved), (reads format).1⟩

/-- What was written where a TOML document is expected is not read again. -/
theorem init_toml_not_loaded :
    ∃ left, command? ["init", "corpus.toml"] = some (.init (some "corpus.toml") none) ∧
      perform Pipeline.Sample.parser ["init", "corpus.toml"] .empty =
        (left, some (.ok (.saved "corpus.toml"))) ∧
      status (some (.ok (.saved "corpus.toml"))) = 0 ∧
      Config.load left "corpus.toml" = .error (.config
        "failed to parse config file 'corpus.toml': not a configuration") := by
  have asked : command? ["init", "corpus.toml"] = some (.init (some "corpus.toml") none) := by
    decide +kernel
  have success : status (perform Pipeline.Sample.parser ["init", "corpus.toml"] .empty).2 = 0 := by
    decide +kernel
  have format : Config.isToml "corpus.toml" = true := by decide +kernel
  obtain ⟨left, answer, done⟩ := exists_of_status success
  obtain ⟨saved, rfl⟩ := save_of_perform asked done
  have unread := Config.load_toml_of_readText format (Config.readText_of_save saved)
  exact ⟨left, asked, done, rfl, unread⟩

end MethodCorpus.CommandLine
