import MethodCorpus.Proofs.Corpus.Rerun
import MethodCorpus.Proofs.Signature.Diagnostics

/-!
# What a report says about the sources

A report lists what went wrong, source by source. A source that could not be loaded stands there
once, under a kind that nothing else has; every other diagnostic is about a method of a source that
was loaded. So the skipped sources can be told from the report, in their order.

* `concerns_of_mem_yieldOf`, `exists_unread_yieldOf`, `unread_yieldOf`: the diagnostics of one
  source;
* `forall₂_explains`: those of skipped sources, one for each;
* `Accounts`, `accounts_reportOn`: what a report says about all sources;
* `Pipeline.diagnostics_of_run`: the reports of a run.
-/

namespace MethodCorpus

/-- Whether a diagnostic stands for a file that was not read. -/
def Diagnostic.isUnread (diagnostic : Diagnostic) : Bool := diagnostic.kind == .unreadableFile

theorem Diagnostic.IsAbout.isUnread_eq_false {tree : Tree} {dialect : Dialect} {path : String}
    {method : Tree.Node tree} {diagnostic : Diagnostic}
    (about : diagnostic.IsAbout dialect path method) : diagnostic.isUnread = false :=
  beq_eq_false_iff_ne.2 (DiagnosticKind.mem_inside_iff.1 about.kind)

namespace Config

/-- Whether a diagnostic says why the source at a path could not be loaded. -/
def Explains (config : Config) (parser : String → SyntaxTree) (fs : FileSystem) (path : String)
    (diagnostic : Diagnostic) : Prop :=
  ∃ error, Source.load parser config.parser.dialect fs path = .error error ∧
    diagnostic = ⟨.unreadableFile, path, none, error.text⟩

/-- Whether a diagnostic is about a method of the source at a path, which was loaded. -/
def Concerns (config : Config) (parser : String → SyntaxTree) (fs : FileSystem) (path : String)
    (diagnostic : Diagnostic) : Prop :=
  ∃ tree, Source.load parser config.parser.dialect fs path = .ok tree ∧
    ∃ method ∈ tree.root.preOrder, method.lastLabel = config.parser.dialect.methodLabel ∧
      diagnostic.IsAbout config.parser.dialect path method

variable {config : Config} {parser : String → SyntaxTree} {fs opened left : FileSystem}
  {path : String} {diagnostic : Diagnostic}

/-! ## One source -/

/-- A tree has diagnostics only if it is split into methods, and then they are about these. -/
theorem isAbout_of_mem_yieldOfTree {tree : Tree}
    (mem : diagnostic ∈ (config.yieldOfTree tree path).diagnostics) :
    config.labeling.granularity = .function ∧
      ∃ method ∈ config.parser.dialect.methods tree.root,
        diagnostic.IsAbout config.parser.dialect path method := by
  rw [yieldOfTree] at mem
  cases units : config.labeling.granularity with
  | file =>
    rw [units] at mem
    exact absurd mem List.not_mem_nil
  | function =>
    rw [units] at mem
    exact ⟨rfl, Split.isAbout_of_mem mem⟩

/-- What is said about a source that was loaded is about its methods. -/
theorem concerns_of_mem_yieldOf (mem : diagnostic ∈ (config.yieldOf parser fs path).diagnostics)
    (other : diagnostic.isUnread = false) :
    config.labeling.granularity = .function ∧ config.Concerns parser fs path diagnostic := by
  rw [yieldOf] at mem
  cases loaded : Source.load parser config.parser.dialect fs path with
  | error error =>
    rw [loaded] at mem
    rw [List.mem_singleton.1 mem] at other
    cases other
  | ok tree =>
    rw [loaded] at mem
    obtain ⟨units, method, listed, about⟩ := isAbout_of_mem_yieldOfTree mem
    obtain ⟨inside, isMethod⟩ := List.mem_filter.1 listed
    exact ⟨units, tree, loaded, method, inside, beq_iff_eq.1 isMethod, about⟩

/-- A source that could not be loaded leaves one diagnostic. -/
theorem exists_unread_yieldOf (unloaded : config.loads parser fs path = false) :
    ∃ diagnostic, (config.yieldOf parser fs path).diagnostics.filter Diagnostic.isUnread =
      [diagnostic] ∧ config.Explains parser fs path diagnostic := by
  rw [loads] at unloaded
  cases loaded : Source.load parser config.parser.dialect fs path with
  | ok tree =>
    rw [loaded] at unloaded
    cases unloaded
  | error error =>
    rw [yieldOf, loaded]
    exact ⟨_, rfl, error, loaded, rfl⟩

/-- A source that was loaded leaves none of that kind. -/
theorem unread_yieldOf (loaded : config.loads parser fs path = true) :
    (config.yieldOf parser fs path).diagnostics.filter Diagnostic.isUnread = [] := by
  rw [loads] at loaded
  obtain ⟨tree, some⟩ := Option.isSome_iff_exists.1 loaded
  rw [yieldOf, toOption_eq_some_iff.1 some, List.filter_eq_nil_iff]
  intro diagnostic mem
  obtain ⟨-, method, -, about⟩ := isAbout_of_mem_yieldOfTree mem
  rw [about.isUnread_eq_false]
  exact Bool.false_ne_true

/-! ## All sources -/

/-- The diagnostics of sources that could not be loaded, one for each, in the order of the sources.
-/
theorem forall₂_explains (paths : List String) :
    List.Forall₂ (config.Explains parser fs) (paths.filter (!config.loads parser fs ·))
      ((paths.flatMap fun path => (config.yieldOf parser fs path).diagnostics).filter
        Diagnostic.isUnread) := by
  induction paths with
  | nil => exact .nil
  | cons path rest ih =>
    rw [List.flatMap_cons, List.filter_append]
    cases loaded : config.loads parser fs path with
    | true =>
      rw [List.filter_cons_of_neg (by simp [loaded]), unread_yieldOf loaded, List.nil_append]
      exact ih
    | false =>
      obtain ⟨diagnostic, only, explains⟩ := exists_unread_yieldOf loaded
      rw [List.filter_cons_of_pos (by simp [loaded]), only]
      exact .cons explains ih

/-- What the report on a language says about the sources at some paths. -/
structure Accounts (config : Config) (parser : String → SyntaxTree) (fs : FileSystem)
    (paths : List String) (report : LanguageReport) : Prop where
  skipped : report.filesSkipped = paths.countP (!config.loads parser fs ·)
  counted : report.diagnostics.countP Diagnostic.isUnread = report.filesSkipped
  /-- The sources that could not be loaded are explained one by one, in their order. -/
  explained : List.Forall₂ (config.Explains parser fs)
    (paths.filter (!config.loads parser fs ·)) (report.diagnostics.filter Diagnostic.isUnread)
  /-- Every other diagnostic is about a method of a source that was loaded. There is none if units
  are whole files. -/
  others : ∀ diagnostic ∈ report.diagnostics, diagnostic.isUnread = false →
    config.labeling.granularity = .function ∧
      ∃ path ∈ paths, config.Concerns parser fs path diagnostic

theorem accounts_reportOn (language : Language) (paths : List String) :
    config.Accounts parser fs paths (reportOn language (paths.map (config.yieldOf parser fs))) := by
  have each : (reportOn language (paths.map (config.yieldOf parser fs))).diagnostics =
      paths.flatMap fun path => (config.yieldOf parser fs path).diagnostics :=
    List.flatMap_map ..
  have skipped : (reportOn language (paths.map (config.yieldOf parser fs))).filesSkipped =
      paths.countP (!config.loads parser fs ·) := countP_isSkipped_yieldOf paths
  have explained : List.Forall₂ (config.Explains parser fs)
      (paths.filter (!config.loads parser fs ·)) _ := forall₂_explains paths
  refine ⟨skipped, ?_, each ▸ explained, fun diagnostic mem other => ?_⟩
  · rw [each, skipped, List.countP_eq_length_filter, List.countP_eq_length_filter,
      explained.length_eq]
  · rw [each] at mem
    obtain ⟨path, listed, mem⟩ := List.mem_flatMap.1 mem
    obtain ⟨units, concerns⟩ := concerns_of_mem_yieldOf mem other
    exact ⟨units, path, listed, concerns⟩

/-- A run over a language starts in the same way before and after it has ended well. -/
theorem starts_again {language : Language} {report : LanguageReport}
    (done : config.runLanguage parser fs language = (left, .ok report)) :
    ∃ paths opened,
      (∀ start, start = fs ∨ start = left →
        Source.findAll start config.inputDir language.extension config.exclude = .ok paths ∧
          Store.create start (config.storeDirectory language) = (opened, .ok ())) ∧
      report = reportOn language (paths.map (config.yieldOf parser opened)) := by
  obtain ⟨paths, opened, found, created, written, same⟩ := runLanguage_eq_ok_iff.1 done
  refine ⟨paths, opened, ?_, same⟩
  rintro start (rfl | rfl)
  · exact ⟨found, created⟩
  · exact ⟨Source.findAll_of_write (storeDirectory_ne_empty language) found created written,
      Store.create_again created written⟩

end Config

namespace Pipeline

/-- After a run that ended well, each report counts the sources of its language that could not be
loaded and has a diagnostic for each of them, in their order. Every other diagnostic is about a
method of a source that was loaded, names that method, and is of a kind that stands for no file; it
is only there if units are methods. The sources are loaded when the store is open; where everything
has a name, the same ones could be loaded before. -/
theorem diagnostics_of_run (pipeline : Pipeline) (parser : String → SyntaxTree)
    (fs left : FileSystem) (reports : List LanguageReport)
    (done : pipeline.run parser fs = (left, .ok reports)) :
    List.Forall₂ (fun language report => ∃ paths opened,
        (∀ start, start = fs ∨ start = left →
          Source.findAll start pipeline.config.inputDir language.extension
            pipeline.config.exclude = .ok paths ∧
          Store.create start (pipeline.config.storeDirectory language) = (opened, .ok ())) ∧
        pipeline.config.Accounts parser opened paths report ∧
        (fs.WellFormed → ∀ path ∈ paths,
          (Source.load parser pipeline.config.parser.dialect opened path).toOption =
            (Source.load parser pipeline.config.parser.dialect fs path).toOption))
      pipeline.config.parser.languages reports := by
  refine (forall₂_of_run done).imp fun language report ran => ?_
  obtain ⟨paths, opened, starts, rfl⟩ := Config.starts_again ran
  obtain ⟨found, created⟩ := starts fs (.inl rfl)
  exact ⟨paths, opened, starts, Config.accounts_reportOn language paths,
    fun wellFormed => Config.toOption_load_of_mem wellFormed found created⟩

namespace Sample

/-- The parser that sees one method in every text, which has no type. -/
def untyped (text : String) : SyntaxTree :=
  ⟨"program", true, none, text, [⟨"method_declaration", true, none, text, [
    ⟨"identifier", true, some .name, "f", []⟩]⟩]⟩

end Sample

/-- A method is left out of the one source, and the other source is no text. -/
theorem diagnostics_of_run_next_to_untyped :
    ∃ left report paths opened,
      Sample.pipeline.run Sample.untyped Sample.files = (left, .ok [report]) ∧
      report.diagnostics.map (fun diagnostic =>
          (diagnostic.kind, diagnostic.filePath, diagnostic.function)) =
        [(.missingTypeToken, "src/A.java", some "f"), (.unreadableFile, "src/B.java", none)] ∧
      Source.findAll Sample.files "src" "java" [] = .ok paths ∧
      Sample.config.Accounts Sample.untyped opened paths report := by
  have said : (Sample.pipeline.run Sample.untyped Sample.files).2.toOption.map (·.map fun report =>
      report.diagnostics.map fun diagnostic =>
        (diagnostic.kind, diagnostic.filePath, diagnostic.function)) =
      some [[(.missingTypeToken, "src/A.java", some "f"),
        (.unreadableFile, "src/B.java", none)]] := by
    decide +kernel
  obtain ⟨left, reports, ran, each⟩ := exists_of_map_run said
  obtain ⟨report, rfl, listed⟩ := List.map_eq_singleton_iff.1 each
  obtain ⟨⟨paths, opened, starts, accounts, -⟩, -⟩ := List.forall₂_cons.1
    (diagnostics_of_run Sample.pipeline Sample.untyped Sample.files left [report] ran)
  exact ⟨left, report, paths, opened, ran, listed, (starts _ (.inl rfl)).1, accounts⟩

end Pipeline

end MethodCorpus
