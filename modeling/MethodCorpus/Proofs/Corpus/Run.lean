import MethodCorpus.Proofs.Corpus.Lines
import MethodCorpus.Proofs.Corpus.Sources
import MethodCorpus.Proofs.Corpus.Survivors

/-!
# What a run stores

A run over the sources of one language stores, source by source in the order in which they are
listed, the units that all filters accept and that have a label. A source that cannot be loaded is
counted and adds nothing, so it can as well be taken away.

* `runLanguage_eq_ok_iff`, `exists_runLanguage_eq_ok_iff`: the steps of a run that ends well, and
  when it does;
* `toOption_load_of_create`: opening the store changes nothing that is read;
* `exists_runLanguage_erase`: a run without a source that cannot be loaded;
* `Pipeline.wellFormed_run`: the file system that is left;
* `Pipeline.stores_survivors`: what is stored and counted.
-/

namespace MethodCorpus

/-- What is loaded of a listed source when a store is open is what could be loaded before. -/
theorem Source.Lists.toOption_load_of_create {language : Language} {dialect : Dialect}
    {parser : String → SyntaxTree} {fs opened : FileSystem} {root directory : String}
    {exclude : List String} {top names : Route}
    (lists : Source.Lists fs root language.extension exclude top names)
    (wellFormed : fs.WellFormed) (nonempty : directory ≠ "")
    (created : Store.create fs directory = (opened, .ok ())) :
    (load parser dialect opened (names.foldl Path.join root)).toOption =
      (load parser dialect fs (names.foldl Path.join root)).toOption := by
  obtain ⟨front, last, rfl, ending⟩ := lists.exists_concat wellFormed (by cases language; decide)
  refine lists.toOption_load_congr wellFormed (Store.keeps_of_create created) ?_
  refine Store.lookup_of_create nonempty created ?_
  rw [← List.append_assoc, List.getLast?_concat]
  -- neither a source nor a dump ends as the store's file does
  intro same
  have ends := congrArg (fun name : String => name.toList.getLast?) (Option.some.inj same)
  rw [getLast?_readPath] at ends
  cases dialect with
  | antlr =>
    have ends : some 'n' = Store.fileName.toList.getLast? := ends
    exact absurd ends (by decide)
  | srcml =>
    rw [ending] at ends
    cases language
    exact absurd ends (by decide)

/-- What adds nothing can be left out. -/
theorem flatMap_filter_eq {α β : Type} {items : List α} {keep : α → Bool} {f g : α → List β}
    (kept : ∀ item ∈ items, keep item = true → f item = g item)
    (dropped : ∀ item ∈ items, keep item = false → g item = []) :
    (items.filter keep).flatMap f = items.flatMap g := by
  induction items with
  | nil => rfl
  | cons first rest ih =>
    have others := ih (fun item mem => kept item (List.mem_cons_of_mem _ mem))
      fun item mem => dropped item (List.mem_cons_of_mem _ mem)
    rw [List.filter_cons, List.flatMap_cons]
    cases here : keep first with
    | true =>
      rw [if_pos rfl, List.flatMap_cons, others, kept first List.mem_cons_self here]
    | false =>
      rw [if_neg Bool.false_ne_true, others, dropped first List.mem_cons_self here, List.nil_append]

namespace Config

variable {config : Config} {parser : String → SyntaxTree} {fs left opened : FileSystem}

theorem storeDirectory_ne_empty (language : Language) : config.storeDirectory language ≠ "" :=
  Path.join_ne_empty (by cases language; decide)

/-- A run ends well exactly if the sources are listed, the store is opened, and the records of what
is loaded then are written. -/
theorem runLanguage_eq_ok_iff {language : Language} {report : LanguageReport} :
    config.runLanguage parser fs language = (left, .ok report) ↔
      ∃ paths opened,
        Source.findAll fs config.inputDir language.extension config.exclude = .ok paths ∧
        Store.create fs (config.storeDirectory language) = (opened, .ok ()) ∧
        Store.write opened (config.storeDirectory language)
          (config.recordsOf parser opened paths) = (left, .ok ()) ∧
        report = reportOn language (paths.map (config.yieldOf parser opened)) := by
  rw [runLanguage]
  cases Source.findAll fs config.inputDir language.extension config.exclude with
  | error error => simp
  | ok paths =>
    rcases Store.create fs (config.storeDirectory language) with ⟨opened, _ | _⟩
    · simp
    · dsimp only
      rw [flatMap_records_yieldOf]
      rcases written : Store.write opened (config.storeDirectory language)
          (config.recordsOf parser opened paths) with ⟨left', _ | _⟩ <;>
        simp [written, eq_comm]

/-- What keeps a run from ending well is a missing input directory or a store that cannot be opened,
and no source. -/
theorem exists_runLanguage_eq_ok_iff {language : Language} :
    (∃ left report, config.runLanguage parser fs language = (left, .ok report)) ↔
      (∃ top, fs.directory? config.inputDir = some top) ∧
        ∃ opened, Store.create fs (config.storeDirectory language) = (opened, .ok ()) := by
  constructor
  · rintro ⟨left, report, done⟩
    obtain ⟨paths, opened, found, created, -, -⟩ := runLanguage_eq_ok_iff.1 done
    obtain ⟨top, there, -⟩ := Source.findAll_eq_ok_iff.1 found
    exact ⟨⟨top, there⟩, opened, created⟩
  · rintro ⟨⟨top, there⟩, opened, created⟩
    obtain ⟨paths, found⟩ : ∃ paths,
        Source.findAll fs config.inputDir language.extension config.exclude = .ok paths :=
      ⟨_, Source.findAll_eq_ok_iff.2 ⟨top, there, rfl⟩⟩
    obtain ⟨left, written⟩ := Store.exists_write created (config.recordsOf parser opened paths)
    exact ⟨left, _, runLanguage_eq_ok_iff.2 ⟨paths, opened, found, created, written, rfl⟩⟩

theorem toOption_load_of_mem {language : Language} {paths : List String}
    (wellFormed : fs.WellFormed)
    (found : Source.findAll fs config.inputDir language.extension config.exclude = .ok paths)
    (created : Store.create fs (config.storeDirectory language) = (opened, .ok ())) :
    ∀ path ∈ paths, (Source.load parser config.parser.dialect opened path).toOption =
      (Source.load parser config.parser.dialect fs path).toOption := by
  obtain ⟨top, there, rfl⟩ := Source.findAll_eq_ok_iff.1 found
  intro path mem
  obtain ⟨names, listed, rfl⟩ := List.mem_map.1 mem
  have lists := (Source.mem_filter_filesBelow_iff there).1 listed
  exact lists.toOption_load_of_create wellFormed (storeDirectory_ne_empty language) created

theorem recordsOf_of_create {language : Language} {paths : List String}
    (wellFormed : fs.WellFormed)
    (found : Source.findAll fs config.inputDir language.extension config.exclude = .ok paths)
    (created : Store.create fs (config.storeDirectory language) = (opened, .ok ())) :
    config.recordsOf parser opened paths = config.recordsOf parser fs paths :=
  List.flatMap_congr fun path mem =>
    recordsAt_congr (toOption_load_of_mem wellFormed found created path mem)

/-- Without one source that could not be loaded there are the same records. -/
theorem recordsOf_erase {language : Language} {top names : Route} {paths paths' : List String}
    (wellFormed : fs.WellFormed)
    (lists : Source.Lists fs config.inputDir language.extension config.exclude top names)
    (unloaded : config.loads parser fs (names.foldl Path.join config.inputDir) = false)
    (found : Source.findAll fs config.inputDir language.extension config.exclude = .ok paths)
    (found' : Source.findAll (fs.erase (top ++ names)) config.inputDir language.extension
      config.exclude = .ok paths') :
    config.recordsOf parser (fs.erase (top ++ names)) paths' =
      config.recordsOf parser fs paths := by
  have nonempty : language.extension ≠ "" := by cases language; decide
  have plain : language.extension.toList.getLast? ≠ some 'n' := by cases language; decide
  obtain ⟨contents, file⟩ := lists.exists_lookup wellFormed nonempty
  obtain ⟨top', there, rfl⟩ := Source.findAll_eq_ok_iff.1 found
  obtain rfl := Option.some.inj (there.symm.trans lists.found)
  rw [Source.findAll_erase lists file, Except.ok.injEq] at found'
  subst found'
  simp only [recordsOf, List.flatMap_map]
  refine flatMap_filter_eq (fun other mem kept => ?_) fun other mem dropped => ?_
  · have lists' := (Source.mem_filter_filesBelow_iff there).1 mem
    exact recordsAt_congr (lists.toOption_load_erase lists' wellFormed nonempty plain
      (by simpa using kept) file)
  · obtain rfl : other = names := by simpa using dropped
    exact recordsAt_of_not_loads unloaded

/-- A run ends as well without a source that could not be loaded, and stores the same. -/
theorem exists_runLanguage_erase {language : Language} {report : LanguageReport}
    {top names : Route} (wellFormed : fs.WellFormed)
    (done : config.runLanguage parser fs language = (left, .ok report))
    (lists : Source.Lists fs config.inputDir language.extension config.exclude top names)
    (unloaded : config.loads parser fs (names.foldl Path.join config.inputDir) = false) :
    ∃ left' report',
      config.runLanguage parser (fs.erase (top ++ names)) language = (left', .ok report') ∧
      left'.readFile (Store.filePath (config.storeDirectory language)) =
        left.readFile (Store.filePath (config.storeDirectory language)) := by
  obtain ⟨paths, opened, found, created, written, -⟩ := runLanguage_eq_ok_iff.1 done
  obtain ⟨contents, file⟩ := lists.exists_lookup wellFormed (by cases language; decide)
  obtain ⟨opened', created'⟩ := Store.exists_create_of_lacks (.erase file) created
  have found' := Source.findAll_erase lists file
  have same : config.recordsOf parser opened' _ = config.recordsOf parser opened paths :=
    (recordsOf_of_create (wellFormed.erase file) found' created').trans
      ((recordsOf_erase wellFormed lists unloaded found found').trans
        (recordsOf_of_create wellFormed found created).symm)
  obtain ⟨left', written'⟩ := Store.exists_write created' (config.recordsOf parser opened' _)
  refine ⟨left', _, runLanguage_eq_ok_iff.2 ⟨_, opened', found', created', written', rfl⟩, ?_⟩
  rw [Store.readFile_of_write written', Store.readFile_of_write written, same]

/-- However a run ends, what it leaves is well-formed. -/
theorem wellFormed_runLanguage (wellFormed : fs.WellFormed) (language : Language) :
    (config.runLanguage parser fs language).1.WellFormed := by
  have created := Store.wellFormed_create wellFormed (config.storeDirectory language)
  rw [runLanguage]
  cases Source.findAll fs config.inputDir language.extension config.exclude with
  | error error => exact wellFormed
  | ok paths =>
    dsimp only
    rcases outcome : Store.create fs (config.storeDirectory language) with ⟨opened, _ | _⟩ <;>
      rw [outcome] at created
    · exact created
    · dsimp only
      have written := Store.wellFormed_write created (config.storeDirectory language)
        ((paths.map (config.yieldOf parser opened)).flatMap Yield.records)
      rcases outcome : Store.write opened (config.storeDirectory language)
        ((paths.map (config.yieldOf parser opened)).flatMap Yield.records) with ⟨left, _ | _⟩ <;>
      · rw [outcome] at written
        exact written

theorem wellFormed_runLanguages (wellFormed : fs.WellFormed) (languages : List Language) :
    (config.runLanguages parser fs languages).1.WellFormed := by
  induction languages generalizing fs with
  | nil => exact wellFormed
  | cons language rest ih =>
    have first : (config.runLanguage parser fs language).1.WellFormed :=
      wellFormed_runLanguage wellFormed language
    rw [runLanguages]
    rcases outcome : config.runLanguage parser fs language with ⟨fs', _ | _⟩ <;>
      rw [outcome] at first
    · exact first
    · dsimp only
      have others := ih first
      rcases outcome : config.runLanguages parser fs' rest with ⟨left, _ | _⟩ <;>
      · rw [outcome] at others
        exact others

theorem runLanguages_cons_eq_ok_iff {language : Language} {rest : List Language}
    {reports : List LanguageReport} :
    config.runLanguages parser fs (language :: rest) = (left, .ok reports) ↔
      ∃ middle report others, config.runLanguage parser fs language = (middle, .ok report) ∧
        config.runLanguages parser middle rest = (left, .ok others) ∧
        reports = report :: others := by
  rw [runLanguages]
  rcases config.runLanguage parser fs language with ⟨middle, _ | report⟩
  · simp
  · dsimp only
    rcases further : config.runLanguages parser middle rest with ⟨left', _ | others⟩ <;>
      simp [further, eq_comm]

theorem runLanguages_singleton_eq_ok_iff {language : Language} {reports : List LanguageReport} :
    config.runLanguages parser fs [language] = (left, .ok reports) ↔
      ∃ report, config.runLanguage parser fs language = (left, .ok report) ∧
        reports = [report] := by
  rw [runLanguages_cons_eq_ok_iff]
  simp [runLanguages, eq_comm]

end Config

namespace Pipeline

theorem config_eq_of_ofConfig {config : Config} {pipeline : Pipeline}
    (h : ofConfig config = .ok pipeline) : pipeline.config = config := by
  unfold ofConfig at h
  split at h
  · rw [← Except.ok.inj h]
  · cases h

/-- However a run ends, what it leaves is well-formed. -/
theorem wellFormed_run (pipeline : Pipeline) (parser : String → SyntaxTree) {fs : FileSystem}
    (wellFormed : fs.WellFormed) : (pipeline.run parser fs).1.WellFormed :=
  Config.wellFormed_runLanguages wellFormed _

/-- A run over one language that ends well leaves a store with the records of all sources that are
listed, in that order, each on a line of its own: of a source that is loaded its survivors, which
stand in the order of the tree, and of any other source none. A line can be read back, and gives the
identifier, the label, the path and the subtree of its record. The report counts the sources, those
that are not loaded, and the lines. Neither opening the store nor taking away a source that is not
loaded changes a line. -/
theorem stores_survivors (config : Config) (pipeline : Pipeline) (parser : String → SyntaxTree)
    (fs left : FileSystem) (reports : List LanguageReport)
    (accepted : ofConfig config = .ok pipeline) (single : config.parser.languages = [.java])
    (done : pipeline.run parser fs = (left, .ok reports)) :
    ∃ paths opened report text,
      Source.findAll fs config.inputDir "java" config.exclude = .ok paths ∧
      Store.create fs (Path.join config.outputDir "java") = (opened, .ok ()) ∧
      left.readFile (Path.join (Path.join config.outputDir "java") "labeled.jsonl") =
        .ok text.toUTF8 ∧
      text = String.join ((config.recordsOf parser opened paths).map Record.line) ∧
      (∃ lines, text = String.join (lines.map (· ++ "\n")) ∧
        List.Forall₂ Record.IsLine (config.recordsOf parser opened paths) lines) ∧
      (∀ (tree : Tree) (path : String),
        ((Split.ofNode config.parser.dialect path tree.root).signatures.map
          Signature.root).Sublist tree.root.preOrder) ∧
      reports = [report] ∧
      report.fileCount = paths.length ∧
      report.filesSkipped = paths.countP (!config.loads parser opened ·) ∧
      report.storedCount = (config.recordsOf parser opened paths).length ∧
      report.storedCount = text.toList.count '\n' ∧
      (fs.WellFormed →
        config.recordsOf parser opened paths = config.recordsOf parser fs paths ∧
        report.filesSkipped = paths.countP (!config.loads parser fs ·) ∧
        ∀ top names, Source.Lists fs config.inputDir "java" config.exclude top names →
          config.loads parser fs (names.foldl Path.join config.inputDir) = false →
          ∃ left' reports',
            pipeline.run parser (fs.erase (top ++ names)) = (left', .ok reports') ∧
            left'.readFile (Path.join (Path.join config.outputDir "java") "labeled.jsonl") =
              .ok text.toUTF8) := by
  obtain rfl := config_eq_of_ofConfig accepted
  rw [run, single] at done
  obtain ⟨report, ran, rfl⟩ := Config.runLanguages_singleton_eq_ok_iff.1 done
  obtain ⟨paths, opened, found, created, written, rfl⟩ := Config.runLanguage_eq_ok_iff.1 ran
  have stored := Store.readFile_of_write written
  have skipped : (Config.reportOn .java
      (paths.map (pipeline.config.yieldOf parser opened))).filesSkipped =
        paths.countP (!pipeline.config.loads parser opened ·) :=
    Config.countP_isSkipped_yieldOf paths
  have counted : (Config.reportOn .java
      (paths.map (pipeline.config.yieldOf parser opened))).storedCount =
        (pipeline.config.recordsOf parser opened paths).length := by
    rw [Config.reportOn, Config.total_map_length, Config.flatMap_records_yieldOf]
  refine ⟨paths, opened, _, _, found, created, stored, rfl,
    ⟨_, Store.contents_eq_join_lines _, Store.forall₂_isLine _⟩,
    fun tree path => Split.roots_sublist _ path tree.root, rfl, List.length_map _, skipped, counted,
    ?_, fun wellFormed => ?_⟩
  · rw [counted, Store.count_newline_contents]
  refine ⟨Config.recordsOf_of_create wellFormed found created,
    skipped.trans (List.countP_congr fun path mem => ?_), fun top names lists unloaded => ?_⟩
  · rw [Config.loads, Config.loads, Config.toOption_load_of_mem wellFormed found created path mem]
  · obtain ⟨left', report', ran', same⟩ :=
      Config.exists_runLanguage_erase wellFormed ran lists unloaded
    refine ⟨left', [report'], ?_, same.trans stored⟩
    rw [run, single]
    exact Config.runLanguages_singleton_eq_ok_iff.2 ⟨report', ran', rfl⟩

namespace Sample

/-- A source with a method, one that is no text, and a store with a line from before. -/
def files : FileSystem where
  items := [
    (["out"], .directory), (["out", "java"], .directory),
    (["out", "java", "labeled.jsonl"], .file "old\n".toUTF8),
    (["src"], .directory),
    (["src", "A.java"], .file "int f();".toUTF8), (["src", "B.java"], .file ⟨#[0xff]⟩)]
  ordered := by unfold FileSystem.Ordered; decide

/-- The parser that sees one method in every text. -/
def parser (text : String) : SyntaxTree :=
  ⟨"program", true, none, text, [⟨"method_declaration", true, none, text, [
    ⟨"integral_type", true, some .type, "int", []⟩, ⟨"identifier", true, some .name, "f", []⟩]⟩]⟩

/-- Methods with a name of one word are stored. -/
def config : Config :=
  { Config.initial with inputDir := "src", outputDir := "out", filters := [.nameWords 1] }

/-- The pipeline of the configuration. -/
def pipeline : Pipeline := ⟨config, rfl⟩

end Sample

/-- The line from before is gone, and the source that is no text is counted and changes nothing. -/
theorem stores_survivors_next_to_unreadable :
    ∃ left left' report reports' line, ∃ record : Record,
      ofConfig Sample.config = .ok Sample.pipeline ∧
      Sample.pipeline.run Sample.parser Sample.files = (left, .ok [report]) ∧
      left.readFile "out/java/labeled.jsonl" = .ok (line ++ "\n").toUTF8 ∧
      record.IsLine line ∧ record.label = "f" ∧ record.path = "src/A.java" ∧
      report.fileCount = 2 ∧ report.filesSkipped = 1 ∧ report.storedCount = 1 ∧
      Sample.pipeline.run Sample.parser (Sample.files.erase ["src", "B.java"]) =
        (left', .ok reports') ∧
      left'.readFile "out/java/labeled.jsonl" = .ok (line ++ "\n").toUTF8 := by
  have accepted : ofConfig Sample.config = .ok Sample.pipeline := rfl
  have counts : (Sample.pipeline.run Sample.parser Sample.files).2.toOption.map (·.map fun report =>
      (report.fileCount, report.filesSkipped, report.storedCount)) = some [(2, 1, 1)] := by
    decide +kernel
  have listed : Source.findAll Sample.files "src" "java" [] = .ok ["src/A.java", "src/B.java"] := by
    decide +kernel
  have kept : (Sample.config.recordsOf Sample.parser Sample.files
      ["src/A.java", "src/B.java"]).map (fun record => (record.label, record.path)) =
        [("f", "src/A.java")] := by
    decide +kernel
  have place : Path.join (Path.join Sample.config.outputDir "java") "labeled.jsonl" =
      "out/java/labeled.jsonl" := by
    decide +kernel
  rcases ran : Sample.pipeline.run Sample.parser Sample.files with ⟨left, error | reports⟩ <;>
    rw [ran] at counts
  · cases counts
  obtain ⟨paths, opened, report, text, found, -, stored, -, ⟨lines, whole, each⟩, -, rfl, -, -, -,
      -, further⟩ :=
    stores_survivors Sample.config Sample.pipeline Sample.parser Sample.files left reports accepted
      rfl ran
  obtain rfl := Except.ok.inj (found.symm.trans listed)
  obtain ⟨before, -, erased⟩ := further (by decide +kernel)
  obtain ⟨left', reports', ran', stored'⟩ := erased ["src"] ["B.java"]
    ⟨by decide +kernel, by decide +kernel, by decide +kernel⟩ (by decide +kernel)
  obtain ⟨record, only, labeled⟩ := List.map_eq_singleton_iff.1 kept
  obtain ⟨label, path⟩ := Prod.mk.inj labeled
  rw [before, only] at each
  obtain ⟨line, others, isLine, none, rfl⟩ := List.forall₂_cons_left_iff.1 each
  obtain rfl := List.forall₂_nil_left_iff.1 none
  rw [List.map_singleton, String.join_cons, String.join_nil, String.append_empty] at whole
  rw [place, whole] at stored stored'
  simp only [Except.toOption, Option.map_some, List.map_cons, List.map_nil, Option.some.injEq,
    List.cons.injEq, Prod.mk.injEq, and_true] at counts
  exact ⟨left, left', report, reports', line, record, accepted, rfl, stored, isLine, label, path,
    counts.1, counts.2.1, counts.2.2, ran', stored'⟩

end Pipeline

end MethodCorpus
