import MethodCorpus.Proofs.Corpus.Run
import MethodCorpus.Proofs.FileSystem.Repetition

/-!
# A run after a run

A run leaves the file system as it was, but for the directories of its store and the one file in it,
which is neither a source nor a dump and is emptied when the store is opened. So the next run opens
its store in the very file system in which the first one did, and whatever comes of the sources
comes of them again.

* `Store.create_again`: a store that was written is opened as it was before;
* `Source.findAll_of_write`: the same sources are listed afterwards;
* `Config.runLanguage_again`: the same run over a language;
* `Config.runLanguages_eq_ok_iff`: a run over several languages, of which there is only one;
* `Pipeline.forall₂_of_run`: a run over all languages, taken apart;
* `Pipeline.run_again`: the same run.
-/

namespace MethodCorpus

open FileSystem

variable {fs opened left : FileSystem} {directory : String} {records : List Record} {top : Route}

/-! ## Stores -/

namespace Store

/-- The store that is opened and the one that is written differ in what is put at one place. -/
theorem exists_place (created : create fs directory = (opened, .ok ()))
    (written : write opened directory records = (left, .ok ())) :
    ∃ made place, fs.createDirectories directory = (made, none) ∧
      made.goal (filePath directory) = .ok (.name place false) ∧
      made.lookup place ≠ some .directory ∧
      opened = made.put place (.file .empty) ∧
      left = made.put place (.file (contents records).toUTF8) := by
  obtain ⟨made, directories, emptied⟩ := create_eq_ok_iff.1 created
  obtain ⟨place, named, noDirectory, rfl⟩ := writeFile_eq_ok_iff.1 emptied
  obtain ⟨place', named', -, rfl⟩ := writeFile_eq_ok_iff.1 (write_eq_ok_iff.1 written)
  -- the empty file is no directory, so the path still names the same place
  rw [goal_of_keeps (keeps_put noDirectory) named, Except.ok.injEq, Goal.name.injEq] at named'
  obtain ⟨rfl, -⟩ := named'
  exact ⟨made, place, directories, named, noDirectory, rfl, put_put made place _ _⟩

/-- A store that was written is opened again as it was opened before. -/
theorem create_again (created : create fs directory = (opened, .ok ()))
    (written : write opened directory records = (left, .ok ())) :
    create left directory = (opened, .ok ()) := by
  obtain ⟨made, place, directories, named, noDirectory, rfl, rfl⟩ := exists_place created written
  have keeps : Keeps made (made.put place (.file (contents records).toUTF8)) :=
    keeps_put noDirectory
  have below : place ≠ [] := fun root => noDirectory (root ▸ lookup_nil made)
  refine create_eq_ok_iff.2 ⟨_, createDirectories_again directories keeps,
    writeFile_eq_ok_iff.2 ⟨place, goal_of_keeps keeps named, ?_, (put_put made place _ _).symm⟩⟩
  rw [lookup_put_self below]
  simp

theorem keeps_of_write (created : create fs directory = (opened, .ok ()))
    (written : write opened directory records = (left, .ok ())) : Keeps fs left := by
  obtain ⟨made, place, directories, -, noDirectory, -, rfl⟩ := exists_place created written
  exact (adds_of_createDirectories directories).keeps.trans (keeps_put noDirectory)

/-- The files that are wanted are the same when a store was written, if no file with the name of the
store's is wanted. -/
theorem filter_filesBelow_of_write {wanted : Route → Bool} (nonempty : directory ≠ "")
    (isDirectory : fs.lookup top = some .directory)
    (unwanted : ∀ front, wanted (front ++ [fileName]) = false)
    (created : create fs directory = (opened, .ok ()))
    (written : write opened directory records = (left, .ok ())) :
    (left.filesBelow top).filter wanted = (fs.filesBelow top).filter wanted := by
  obtain ⟨made, place, directories, named, noDirectory, -, rfl⟩ := exists_place created written
  have ends := getLast?_of_goal_join nonempty isName_fileName named
  rw [filter_filesBelow_put _ fun names behind => ?_,
    filesBelow_of_createDirectories directories]
  subst behind
  -- the directory that is searched is not the store's file, so that has a name below it
  rcases List.eq_nil_or_concat' names with rfl | ⟨front, last, rfl⟩
  · rw [List.append_nil] at noDirectory
    exact absurd ((adds_of_createDirectories directories).keeps top isDirectory) noDirectory
  · rw [← List.append_assoc, List.getLast?_concat, Option.some.injEq] at ends
    subst ends
    exact unwanted front

end Store

/-! ## Sources -/

namespace Source

/-- A file is no source if its name has another extension, whatever stands before the name. -/
theorem isWanted_concat_eq_false {extension last : String} (root : String) (exclude : List String)
    (front : Route) (isName : Path.IsName last)
    (other : (Path.splitName last).2 ≠ some extension) :
    isWanted root extension exclude (front ++ [last]) = false := by
  rw [isWanted, Path.extension?, Path.fileName?_intercalate_concat isName, Option.bind_some,
    beq_eq_false_iff_ne.2 other, Bool.and_false, Bool.false_and]

/-- The same sources are listed when a store was written. -/
theorem findAll_of_write {root : String} {exclude paths : List String} {language : Language}
    (nonempty : directory ≠ "")
    (found : findAll fs root language.extension exclude = .ok paths)
    (created : Store.create fs directory = (opened, .ok ()))
    (written : Store.write opened directory records = (left, .ok ())) :
    findAll left root language.extension exclude = .ok paths := by
  obtain ⟨top, there, rfl⟩ := findAll_eq_ok_iff.1 found
  have unwanted front :
      isWanted root language.extension exclude (front ++ [Store.fileName]) = false :=
    isWanted_concat_eq_false root exclude front Store.isName_fileName (by cases language; decide)
  refine findAll_eq_ok_iff.2 ⟨top, directory?_of_keeps (Store.keeps_of_write created written) there,
    ?_⟩
  rw [Store.filter_filesBelow_of_write nonempty (directory?_eq_some_iff.1 there).2 unwanted created
    written]

end Source

/-! ## Runs -/

instance : Subsingleton Language := ⟨fun .java .java => rfl⟩

namespace Config

variable {config : Config} {parser : String → SyntaxTree} {language : Language}

/-- A run over a language that ended well comes out the same and changes nothing more. -/
theorem runLanguage_again {report : LanguageReport}
    (done : config.runLanguage parser fs language = (left, .ok report)) :
    config.runLanguage parser left language = (left, .ok report) := by
  obtain ⟨paths, opened, found, created, written, rfl⟩ := runLanguage_eq_ok_iff.1 done
  exact runLanguage_eq_ok_iff.2 ⟨paths, opened,
    Source.findAll_of_write (storeDirectory_ne_empty language) found created written,
    Store.create_again created written, written, rfl⟩

/-- Where a run over the language changes nothing, neither do more of them. -/
theorem runLanguages_of_fixed {report : LanguageReport}
    (fixed : config.runLanguage parser fs language = (fs, .ok report)) (languages : List Language) :
    config.runLanguages parser fs languages =
      (fs, .ok (List.replicate languages.length report)) := by
  induction languages with
  | nil => rfl
  | cons other rest ih =>
    obtain rfl := Subsingleton.elim other language
    exact runLanguages_cons_eq_ok_iff.2 ⟨fs, report, _, fixed, ih, rfl⟩

/-- There is only one language, so a run over several does the same over and over. -/
theorem runLanguages_eq_ok_iff {rest : List Language} {reports : List LanguageReport} :
    config.runLanguages parser fs (language :: rest) = (left, .ok reports) ↔
      ∃ report, config.runLanguage parser fs language = (left, .ok report) ∧
        reports = List.replicate (rest.length + 1) report := by
  rw [runLanguages_cons_eq_ok_iff]
  constructor
  · rintro ⟨middle, report, others, first, further, rfl⟩
    -- what the first language leaves is a fixed point of the others
    rw [runLanguages_of_fixed (runLanguage_again first), Prod.mk.injEq, Except.ok.injEq] at further
    obtain ⟨rfl, rfl⟩ := further
    exact ⟨report, first, rfl⟩
  · rintro ⟨report, first, rfl⟩
    exact ⟨left, report, _, first, runLanguages_of_fixed (runLanguage_again first) rest, rfl⟩

end Config

namespace Pipeline

/-- A run of which something is seen has ended well. -/
theorem exists_of_map_run {α : Type} {pipeline : Pipeline} {parser : String → SyntaxTree}
    {fs : FileSystem} {view : List LanguageReport → α} {seen : α}
    (h : (pipeline.run parser fs).2.toOption.map view = some seen) :
    ∃ left reports, pipeline.run parser fs = (left, .ok reports) ∧ view reports = seen := by
  obtain ⟨reports, ran, same⟩ := Option.map_eq_some_iff.1 h
  exact ⟨_, reports, Prod.ext rfl (toOption_eq_some_iff.1 ran), same⟩

/-- Where a pipeline ends well, a run over any one of its languages gives the report on it and leaves
the same behind. -/
theorem forall₂_of_run {pipeline : Pipeline} {parser : String → SyntaxTree}
    {reports : List LanguageReport} (done : pipeline.run parser fs = (left, .ok reports)) :
    List.Forall₂ (fun language report =>
        pipeline.config.runLanguage parser fs language = (left, .ok report))
      pipeline.config.parser.languages reports := by
  rw [run] at done
  cases languages : pipeline.config.parser.languages with
  | nil =>
    rw [languages] at done
    obtain rfl := Except.ok.inj (Prod.mk.inj done).2
    exact .nil
  | cons language rest =>
    rw [languages] at done
    obtain ⟨report, first, rfl⟩ := Config.runLanguages_eq_ok_iff.1 done
    have each : List.replicate (rest.length + 1) report =
        (language :: rest).map fun _ => report := by
      rw [List.map_const', List.length_cons]
    rw [each, List.forall₂_map_right_iff, List.forall₂_same]
    intro other _
    rwa [Subsingleton.elim other language]

/-- A pipeline that is run again after a run that ended well ends well again, with the same reports,
and leaves every file and every directory as they are. -/
theorem run_again (pipeline : Pipeline) (parser : String → SyntaxTree) (fs left : FileSystem)
    (reports : List LanguageReport) (done : pipeline.run parser fs = (left, .ok reports)) :
    pipeline.run parser left = (left, .ok reports) := by
  rw [run] at done ⊢
  cases languages : pipeline.config.parser.languages with
  | nil =>
    rw [languages] at done
    obtain rfl := Except.ok.inj (Prod.mk.inj done).2
    rfl
  | cons language rest =>
    rw [languages] at done
    obtain ⟨report, first, rfl⟩ := Config.runLanguages_eq_ok_iff.1 done
    exact Config.runLanguages_eq_ok_iff.2 ⟨report, Config.runLanguage_again first, rfl⟩

/-- The store may stand below the input directory and look like a source. -/
theorem run_again_into_input :
    ∃ pipeline left report,
      ofConfig { Sample.config with outputDir := "src/C.java" } = .ok pipeline ∧
      pipeline.run Sample.parser Sample.files = (left, .ok [report]) ∧
      report.fileCount = 2 ∧ report.filesSkipped = 1 ∧ report.storedCount = 1 ∧
      pipeline.run Sample.parser left = (left, .ok [report]) := by
  let pipeline : Pipeline := ⟨{ Sample.config with outputDir := "src/C.java" }, rfl⟩
  have counts : (pipeline.run Sample.parser Sample.files).2.toOption.map (·.map fun report =>
      (report.fileCount, report.filesSkipped, report.storedCount)) = some [(2, 1, 1)] := by
    decide +kernel
  obtain ⟨left, reports, ran, each⟩ := exists_of_map_run counts
  obtain ⟨report, rfl, counted⟩ := List.map_eq_singleton_iff.1 each
  obtain ⟨files, rest⟩ := Prod.mk.inj counted
  obtain ⟨skipped, stored⟩ := Prod.mk.inj rest
  exact ⟨pipeline, left, report, rfl, ran, files, skipped, stored,
    run_again pipeline Sample.parser Sample.files left [report] ran⟩

end Pipeline

end MethodCorpus
