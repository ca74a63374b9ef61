import Mathlib.Data.List.Dedup
import MethodCorpus.Proofs.Corpus.Rerun

/-!
# What a report counts

A report on a language counts the lines that are in its store afterwards. The total over a run adds
up one report for each time that a language is named in the configuration. But a language that is
named again empties its store and fills it with the same lines, so the total counts each line as
often as its language is named.

* `FileSystem.lineCount`, `Config.linesOnDisk`: the lines that are there;
* `Config.lineCount_of_runLanguage`: those of one store;
* `Pipeline.storedCount_of_run`: those of all stores against the total.
-/

namespace MethodCorpus

theorem total_replicate (count n : Nat) : total (List.replicate count n) = count * n := by
  induction count with
  | zero => rw [Nat.zero_mul]; rfl
  | succ count ih => rw [List.replicate_succ, total, ih, Nat.succ_mul, Nat.add_comm]

/-- The number of lines of the text at a path; where no text can be read there are none. -/
def FileSystem.lineCount (fs : FileSystem) (path : String) : Nat :=
  match fs.readText path with
  | .ok text => text.toList.count '\n'
  | .error _ => 0

namespace Config

variable (config : Config)

/-- Where the records of a language are stored. -/
def storePath (language : Language) : String := Store.filePath (config.storeDirectory language)

/-- The stores of a configuration, each one once. -/
def storePaths : List String := (config.parser.languages.map config.storePath).dedup

/-- The number of lines in the stores of a configuration. -/
def linesOnDisk (fs : FileSystem) : Nat := total (config.storePaths.map fs.lineCount)

variable {config} {parser : String → SyntaxTree} {fs left : FileSystem} {language : Language}

/-- Languages are stored in one place, however often they are named. -/
theorem storePaths_eq {rest : List Language}
    (languages : config.parser.languages = language :: rest) :
    config.storePaths = [config.storePath language] := by
  have same : (language :: rest).map config.storePath =
      List.replicate (rest.length + 1) (config.storePath language) :=
    List.eq_replicate_iff.2 ⟨by simp, fun path mem => by
      obtain ⟨other, -, rfl⟩ := List.mem_map.1 mem
      rw [Subsingleton.elim other language]⟩
  rw [storePaths, languages, same, List.replicate_dedup (Nat.succ_ne_zero _)]

/-- The report on a language counts the lines that are in its store. -/
theorem lineCount_of_runLanguage {report : LanguageReport}
    (done : config.runLanguage parser fs language = (left, .ok report)) :
    (∃ text, left.readText (config.storePath language) = .ok text) ∧
      report.storedCount = left.lineCount (config.storePath language) := by
  obtain ⟨paths, opened, -, -, written, rfl⟩ := runLanguage_eq_ok_iff.1 done
  have stored : left.readText (config.storePath language) =
      .ok (Store.contents (config.recordsOf parser opened paths)) :=
    FileSystem.readText_eq_ok_iff.2 (Store.readFile_of_write written)
  refine ⟨⟨_, stored⟩, ?_⟩
  rw [FileSystem.lineCount, stored, reportOn, total_map_length, flatMap_records_yieldOf]
  exact (Store.count_newline_contents _).symm

/-- What a run over all languages reports in total, and what is in the stores then, both by the
report on one of them. -/
theorem exists_report_of_runLanguages {rest : List Language} {reports : List LanguageReport}
    (languages : config.parser.languages = language :: rest)
    (done : config.runLanguages parser fs (language :: rest) = (left, .ok reports)) :
    ∃ report, config.runLanguage parser fs language = (left, .ok report) ∧
      reports = List.replicate (rest.length + 1) report ∧
      config.linesOnDisk left = report.storedCount ∧
      ∀ duration, RunReport.storedCount ⟨reports, duration⟩ =
        (rest.length + 1) * report.storedCount := by
  obtain ⟨report, first, rfl⟩ := runLanguages_eq_ok_iff.1 done
  refine ⟨report, first, rfl, ?_, fun duration => ?_⟩
  · rw [linesOnDisk, storePaths_eq languages, List.map_singleton,
      ← (lineCount_of_runLanguage first).2]
    rfl
  · rw [RunReport.storedCount, List.map_replicate, total_replicate]

end Config

namespace Pipeline

/-- After a run that ended well every store can be read, and each report counts the lines in the
store of its language. The total counts each line once for every language that is named, so it is
the number of lines that are there only if one language is named at most, or if there is no line. -/
theorem storedCount_of_run (pipeline : Pipeline) (parser : String → SyntaxTree)
    (fs left : FileSystem) (reports : List LanguageReport) (duration : Nat)
    (done : pipeline.run parser fs = (left, .ok reports)) :
    List.Forall₂ (fun language report =>
        (∃ text, left.readText (pipeline.config.storePath language) = .ok text) ∧
          report.storedCount = left.lineCount (pipeline.config.storePath language))
      pipeline.config.parser.languages reports ∧
    RunReport.storedCount ⟨reports, duration⟩ =
      pipeline.config.parser.languages.length * pipeline.config.linesOnDisk left ∧
    (RunReport.storedCount ⟨reports, duration⟩ = pipeline.config.linesOnDisk left ↔
      pipeline.config.parser.languages.length ≤ 1 ∨ pipeline.config.linesOnDisk left = 0) := by
  rw [run] at done
  cases languages : pipeline.config.parser.languages with
  | nil =>
    rw [languages] at done
    obtain rfl := Except.ok.inj (Prod.mk.inj done).2
    simp [RunReport.storedCount, Config.linesOnDisk, Config.storePaths, languages, total]
  | cons language rest =>
    rw [languages] at done
    obtain ⟨report, first, rfl, lines, sum⟩ := Config.exists_report_of_runLanguages languages done
    obtain ⟨readable, counted⟩ := Config.lineCount_of_runLanguage first
    have each : List.replicate (rest.length + 1) report =
        (language :: rest).map fun _ => report := by
      rw [List.map_const', List.length_cons]
    rw [lines, sum, List.length_cons]
    refine ⟨?_, rfl, ?_⟩
    · rw [each, List.forall₂_map_right_iff, List.forall₂_same]
      intro other _
      rw [Subsingleton.elim other language]
      exact ⟨readable, counted⟩
    · rw [Nat.succ_mul, Nat.add_eq_right, Nat.mul_eq_zero]
      omega

/-- With one language the total is the number of lines. -/
theorem storedCount_of_run_next_to_unreadable :
    ∃ left report, Sample.pipeline.run Sample.parser Sample.files = (left, .ok [report]) ∧
      report.storedCount = left.lineCount (Sample.config.storePath .java) ∧
      RunReport.storedCount ⟨[report], 0⟩ = 1 ∧ Sample.config.linesOnDisk left = 1 := by
  have counts : (Sample.pipeline.run Sample.parser Sample.files).2.toOption.map (·.map
      LanguageReport.storedCount) = some [1] := by
    decide +kernel
  obtain ⟨left, reports, ran, each⟩ := exists_of_map_run counts
  obtain ⟨report, rfl, counted⟩ := List.map_eq_singleton_iff.1 each
  obtain ⟨stores, -, total⟩ := storedCount_of_run Sample.pipeline Sample.parser Sample.files left
    [report] 0 ran
  obtain ⟨⟨-, lines⟩, -⟩ := List.forall₂_cons.1 stores
  have stored : RunReport.storedCount ⟨[report], 0⟩ = 1 := congrArg (· + 0) counted
  exact ⟨left, report, ran, lines, stored, (total.2 (.inl (Nat.le_refl 1))).symm.trans stored⟩

namespace Sample

/-- The pipeline of the configuration with its language named twice. -/
def twice : Pipeline := ⟨{ config with parser := ⟨.srcml, [.java, .java]⟩ }, rfl⟩

end Sample

/-- The one line that is there is counted twice. -/
theorem storedCount_ne_linesOnDisk :
    ∃ left reports, Sample.twice.run Sample.parser Sample.files = (left, .ok reports) ∧
      RunReport.storedCount ⟨reports, 0⟩ = 2 ∧ Sample.twice.config.linesOnDisk left = 1 := by
  have counts : (Sample.twice.run Sample.parser Sample.files).2.toOption.map
      (RunReport.storedCount ⟨·, 0⟩) = some 2 := by
    decide +kernel
  obtain ⟨left, reports, ran, stored⟩ := exists_of_map_run counts
  obtain ⟨report, -, -, lines, sum⟩ := Config.exists_report_of_runLanguages rfl ran
  refine ⟨left, reports, ran, stored, lines.trans ?_⟩
  rw [sum] at stored
  exact Nat.eq_of_mul_eq_mul_left Nat.two_pos stored

end Pipeline

end MethodCorpus
