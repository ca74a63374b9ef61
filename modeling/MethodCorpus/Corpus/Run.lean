import MethodCorpus.Config.Basic
import MethodCorpus.Corpus.Report
import MethodCorpus.Corpus.Store

/-!
# Runs

A run finds the sources of each language, reads them one by one, and stores the units that pass all
filters and have a label. A source that cannot be read is noted and skipped; a store that cannot be
written ends the run.

Everything that a run does happens in a file system that it is given, and it yields the one it
leaves behind. Whether the filters of a configuration fit its units is settled before
(`Pipeline.ofConfig`), so a configuration that does not fit touches no file.
-/

namespace MethodCorpus

/-- What came of one source. -/
structure Yield where
  /-- What is stored, in the order of the tree. -/
  records : List Record
  diagnostics : List Diagnostic
  isSkipped : Bool

namespace Config

variable (config : Config) {tree : Tree}

/-- A whole file as a unit, if it is kept. -/
def fileUnits (tree : Tree) (path : String) : List (LabeledUnit tree) :=
  if config.filters.all (·.acceptsFile? tree.root == some true) then
    (config.labeling.fileLabel? path).toList.map fun label => ⟨tree.root, label, path⟩
  else []

/-- Whether all filters accept a method. -/
def keeps (signature : Signature tree) : Bool := config.filters.all (·.accepts signature)

/-- The methods that are kept and have a label. -/
def functionUnits (signatures : List (Signature tree)) : List (LabeledUnit tree) :=
  (signatures.filter config.keeps).filterMap fun signature =>
    (config.labeling.functionLabel? signature).map fun label =>
      ⟨signature.root, label, signature.filePath⟩

/-- What comes of a tree. A whole file is not split into methods, so nothing of it is left out. -/
def yieldOfTree (tree : Tree) (path : String) : Yield :=
  match config.labeling.granularity with
  | .file => ⟨(config.fileUnits tree path).map LabeledUnit.record, [], false⟩
  | .function =>
    let split := Split.ofNode config.parser.dialect path tree.root
    ⟨(config.functionUnits split.signatures).map LabeledUnit.record, split.diagnostics, false⟩

/-- What comes of a source that could not be read. -/
def yieldOfError (path : String) (error : Error) : Yield :=
  ⟨[], [⟨.unreadableFile, path, none, error.text⟩], true⟩

/-- What comes of the source at a path. -/
def yieldOf (parser : String → SyntaxTree) (fs : FileSystem) (path : String) : Yield :=
  match Source.load parser config.parser.dialect fs path with
  | .ok tree => config.yieldOfTree tree path
  | .error error => yieldOfError path error

/-- Where the units of a language are stored. -/
def storeDirectory (language : Language) : String := Path.join config.outputDir language.extension

/-- The report on the sources of a language. -/
def reportOn (language : Language) (yields : List Yield) : LanguageReport where
  language := language.name
  fileCount := yields.length
  filesSkipped := yields.countP Yield.isSkipped
  storedCount := total (yields.map (·.records.length))
  diagnostics := yields.flatMap Yield.diagnostics

/-- Reads the sources of one language and stores what is kept of them. -/
def runLanguage (parser : String → SyntaxTree) (fs : FileSystem) (language : Language) :
    FileSystem × Except Error LanguageReport :=
  match Source.findAll fs config.inputDir language.extension config.exclude with
  | .error error => (fs, .error error)
  | .ok paths =>
    match Store.create fs (config.storeDirectory language) with
    | (fs, .error error) => (fs, .error error)
    | (fs, .ok ()) =>
      let yields := paths.map (config.yieldOf parser fs)
      match Store.write fs (config.storeDirectory language) (yields.flatMap Yield.records) with
      | (fs, .error error) => (fs, .error error)
      | (fs, .ok ()) => (fs, .ok (reportOn language yields))

/-- Goes through languages in order, up to the first one that ends the run. -/
def runLanguages (parser : String → SyntaxTree) (fs : FileSystem) :
    List Language → FileSystem × Except Error (List LanguageReport)
  | [] => (fs, .ok [])
  | language :: rest =>
    match config.runLanguage parser fs language with
    | (fs, .error error) => (fs, .error error)
    | (fs, .ok report) =>
      match runLanguages parser fs rest with
      | (fs, .error error) => (fs, .error error)
      | (fs, .ok reports) => (fs, .ok (report :: reports))

end Config

/-- A configuration whose filters fit its units. -/
structure Pipeline where
  config : Config
  fits : config.misfit? = none

namespace Pipeline

/-- The pipeline of a configuration, if its filters fit. -/
def ofConfig (config : Config) : Except Error Pipeline :=
  match fits : config.misfit? with
  | none => .ok ⟨config, fits⟩
  | some filter =>
    .error (.config s!"filter '{filter.name}' cannot be applied to file-level units")

/-- Runs a pipeline in a file system, with a parser for the sources. -/
def run (pipeline : Pipeline) (parser : String → SyntaxTree) (fs : FileSystem) :
    FileSystem × Except Error (List LanguageReport) :=
  pipeline.config.runLanguages parser fs pipeline.config.parser.languages

end Pipeline

end MethodCorpus
