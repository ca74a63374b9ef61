import MethodCorpus.CommandLine.Arguments
import MethodCorpus.Config.File
import MethodCorpus.Corpus.Run
import MethodCorpus.Signature.Encoding

/-!
# The program

What each command does to a file system, and what the program says in the end. The time that a run
took is put into the answer afterwards, so the answer itself does not depend on it.
-/

namespace MethodCorpus.CommandLine

/-- What a command has come to. -/
inductive Answer where
  /-- A configuration was written to a path. -/
  | saved (path : String)
  /-- A configuration was run. -/
  | ran (config : Config) (languages : List LanguageReport) (asJson : Bool)
  /-- The methods of a source, and what was left out. -/
  | methods (summaries : List Summary) (diagnostics : List Diagnostic)

/-- Where a configuration is written if no path is given. -/
def defaultConfigPath : String := "funcminer.json"

/-- Where an initial configuration is written. -/
def configPath (path : Option String) : String := path.getD defaultConfigPath

/-- The initial configuration, with another input directory if there is one. -/
def initialConfig (input : Option String) : Config :=
  { Config.initial with inputDir := input.getD Config.initial.inputDir }

/-- Writes an initial configuration. -/
def init (path input : Option String) (fs : FileSystem) : FileSystem × Except Error Answer :=
  match (initialConfig input).save fs (configPath path) with
  | (fs, .error error) => (fs, .error error)
  | (fs, .ok ()) => (fs, .ok (.saved (configPath path)))

/-- Runs the configuration at a path. -/
def run (parser : String → SyntaxTree) (path : String) (asJson : Bool) (fs : FileSystem) :
    FileSystem × Except Error Answer :=
  match (Config.load fs path).bind Pipeline.ofConfig with
  | .error error => (fs, .error error)
  | .ok pipeline =>
    match pipeline.run parser fs with
    | (fs, .error error) => (fs, .error error)
    | (fs, .ok languages) => (fs, .ok (.ran pipeline.config languages asJson))

/-- The dialect that a parser is named after. -/
def dialectOf (parser : String) : Except Error Dialect :=
  match Config.dialectNamed? parser with
  | some dialect => .ok dialect
  | none => .error (.config s!"unknown parser '{parser}', expected 'srcml' or 'antlr'")

/-- Reads the methods of one source. -/
def split (parser : String → SyntaxTree) (file parserName : String) (fs : FileSystem) :
    Except Error Answer := do
  let dialect ← dialectOf parserName
  let tree ← Source.load parser dialect fs file
  let found := Split.ofNode dialect file tree.root
  return .methods (found.signatures.map Signature.summary) found.diagnostics

/-- Does what a command asks for. -/
def execute (parser : String → SyntaxTree) (command : Command) (fs : FileSystem) :
    FileSystem × Except Error Answer :=
  match command with
  | .init path input => init path input fs
  | .run config asJson => run parser config asJson fs
  | .split file parserName => (fs, split parser file parserName fs)

/-- Does what the arguments ask for; nothing at all if they are not used rightly. -/
def perform (parser : String → SyntaxTree) (arguments : List String) (fs : FileSystem) :
    FileSystem × Option (Except Error Answer) :=
  match command? arguments with
  | none => (fs, none)
  | some command =>
    match execute parser command fs with
    | (fs, result) => (fs, some result)

/-- The status with which the program ends. -/
def status : Option (Except Error Answer) → UInt32
  | some (.ok _) => 0
  | some (.error _) => 1
  | none => 2

/-- A report on a language for a reader. -/
def languageLines (report : LanguageReport) : List String :=
  [report.language,
    s!"  Files:       {report.fileCount}",
    s!"  Skipped:     {report.filesSkipped}",
    s!"  Stored:      {report.storedCount}",
    s!"  Diagnostics: {report.diagnostics.length}"]

/-- Lines one after the other. -/
def unlines (lines : List String) : String := String.join (lines.map (· ++ "\n"))

namespace Answer

/-- What is printed, given the time that was taken. -/
def output (answer : Answer) (duration : Nat) : String :=
  match answer with
  | saved path => unlines [s!"Wrote default config to {path}"]
  | ran config languages asJson =>
    let report : RunReport := ⟨languages, duration⟩
    if asJson then unlines [report.toJson.pretty]
    else unlines (languages.flatMap languageLines ++
      [s!"Stored {report.storedCount} units under {config.outputDir} in {duration}ms"])
  | methods summaries _ => unlines [(Json.ofList Summary.toJson summaries).pretty]

/-- What is remarked beside the output. -/
def remark : Answer → String
  | methods _ diagnostics =>
    let dropped := diagnostics.countP (·.kind.dropsUnit)
    let omitted := diagnostics.length - dropped
    if diagnostics.isEmpty then ""
    else unlines [s!"{dropped} function(s) dropped, {omitted} field entries omitted"]
  | _ => ""

end Answer

/-- What is remarked on a failure. -/
def failure (error : Error) : String := unlines [s!"Error: {error.text}"]

end MethodCorpus.CommandLine
