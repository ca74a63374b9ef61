import MethodCorpus.Corpus.Filter
import MethodCorpus.Corpus.Labeling
import MethodCorpus.Corpus.Source

/-!
# Configurations

A configuration says where the sources are and where the corpus goes, how sources are read, which
units are kept, and what they are called.
-/

namespace MethodCorpus

/-- How a corpus is stored. -/
inductive StorageFormat where
  /-- A JSON value on each line of one file. -/
  | jsonLines
  deriving DecidableEq

/-- How sources are read. -/
structure ParserChoice where
  dialect : Dialect
  /-- The languages whose sources are read, one after the other. -/
  languages : List Language
  deriving DecidableEq

/-- What a run works on, and how. -/
structure Config where
  inputDir : String
  outputDir : String
  parser : ParserChoice
  /-- What a unit has to pass, in order. -/
  filters : List Filter
  labeling : Labeling
  storage : StorageFormat
  /-- Patterns for the paths, from the input directory on, of files that are left out. -/
  exclude : List String
  deriving DecidableEq

namespace Config

/-- The configuration that a new one starts from. -/
def initial : Config where
  inputDir := "."
  outputDir := "funcminer-out"
  parser := ⟨.srcml, [.java]⟩
  filters := []
  labeling := .functionName
  storage := .jsonLines
  exclude := []

/-- The first filter that does not apply to the units of the configuration. -/
def misfit? (config : Config) : Option Filter :=
  match config.labeling.granularity with
  | .file => config.filters.find? (!·.appliesToFiles)
  | .function => none

end Config

end MethodCorpus
