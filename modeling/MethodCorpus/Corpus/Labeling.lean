import MethodCorpus.Path
import MethodCorpus.Signature.Basic

/-!
# Labeling

What a unit is called, and with it what a unit is: whole files are labelled with a part of their
path, methods with their name. A unit without a label is left out.
-/

namespace MethodCorpus

/-- What makes up a unit. -/
inductive Granularity where
  | file
  | function
  deriving DecidableEq

/-- The granularity's name. -/
def Granularity.name : Granularity → String
  | file => "file"
  | function => "function"

/-- Where a unit's label comes from. -/
inductive Labeling where
  | fileName
  | folderName
  | functionName
  deriving DecidableEq

namespace Labeling

/-- Every labeling. -/
def all : List Labeling := [fileName, folderName, functionName]

/-- The labeling's name in a report. -/
def name : Labeling → String
  | fileName => "file name"
  | folderName => "folder name"
  | functionName => "function name"

/-- What a labeling gives labels to. -/
def granularity : Labeling → Granularity
  | fileName | folderName => .file
  | functionName => .function

/-- The label of a whole file, if the labeling gives it one. -/
def fileLabel? (labeling : Labeling) (path : String) : Option String :=
  match labeling with
  | fileName => Path.fileName? path
  | folderName => (Path.parent? path).bind Path.fileName?
  | functionName => none

/-- The label of a method, if the labeling gives it one. -/
def functionLabel? {tree : Tree} (labeling : Labeling) (signature : Signature tree) :
    Option String :=
  match labeling with
  | functionName => signature.name
  | _ => none

end Labeling

end MethodCorpus
