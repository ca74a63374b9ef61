import MethodCorpus.Error

/-!
# Diagnostics

A diagnostic records that something was left out of the result without stopping the work: a whole
unit (a method or a file), or one entry of a list that belongs to a method.
-/

namespace MethodCorpus

/-- What was left out, or why. -/
inductive DiagnosticKind where
  | missingParameterName
  | missingTypeToken
  | missingNode
  | notALeaf
  | missingAnnotationName
  | missingModifierText
  | unreadableFile
  deriving DecidableEq

namespace DiagnosticKind

/-- Every kind. -/
def all : List DiagnosticKind :=
  [missingParameterName, missingTypeToken, missingNode, notALeaf, missingAnnotationName,
    missingModifierText, unreadableFile]

/-- The kind's name in a report. -/
def name : DiagnosticKind → String
  | missingParameterName => "MissingParameterName"
  | missingTypeToken => "MissingTypeToken"
  | missingNode => "MissingNode"
  | notALeaf => "NotALeaf"
  | missingAnnotationName => "MissingAnnotationName"
  | missingModifierText => "MissingModifierText"
  | unreadableFile => "UnreadableFile"

/-- The kind's short code, in lower case. -/
def code : DiagnosticKind → String
  | missingParameterName => "missing_parameter_name"
  | missingTypeToken => "missing_type_token"
  | missingNode => "missing_node"
  | notALeaf => "not_a_leaf"
  | missingAnnotationName => "missing_annotation_name"
  | missingModifierText => "missing_modifier_text"
  | unreadableFile => "unreadable_file"

/-- The kind that has a given name. -/
def ofName? (name : String) : Option DiagnosticKind :=
  all.find? (·.name == name)

/-- Whether a whole unit was left out, and not just one entry of a list. -/
def dropsUnit : DiagnosticKind → Bool
  | missingAnnotationName | missingModifierText => false
  | _ => true

/-- A kind is found by its name. -/
theorem ofName?_name (kind : DiagnosticKind) : ofName? kind.name = some kind := by
  cases kind <;> decide

end DiagnosticKind

/-- A problem that was stepped over, and where it stood. -/
structure Diagnostic where
  kind : DiagnosticKind
  filePath : String
  /-- The method concerned, if it has a name. -/
  function : Option String
  message : String
  deriving DecidableEq

namespace Diagnostic

/-- The kind under which a failure is recorded; one that does not concern the inside of a method
means that the file was not read. -/
def kindOf : Error → DiagnosticKind
  | .missingParameterName _ => .missingParameterName
  | .missingTypeToken _ => .missingTypeToken
  | .notALeaf _ => .notALeaf
  | .missingNode _ _ => .missingNode
  | _ => .unreadableFile

/-- A failure as a diagnostic. -/
def ofError (error : Error) (filePath : String) (function : Option String) : Diagnostic where
  kind := kindOf error
  filePath := filePath
  function := function
  message := error.text

end Diagnostic

end MethodCorpus
