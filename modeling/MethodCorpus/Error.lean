/-!
# Errors

The ways in which building a tree, reading a method out of it, or running over a directory of
sources can fail. An error names its kind and what it is about; `Error.text` is the one place where
the wording is kept.
-/

namespace MethodCorpus

/-- A failure, with the texts that its report mentions. -/
inductive Error where
  /-- A file or directory could not be read. -/
  | file (message path : String)
  /-- A file was read but holds no tree. -/
  | parse (message path : String)
  /-- A tree breaks the rule that exactly the leaves carry tokens, or its nodes do not fit. -/
  | malformedTree (message label : String)
  /-- A token was asked of an inner node. -/
  | notALeaf (label : String)
  /-- A node lacks a child that its rule requires. -/
  | missingNode (expected parent : String)
  /-- A parameter has no name. -/
  | missingParameterName (label : String)
  /-- A type has no text. -/
  | missingTypeToken (message : String)
  /-- A configuration cannot be read, written or used. -/
  | config (message : String)
  /-- The store of labelled units cannot be written. -/
  | storage (message path : String)
  /-- A text is not the JSON that was expected. -/
  | json (detail : String)
  deriving DecidableEq

namespace Error

/-- The report of a failure. -/
def text : Error → String
  | file message path => s!"file error: {message} (path: {path})"
  | parse message path => s!"parse error: {message} (path: {path})"
  | malformedTree message label => s!"malformed tree: {message} (label: {label})"
  | notALeaf label => s!"node '{label}' is not a leaf and has no token"
  | missingNode expected parent => s!"required node '{expected}' not found under '{parent}'"
  | missingParameterName label => s!"parameter name was not found (parameter node: {label})"
  | missingTypeToken message => s!"type token missing: {message}"
  | config message => s!"config error: {message}"
  | storage message path => s!"storage error: {message} (path: {path})"
  | json detail => s!"json error: {detail}"

end Error

end MethodCorpus
