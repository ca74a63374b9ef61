import MethodCorpus.Count
import MethodCorpus.Diagnostic
import MethodCorpus.Json.Parser
import MethodCorpus.Json.Printer
import MethodCorpus.Json.Record

/-!
# Reports

What a run has done: for each language how many files there were, how many of them could not be
used, how many units were stored, and what was left out. A report is written as JSON and can be read
back.
-/

namespace MethodCorpus

namespace Diagnostic

/-- The diagnostic as a JSON value. -/
def toJson (diagnostic : Diagnostic) : Json :=
  .ofMembers [("kind", .ofText diagnostic.kind.name), ("file_path", .ofText diagnostic.filePath),
    ("function", .ofOption .ofText diagnostic.function), ("message", .ofText diagnostic.message)]

/-- The diagnostic that a JSON value describes. -/
def ofJson? (value : Json) : Option Diagnostic := do
  match ← value.fields? ["kind", "file_path", "function", "message"] with
  | [kind, filePath, function, message] =>
    return {
      kind := ← Json.required? (Json.choice? Json.isNull DiagnosticKind.ofName?) kind
      filePath := ← Json.required? Json.text? filePath
      function := ← Json.optional? (Json.option? Json.text?) none function
      message := ← Json.required? Json.text? message }
  | _ => none

end Diagnostic

/-- What a run has done for one language. -/
structure LanguageReport where
  language : String
  fileCount : Nat
  filesSkipped : Nat
  storedCount : Nat
  diagnostics : List Diagnostic
  deriving DecidableEq

namespace LanguageReport

/-- The report as a JSON value. -/
def toJson (report : LanguageReport) : Json :=
  .ofMembers [("language", .ofText report.language), ("file_count", .ofNat report.fileCount),
    ("files_skipped", .ofNat report.filesSkipped), ("stored_count", .ofNat report.storedCount),
    ("diagnostics", .ofList Diagnostic.toJson report.diagnostics)]

/-- The report that a JSON value describes. -/
def ofJson? (value : Json) : Option LanguageReport := do
  match ← value.fields?
      ["language", "file_count", "files_skipped", "stored_count", "diagnostics"] with
  | [language, fileCount, filesSkipped, storedCount, diagnostics] =>
    return {
      language := ← Json.required? Json.text? language
      fileCount := ← Json.required? Json.nat? fileCount
      filesSkipped := ← Json.required? Json.nat? filesSkipped
      storedCount := ← Json.required? Json.nat? storedCount
      diagnostics := ← Json.required? (Json.list? Diagnostic.ofJson?) diagnostics }
  | _ => none

end LanguageReport

/-- What a run has done. -/
structure RunReport where
  languages : List LanguageReport
  /-- How long the run took, in thousandths of a second. -/
  duration : Nat
  deriving DecidableEq

namespace RunReport

/-- How many units were stored. -/
def storedCount (report : RunReport) : Nat :=
  total (report.languages.map LanguageReport.storedCount)

/-- Everything that was left out. -/
def diagnostics (report : RunReport) : List Diagnostic :=
  report.languages.flatMap LanguageReport.diagnostics

/-- The report as a JSON value. -/
def toJson (report : RunReport) : Json :=
  .ofMembers [("languages", .ofList LanguageReport.toJson report.languages),
    ("duration_ms", .ofNat report.duration)]

/-- The report that a JSON value describes. -/
def ofJson? (value : Json) : Option RunReport := do
  match ← value.fields? ["languages", "duration_ms"] with
  | [languages, duration] =>
    return {
      languages := ← Json.required? (Json.list? LanguageReport.ofJson?) languages
      duration := ← Json.required? Json.nat? duration }
  | _ => none

/-- The report that a text describes. -/
def parse (text : String) : Except Error RunReport :=
  match (Json.parse text).bind ofJson? with
  | some report => .ok report
  | none => .error (.json "not a report of a run")

end RunReport

end MethodCorpus
