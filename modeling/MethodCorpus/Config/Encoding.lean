import MethodCorpus.Config.Basic
import MethodCorpus.Json.Printer
import MethodCorpus.Json.Record

/-!
# Configurations as JSON values

A configuration is a record. A filter, a labeling and a storage format are tagged records: one
member names which of several records it is, and the others are its fields.

Configurations are written in JSON and read from JSON or TOML. A TOML document is read as a JSON
value too, and what still differs is kept in a `Format`: what stands for the contents of a choice
that has none, whether an array may be longer than the record it stands for, and how deep a tagged
record may be, since it is kept as a whole until its tag is found.
-/

namespace MethodCorpus

namespace Filter

/-- The name that tags a filter. -/
def tag : Filter → String
  | treeSize .. => "tree_size"
  | modifiers _ => "modifiers"
  | annotations _ => "annotations"
  | noConstructors => "no_constructors"
  | nameWords _ => "function_name_words"

/-- The fields of a filter. -/
def fields : Filter → List (String × Json)
  | treeSize least greatest =>
    [("min_size", .ofNat least), ("max_size", .ofOption .ofNat greatest)]
  | modifiers excluded => [("excluded", .ofList .ofText excluded)]
  | annotations excluded => [("excluded", .ofList .ofText excluded)]
  | noConstructors => []
  | nameWords most => [("max_words", .ofNat most)]

/-- The filter as a JSON value. -/
def toJson (filter : Filter) : Json := .ofMembers (("name", .ofText filter.tag) :: filter.fields)

end Filter

/-- The name that tags a labeling. -/
def Labeling.tag : Labeling → String
  | fileName => "file_name"
  | folderName => "folder_name"
  | functionName => "function_name"

/-- The name that tags a storage format. -/
def StorageFormat.tag : StorageFormat → String
  | jsonLines => "jsonl"

namespace Config

/-- The configuration as a JSON value. -/
def toJson (config : Config) : Json :=
  .ofMembers [
    ("input_dir", .ofText config.inputDir),
    ("output_dir", .ofText config.outputDir),
    ("parser", .ofMembers [
      ("name", .ofText config.parser.dialect.name),
      ("languages", .ofList (fun language => .ofText language.name) config.parser.languages)]),
    ("filters", .ofList Filter.toJson config.filters),
    ("label", .ofMembers [("name", .ofText config.labeling.tag)]),
    ("storage", .ofMembers [("format", .ofText config.storage.tag)]),
    ("exclude", .ofList .ofText config.exclude)]

/-- What differs between the formats that a configuration is read from. -/
structure Format where
  /-- Whether a value may stand under the name of a choice without contents. -/
  isUnit : Json → Bool
  /-- Whether items of an array beyond the fields of its record are passed over. -/
  allowsSurplus : Bool
  /-- Whether a value can be kept as a whole when so many arrays and objects stand around it. -/
  canKeep : Nat → Json → Bool

namespace Format

/-- How many arrays and objects may stand inside each other in JSON. -/
def maxJsonDepth : Nat := 127

/-- The rules of JSON. -/
def json : Format where
  isUnit := Json.isNull
  allowsSurplus := false
  canKeep around value := around + value.depth ≤ maxJsonDepth && value.isMeaningful

/-- Whether a value has no items or members. -/
def isEmpty : Json → Bool
  | .array [] | .object [] => true
  | _ => false

/-- The rules of TOML, whose reader bounds the depth itself. -/
def toml : Format where
  isUnit := isEmpty
  allowsSurplus := true
  canKeep _ _ := true

/-- The fields of a record. -/
def fields? (format : Format) (names : List String) (value : Json) : Option (List (Option Json)) :=
  match format.allowsSurplus, value with
  | true, .array items => Json.fields? names (.array (items.take names.length))
  | _, value => Json.fields? names value

/-- A choice without contents. -/
def choice? {α : Type} (format : Format) (named? : String → Option α) (value : Json) : Option α :=
  Json.choice? format.isUnit named? value

/-- Takes a tagged record apart: its tag, and a record of the fields. In an array the tag comes
first. -/
def tagged? (format : Format) (around : Nat) (tag : String) (value : Json) :
    Option (String × Json) :=
  if !format.canKeep around value then none
  else match value with
    | .object members =>
      match Json.member? tag members with
      | some (some (.string (some name))) =>
        if members.all (·.1.isSome) then
          some (name, .object (members.filter (·.1 != some tag)))
        else none
      | _ => none
    | .array (.string (some name) :: fields) => some (name, .array fields)
    | _ => none

end Format

/-- Whether a record has no fields of its own; members that mean nothing may be there. -/
def isBare : Json → Bool
  | .object _ | .array [] => true
  | _ => false

/-- The filter with a tag and fields. -/
def filter? (tag : String) (fields : Json) : Option Filter :=
  if tag = "tree_size" then do
    match ← fields.fields? ["min_size", "max_size"] with
    | [least, greatest] =>
      return .treeSize (← Json.optional? Json.nat? 0 least)
        (← Json.optional? (Json.option? Json.nat?) none greatest)
    | _ => none
  else if tag = "modifiers" then do
    match ← fields.fields? ["excluded"] with
    | [excluded] => return .modifiers (← Json.required? (Json.list? Json.text?) excluded)
    | _ => none
  else if tag = "annotations" then do
    match ← fields.fields? ["excluded"] with
    | [excluded] => return .annotations (← Json.required? (Json.list? Json.text?) excluded)
    | _ => none
  else if tag = "no_constructors" then
    if isBare fields then some .noConstructors else none
  else if tag = "function_name_words" then do
    match ← fields.fields? ["max_words"] with
    | [most] => return .nameWords (← Json.required? Json.nat? most)
    | _ => none
  else none

/-- The filter that a JSON value describes. -/
def filterOfJson? (format : Format) (value : Json) : Option Filter := do
  let (tag, fields) ← format.tagged? 2 "name" value
  filter? tag fields

/-- The labeling that a JSON value describes. -/
def labelingOfJson? (format : Format) (value : Json) : Option Labeling := do
  let (tag, fields) ← format.tagged? 1 "name" value
  if isBare fields then Labeling.all.find? (·.tag == tag) else none

/-- The storage format that a JSON value describes. -/
def storageOfJson? (format : Format) (value : Json) : Option StorageFormat := do
  let (tag, fields) ← format.tagged? 1 "format" value
  if isBare fields && tag == StorageFormat.jsonLines.tag then some .jsonLines else none

/-- The dialect with a name. -/
def dialectNamed? (name : String) : Option Dialect :=
  [Dialect.antlr, .srcml].find? (·.name == name)

/-- The language with a name. -/
def languageNamed? (name : String) : Option Language :=
  [Language.java].find? (·.name == name)

/-- The choice of a parser that a JSON value describes. -/
def parserOfJson? (format : Format) (value : Json) : Option ParserChoice := do
  match ← format.fields? ["name", "languages"] value with
  | [name, languages] =>
    return {
      dialect := ← Json.required? (format.choice? dialectNamed?) name
      languages := ← Json.required? (Json.list? (format.choice? languageNamed?)) languages }
  | _ => none

/-- The configuration that a JSON value describes. -/
def ofJson? (format : Format) (value : Json) : Option Config := do
  match ← format.fields?
      ["input_dir", "output_dir", "parser", "filters", "label", "storage", "exclude"] value with
  | [inputDir, outputDir, parser, filters, label, storage, exclude] =>
    return {
      inputDir := ← Json.required? Json.text? inputDir
      outputDir := ← Json.required? Json.text? outputDir
      parser := ← Json.required? (parserOfJson? format) parser
      filters := ← Json.optional? (Json.list? (filterOfJson? format)) [] filters
      labeling := ← Json.required? (labelingOfJson? format) label
      storage := ← Json.optional? (storageOfJson? format) .jsonLines storage
      exclude := ← Json.optional? (Json.list? Json.text?) [] exclude }
  | _ => none

end Config

end MethodCorpus
