import MethodCorpus.Config.Encoding
import MethodCorpus.Json.Parser
import MethodCorpus.Toml.Parser

/-!
# Configuration files

A configuration is read as TOML if its path says so, and as JSON otherwise. It is written as JSON,
in two steps: first to a temporary file beside it, which is then moved into place, so that no half
written configuration is ever found. If the second step fails, the temporary file stays.
-/

namespace MethodCorpus.Config

/-- Whether a configuration at a path is read as TOML. -/
def isToml (path : String) : Bool := Path.extension? path == some "toml"

/-- The configuration that the text of a file describes. -/
def ofText? (isToml : Bool) (text : String) : Option Config :=
  if isToml then (Toml.parse text).bind (ofJson? .toml)
  else (Json.parse text).bind (ofJson? .json)

/-- Reads the configuration at a path. -/
def load (fs : FileSystem) (path : String) : Except Error Config :=
  match fs.readText path with
  | .error fault => .error (.config s!"failed to read config file '{path}': {fault.text}")
  | .ok text =>
    match ofText? (isToml path) text with
    | some config => .ok config
    | none => .error (.config s!"failed to parse config file '{path}': not a configuration")

/-- The text of a configuration file. -/
def fileText (config : Config) : String := config.toJson.pretty

/-- Where a configuration is written before it is moved to its path. -/
def temporaryPath (path : String) : String := Path.withExtension path "tmp"

/-- Makes the directory that a file is to stand in. -/
def ensureParent (fs : FileSystem) (path : String) : FileSystem × Except Error Unit :=
  match (Path.parent? path).filter (!·.isEmpty) with
  | none => (fs, .ok ())
  | some parent =>
    match fs.createDirectories parent with
    | (fs, none) => (fs, .ok ())
    | (fs, some fault) =>
      (fs, .error (.config s!"failed to create config directory '{parent}': {fault.text}"))

/-- Writes a configuration to a path. -/
def save (config : Config) (fs : FileSystem) (path : String) : FileSystem × Except Error Unit :=
  match ensureParent fs path with
  | (fs, .error error) => (fs, .error error)
  | (fs, .ok ()) =>
    let temporary := temporaryPath path
    match fs.writeFile temporary config.fileText.toUTF8 with
    | .error fault =>
      (fs, .error (.config
        s!"failed to write temporary config file '{temporary}': {fault.text}"))
    | .ok fs =>
      match fs.moveFile temporary path with
      | .error fault =>
        (fs, .error (.config
          s!"failed to rename temporary config file '{temporary}' to '{path}': {fault.text}"))
      | .ok fs => (fs, .ok ())

end MethodCorpus.Config
