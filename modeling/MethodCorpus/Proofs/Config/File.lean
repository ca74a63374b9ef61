import MethodCorpus.Config.File
import MethodCorpus.Proofs.Config.Encoding
import MethodCorpus.Proofs.FileSystem.Contents
import MethodCorpus.Proofs.Json.RoundTrip

/-!
# Configurations are read back from their files

A configuration that was saved stands at its path as it was written: the temporary file is moved
there as a whole. So it is read back, unless its path asks for the other format, since no TOML
document starts as a JSON object does.

* `Toml.parse_of_brace`: a JSON object is no TOML document;
* `save_eq_ok_iff`: the steps of saving;
* `readText_of_save`: what stands at the path afterwards;
* `load_of_readText`, `load_toml_of_readText`: what is loaded where a configuration was written;
* `load_of_save`: what is loaded after a configuration was saved.
-/

namespace MethodCorpus

/-! ## A JSON object is no TOML document -/

namespace Toml

/-- No line starts with a brace, since no key and no header does. -/
theorem readLine_of_brace (document : Document) (rest : List Char) :
    readLine document ('\x7b' :: rest) = none := by
  have noKeys : readKeysAndEquals ('\x7b' :: rest) = none := by
    rw [readKeysAndEquals, List.length_cons, readKeys]
    rfl
  rw [readLine]
  simp [skipBlanks, isBlank, noKeys]

theorem parse_of_brace {text : String} {rest : List Char}
    (starts : text.toList = '\x7b' :: rest) : parse text = none := by
  have same : unmarked ('\x7b' :: rest) = '\x7b' :: rest := rfl
  rw [parse, starts, same, List.length_cons, readLines, readLine_of_brace]
  rfl

end Toml

namespace Config

variable {config : Config} {fs left : FileSystem} {path : String}

/-! ## Saving -/

/-- A configuration is saved in three steps, all of which have to be done. -/
theorem save_eq_ok_iff :
    config.save fs path = (left, .ok ()) ↔
      ∃ made written, ensureParent fs path = (made, .ok ()) ∧
        made.writeFile (temporaryPath path) config.fileText.toUTF8 = .ok written ∧
        written.moveFile (temporaryPath path) path = .ok left := by
  rw [save]
  generalize config.fileText.toUTF8 = contents
  rcases ensureParent fs path with ⟨made, error | ⟨⟩⟩
  · simp
  · dsimp only
    cases outcome : made.writeFile (temporaryPath path) contents with
    | error fault => simp [outcome]
    | ok written =>
      cases moved : written.moveFile (temporaryPath path) path <;> simp [outcome, moved]

/-- What was saved stands at its path. -/
theorem readText_of_save (saved : config.save fs path = (left, .ok ())) :
    left.readText path = .ok config.fileText := by
  obtain ⟨made, written, -, outcome, moved⟩ := save_eq_ok_iff.1 saved
  exact FileSystem.readText_eq_ok_iff.2
    (FileSystem.readFile_moveFile (FileSystem.readFile_writeFile outcome) moved)

/-! ## Loading -/

/-- The text of a configuration is read back as JSON. -/
theorem ofText?_fileText (within : config.WithinLimits) :
    ofText? false config.fileText = some config := by
  rw [ofText?, if_neg Bool.false_ne_true, fileText, Json.parse_pretty, Option.bind_some,
    ofJson?_toJson within]

theorem load_of_readText (within : config.WithinLimits) (format : isToml path = false)
    (written : fs.readText path = .ok config.fileText) : load fs path = .ok config := by
  rw [load, written, format]
  dsimp only
  rw [ofText?_fileText within]

theorem exists_toList_fileText (config : Config) :
    ∃ rest, config.fileText.toList = '\x7b' :: rest := by
  rw [fileText, Json.pretty, String.toList_ofList, toJson, Json.ofMembers, List.map_cons,
    Json.write]
  exact ⟨_, rfl⟩

/-- The text of a configuration is not read back as TOML. -/
theorem load_toml_of_readText (format : isToml path = true)
    (written : fs.readText path = .ok config.fileText) :
    load fs path =
      .error (.config s!"failed to parse config file '{path}': not a configuration") := by
  obtain ⟨rest, starts⟩ := exists_toList_fileText config
  have unread : ofText? true config.fileText = none := by
    rw [ofText?, if_pos rfl, Toml.parse_of_brace starts, Option.bind_none]
  rw [load, written, format]
  dsimp only
  rw [unread]

/-- Whatever a configuration says, it is loaded again from the path where it was saved, if its
numbers fit into 64 bits and the path does not end as that of a TOML document. -/
theorem load_of_save (config : Config) (fs left : FileSystem) (path : String)
    (within : config.WithinLimits) (otherFormat : Path.extension? path ≠ some "toml")
    (saved : config.save fs path = (left, .ok ())) : load left path = .ok config :=
  load_of_readText within (beq_eq_false_iff_ne.2 otherFormat) (readText_of_save saved)

/-- A configuration with every filter, with signs that are escaped, and with the greatest number. -/
def detailed : Config where
  inputDir := "src/\"main\"\\\n\u0001"
  outputDir := ""
  parser := ⟨.antlr, [.java, .java]⟩
  filters := [.treeSize 0 none, .treeSize 3 (some 18446744073709551615), .modifiers ["é", ""],
    .annotations [], .noConstructors, .nameWords 18446744073709551615]
  labeling := .functionName
  storage := .jsonLines
  exclude := ["**/test/**", "\x7b\x7d"]

/-- A file that stood at the path is replaced. -/
theorem load_of_save_detailed :
    ∃ files left : FileSystem, files.readText "conf/corpus.v1.json" = .ok "old" ∧
      detailed.WithinLimits ∧ Path.extension? "conf/corpus.v1.json" ≠ some "toml" ∧
      detailed.save files "conf/corpus.v1.json" = (left, .ok ()) ∧
      load left "conf/corpus.v1.json" = .ok detailed := by
  let files : FileSystem := (FileSystem.empty.put ["conf"] .directory).put
    ["conf", "corpus.v1.json"] (.file "old".toUTF8)
  have within : detailed.WithinLimits := by decide +kernel
  have format : Path.extension? "conf/corpus.v1.json" ≠ some "toml" := by decide +kernel
  have done : (detailed.save files "conf/corpus.v1.json").2.toOption = some () := by decide +kernel
  have saved : detailed.save files "conf/corpus.v1.json" = (_, .ok ()) :=
    Prod.ext rfl (toOption_eq_some_iff.1 done)
  exact ⟨files, _, by decide +kernel, within, format, saved,
    load_of_save detailed files _ _ within format saved⟩

end Config

end MethodCorpus
