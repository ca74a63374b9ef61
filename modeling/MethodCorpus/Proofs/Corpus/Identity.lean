import MethodCorpus.Proofs.Corpus.Rerun
import MethodCorpus.Proofs.Tree.Order

/-!
# What identifies a unit

The identifier of a unit is a digest of the path of its source, its label and its place in the tree,
put together with colons. Units of one source differ in their place, and sources differ in their
path. But a path and a label may hold colons themselves, so what is put together does not tell where
the path ends: two units clash if the path of one goes on behind a colon where that of the other one
ends, and the labels make up for it.

* `joined_eq_iff`: what can be told from two texts put together;
* `LabeledUnit.idText`, `LabeledUnit.Continues`, `LabeledUnit.idText_eq_iff`: when units clash;
* `Config.unitsOf`, `Config.pairwise_unitsOf`: the units that are stored, and how they differ;
* `Labeling.not_continues`: labels that are taken from paths do not clash;
* `Pipeline.identities_of_run`: which lines of a store clash.
-/

namespace MethodCorpus

/-! ## Texts put together -/

theorem append_cons_eq_iff {α : Type} {sign : α} {front back front' back' : List α} :
    front ++ sign :: back = front' ++ sign :: back' ↔
      (front = front' ∧ back = back') ∨
      (∃ middle, front' = front ++ sign :: middle ∧ back = middle ++ sign :: back') ∨
      ∃ middle, front = front' ++ sign :: middle ∧ back' = middle ++ sign :: back := by
  constructor
  · intro same
    rcases List.append_eq_append_iff.1 same with ⟨rest, rfl, whole⟩ | ⟨rest, rfl, whole⟩ <;>
      cases rest with
      | nil => simp_all
      | cons first middle =>
        obtain ⟨rfl, rfl⟩ := List.cons.inj whole
        simp
  · rintro (⟨rfl, rfl⟩ | ⟨middle, rfl, rfl⟩ | ⟨middle, rfl, rfl⟩) <;> simp

/-- Two texts with a colon between them are told apart from two others, unless the first one goes on
behind a colon where the other first one ends. -/
theorem joined_eq_iff {front back front' back' : String} :
    front ++ ":" ++ back = front' ++ ":" ++ back' ↔
      (front = front' ∧ back = back') ∨
      (∃ middle, front' = front ++ ":" ++ middle ∧ back = middle ++ ":" ++ back') ∨
      ∃ middle, front = front' ++ ":" ++ middle ∧ back' = middle ++ ":" ++ back := by
  have texts : ∀ p : List Char → Prop, (∃ middle : String, p middle.toList) ↔ ∃ middle, p middle :=
    fun p => ⟨fun ⟨middle, h⟩ => ⟨_, h⟩, fun ⟨middle, h⟩ => ⟨.ofList middle, by simpa using h⟩⟩
  simp only [← String.toList_inj, String.toList_append, List.append_assoc]
  exact append_cons_eq_iff.trans (or_congr_right (or_congr (texts _).symm (texts _).symm))

theorem colon_notMem_repr (n : Nat) : ':' ∉ n.repr.toList := by
  rw [Nat.toList_repr]
  intro mem
  exact absurd (Nat.isDigit_of_mem_toDigits (by decide) (by decide) mem) (by decide)

/-- A number is told from its digits. -/
theorem eq_of_repr_eq {n n' : Nat} (same : n.repr = n'.repr) : n = n' := by
  have value := congrArg (fun text : String => Nat.ofDigitChars 10 text.toList 0) same
  simpa only [Nat.toList_repr, Nat.ofDigitChars_ten_toDigits] using value

/-! ## Identifiers -/

namespace LabeledUnit

variable {tree other : Tree}

/-- What the identifier of a unit is a digest of. -/
def idText (unit : LabeledUnit tree) : String :=
  s!"{unit.filePath}:{unit.label}:{unit.root.index}"

theorem id_eq (unit : LabeledUnit tree) :
    unit.id = "unit:" ++
      String.ofList ((Digest.sha256 unit.idText.toUTF8.toList).take Record.idDigits) :=
  rfl

/-- Whether the path of a second unit goes on behind a colon where that of a first one ends, and the
label of the first one has what is missing there. -/
def Continues (unit : LabeledUnit tree) (unit' : LabeledUnit other) : Prop :=
  ∃ middle, unit'.filePath = unit.filePath ++ ":" ++ middle ∧
    unit.label = middle ++ ":" ++ unit'.label

theorem idText_eq_iff {unit : LabeledUnit tree} {unit' : LabeledUnit other} :
    unit.idText = unit'.idText ↔
      unit.root.index = unit'.root.index ∧
        ((unit.filePath = unit'.filePath ∧ unit.label = unit'.label) ∨
          unit.Continues unit' ∨ unit'.Continues unit) := by
  -- no digit is a colon, so the last colon is the one before the place
  have digits : ∀ {n n' : Nat} {middle : String}, n.repr ≠ middle ++ ":" ++ n'.repr := by
    intro n n' middle same
    have none := colon_notMem_repr n
    rw [same] at none
    simp at none
  show unit.filePath ++ ":" ++ unit.label ++ ":" ++ unit.root.index.repr =
    unit'.filePath ++ ":" ++ unit'.label ++ ":" ++ unit'.root.index.repr ↔ _
  rw [joined_eq_iff, joined_eq_iff]
  constructor
  · rintro (⟨same, place⟩ | ⟨middle, -, same⟩ | ⟨middle, -, same⟩)
    · exact ⟨eq_of_repr_eq place, same⟩
    · exact absurd same digits
    · exact absurd same digits
  · rintro ⟨place, same⟩
    exact .inl ⟨same, congrArg Nat.repr place⟩

/-- A label without colons does not have what is missing in a path. -/
theorem not_continues {unit : LabeledUnit tree} (plain : ':' ∉ unit.label.toList)
    (unit' : LabeledUnit other) : ¬ unit.Continues unit' := by
  rintro ⟨middle, -, whole⟩
  rw [whole] at plain
  simp at plain

end LabeledUnit

/-! ## Labels from paths -/

/-- A label from a path is a name. -/
theorem Labeling.isName_of_fileLabel? {labeling : Labeling} {path label : String}
    (h : labeling.fileLabel? path = some label) : Path.IsName label := by
  cases labeling with
  | fileName => exact Path.isName_of_fileName? h
  | folderName =>
    obtain ⟨folder, -, named⟩ := Option.bind_eq_some_iff.1 h
    exact Path.isName_of_fileName? named
  | functionName => cases h

/-- Where the path of a file goes on behind a colon, the label from the path does not have what is
missing: it is the longer name that goes with the longer path, and files in one folder have the same
label from it. -/
theorem Labeling.not_continues {labeling : Labeling} {folder name middle label label' : String}
    (nonempty : folder ≠ "") (isName : Path.IsName name)
    (labeled : labeling.fileLabel? (Path.join folder name) = some label)
    (labeled' : labeling.fileLabel? (Path.join folder name ++ ":" ++ middle) = some label') :
    label ≠ middle ++ ":" ++ label' := by
  intro whole
  have undivided := (isName_of_fileLabel? labeled).undivided
  rw [whole, String.toList_append, String.toList_append, List.mem_append, List.mem_append, not_or,
    not_or] at undivided
  have isName' : Path.IsName (name ++ (":" ++ middle)) := by
    refine isName.append ⟨':', by simp, by decide⟩ ?_
    rw [String.toList_append, List.mem_append, not_or]
    exact ⟨by decide, undivided.1.1⟩
  -- so the longer path leads to a file in the same folder
  rw [String.append_assoc, Path.join_append isName] at labeled'
  have length := congrArg String.length whole
  rw [String.length_append, String.length_append, show ":".length = 1 from rfl] at length
  cases labeling with
  | fileName =>
    rw [fileLabel?, Path.fileName?_join nonempty isName] at labeled
    rw [fileLabel?, Path.fileName?_join nonempty isName'] at labeled'
    rw [← Option.some.inj labeled, ← Option.some.inj labeled', String.length_append] at length
    omega
  | folderName =>
    rw [fileLabel?, Path.parent?_join_congr nonempty isName isName'] at labeled
    have same := Option.some.inj (labeled.symm.trans labeled')
    rw [same] at length
    omega
  | functionName => cases labeled

/-! ## Units that are stored -/

/-- A unit of some tree. -/
abbrev StoredUnit := (tree : Tree) × LabeledUnit tree

namespace Config

variable (config : Config) {tree : Tree} {path : String}

/-- The units of a tree. -/
def unitsOfTree (tree : Tree) (path : String) : List (LabeledUnit tree) :=
  match config.labeling.granularity with
  | .file => config.fileUnits tree path
  | .function =>
    config.functionUnits (Split.ofNode config.parser.dialect path tree.root).signatures

/-- The units of the source at a path: none if it cannot be loaded. -/
def unitsAt (parser : String → SyntaxTree) (fs : FileSystem) (path : String) : List StoredUnit :=
  match Source.load parser config.parser.dialect fs path with
  | .ok tree => (config.unitsOfTree tree path).map (⟨tree, ·⟩)
  | .error _ => []

/-- The units of the sources at some paths, in order. -/
def unitsOf (parser : String → SyntaxTree) (fs : FileSystem) (paths : List String) :
    List StoredUnit :=
  paths.flatMap (config.unitsAt parser fs)

theorem map_record_unitsOfTree (tree : Tree) (path : String) :
    (config.unitsOfTree tree path).map LabeledUnit.record = config.survivors tree path := by
  rw [← config.records_yieldOfTree, unitsOfTree, yieldOfTree]
  cases config.labeling.granularity <;> rfl

variable {config} {parser : String → SyntaxTree} {fs : FileSystem} {paths : List String}

theorem map_record_unitsOf :
    (config.unitsOf parser fs paths).map (·.2.record) = config.recordsOf parser fs paths := by
  rw [unitsOf, List.map_flatMap, recordsOf]
  refine List.flatMap_congr fun path _ => ?_
  rw [unitsAt, recordsAt]
  cases Source.load parser config.parser.dialect fs path with
  | error error => rfl
  | ok tree =>
    rw [List.map_map]
    exact config.map_record_unitsOfTree tree path

theorem mem_fileUnits {unit : LabeledUnit tree} (mem : unit ∈ config.fileUnits tree path) :
    unit.filePath = path ∧ config.labeling.fileLabel? path = some unit.label := by
  rw [fileUnits] at mem
  split at mem
  · obtain ⟨label, given, rfl⟩ := List.mem_map.1 mem
    exact ⟨rfl, Option.mem_toList.1 given⟩
  · cases mem

theorem filePath_of_mem_unitsOfTree {unit : LabeledUnit tree}
    (mem : unit ∈ config.unitsOfTree tree path) : unit.filePath = path := by
  rw [unitsOfTree] at mem
  split at mem
  · exact (mem_fileUnits mem).1
  · obtain ⟨signature, kept, made⟩ := List.mem_filterMap.1 mem
    obtain ⟨label, -, rfl⟩ := Option.map_eq_some_iff.1 made
    exact Split.filePath_of_mem (List.mem_filter.1 kept).1

/-- No subtree of a tree makes two units. -/
theorem pairwise_unitsOfTree (tree : Tree) (path : String) :
    (config.unitsOfTree tree path).Pairwise fun unit unit' => unit.root ≠ unit'.root := by
  rw [unitsOfTree]
  split
  · rw [fileUnits]
    split
    · cases config.labeling.fileLabel? path <;> simp
    · exact .nil
  · -- the methods that are read stand in the order of the tree, each of them once
    have roots := (Split.roots_sublist config.parser.dialect path tree.root).nodup
      tree.root.nodup_preOrder
    refine List.pairwise_filterMap.2 (((List.pairwise_map.1 roots).filter _).imp ?_)
    intro signature signature' differ unit made unit' made'
    obtain ⟨label, -, rfl⟩ := Option.map_eq_some_iff.1 made
    obtain ⟨label', -, rfl⟩ := Option.map_eq_some_iff.1 made'
    exact differ

theorem exists_of_mem_unitsAt {unit : StoredUnit} (mem : unit ∈ config.unitsAt parser fs path) :
    ∃ tree unit', unit = ⟨tree, unit'⟩ ∧ unit' ∈ config.unitsOfTree tree path := by
  rw [unitsAt] at mem
  split at mem
  · obtain ⟨unit', made, rfl⟩ := List.mem_map.1 mem
    exact ⟨_, unit', rfl, made⟩
  · cases mem

/-- Units of different sources differ in their path, and units of one source in their place. -/
theorem pairwise_unitsOf (nodup : paths.Nodup) :
    (config.unitsOf parser fs paths).Pairwise fun unit unit' =>
      unit.2.filePath = unit'.2.filePath → unit.2.root.index ≠ unit'.2.root.index := by
  refine List.pairwise_flatMap.2 ⟨fun path _ => ?_, nodup.imp fun {path path'} differ => ?_⟩
  · rw [unitsAt]
    split
    · refine List.pairwise_map.2 ((pairwise_unitsOfTree _ path).imp fun differ _ same => ?_)
      exact differ (Tree.Node.index_injective same)
    · exact .nil
  · intro unit mem unit' mem' same
    obtain ⟨tree, unit, rfl, made⟩ := exists_of_mem_unitsAt mem
    obtain ⟨tree', unit', rfl, made'⟩ := exists_of_mem_unitsAt mem'
    rw [filePath_of_mem_unitsOfTree made, filePath_of_mem_unitsOfTree made'] at same
    exact absurd same differ

/-- So two units that are stored clash only if the path of one goes on where that of the other one
ends. -/
theorem pairwise_idText_unitsOf (nodup : paths.Nodup) :
    (config.unitsOf parser fs paths).Pairwise fun unit unit' =>
      unit.2.idText = unit'.2.idText ↔ unit.2.root.index = unit'.2.root.index ∧
        (unit.2.Continues unit'.2 ∨ unit'.2.Continues unit.2) := by
  refine (pairwise_unitsOf nodup).imp fun {unit unit'} differ => ?_
  rw [LabeledUnit.idText_eq_iff]
  exact and_congr_right fun place => or_iff_right fun same => differ same.1 place

/-- Where the path of no unit goes on where that of another one ends, no two clash. -/
theorem nodup_idText_unitsOf (nodup : paths.Nodup)
    (apart : ∀ unit ∈ config.unitsOf parser fs paths, ∀ unit' ∈ config.unitsOf parser fs paths,
      ¬ unit.2.Continues unit'.2) :
    ((config.unitsOf parser fs paths).map (·.2.idText)).Nodup := by
  refine List.pairwise_map.2 ((pairwise_idText_unitsOf nodup).imp_of_mem ?_)
  intro unit unit' mem mem' clash same
  rcases (clash.1 same).2 with goesOn | goesOn
  · exact apart unit mem unit' mem' goesOn
  · exact apart unit' mem' unit mem goesOn

/-- Whole files do not clash. -/
theorem not_continues_of_fileLabel {language : Language} (wellFormed : fs.WellFormed)
    (found : Source.findAll fs config.inputDir language.extension config.exclude = .ok paths)
    (whole : config.labeling.granularity = .file) {unit unit' : StoredUnit}
    (mem : unit ∈ config.unitsOf parser fs paths) (mem' : unit' ∈ config.unitsOf parser fs paths) :
    ¬ unit.2.Continues unit'.2 := by
  have labeled : ∀ {unit : StoredUnit}, unit ∈ config.unitsOf parser fs paths →
      unit.2.filePath ∈ paths ∧
        config.labeling.fileLabel? unit.2.filePath = some unit.2.label := by
    intro unit mem
    obtain ⟨path, listed, mem⟩ := List.mem_flatMap.1 mem
    obtain ⟨tree, unit, rfl, made⟩ := exists_of_mem_unitsAt mem
    rw [unitsOfTree, whole] at made
    obtain ⟨rfl, labeled⟩ := mem_fileUnits made
    exact ⟨listed, labeled⟩
  obtain ⟨listed, label⟩ := labeled mem
  obtain ⟨-, label'⟩ := labeled mem'
  obtain ⟨folder, name, path, nonempty, isName⟩ :=
    Source.exists_join_of_findAll wellFormed (by cases language; decide) found listed
  rintro ⟨middle, goesOn, missing⟩
  rw [path] at label goesOn
  rw [goesOn] at label'
  exact Labeling.not_continues nonempty isName label label' missing

/-- After a run the store of a language holds the units of its sources, as they were before. -/
theorem readFile_of_runLanguages {languages : List Language} {language : Language}
    {left : FileSystem} {reports : List LanguageReport} (wellFormed : fs.WellFormed)
    (done : config.runLanguages parser fs languages = (left, .ok reports))
    (mem : language ∈ languages) :
    ∃ paths, Source.findAll fs config.inputDir language.extension config.exclude = .ok paths ∧
      left.readFile (Store.filePath (config.storeDirectory language)) =
        .ok (Store.contents ((config.unitsOf parser fs paths).map (·.2.record))).toUTF8 := by
  cases languages with
  | nil => cases mem
  | cons first rest =>
    obtain rfl := Subsingleton.elim first language
    obtain ⟨report, ran, -⟩ := runLanguages_eq_ok_iff.1 done
    obtain ⟨paths, opened, found, created, written, -⟩ := runLanguage_eq_ok_iff.1 ran
    refine ⟨paths, found, ?_⟩
    rw [Store.readFile_of_write written, recordsOf_of_create wellFormed found created,
      map_record_unitsOf]

end Config

namespace Pipeline

/-- After a run the lines of a store are those of the units of its sources, in order, and the
identifier of each is a digest of what `LabeledUnit.idText` puts together. That is the same for two
of them exactly if they have the same place, the path of one goes on behind a colon where that of
the other one ends, and the labels make up for it. So it is different for all of them if whole files
are stored, or if no label holds a colon. -/
theorem identities_of_run (pipeline : Pipeline) (parser : String → SyntaxTree)
    (fs left : FileSystem) (reports : List LanguageReport) (language : Language)
    (wellFormed : fs.WellFormed) (done : pipeline.run parser fs = (left, .ok reports))
    (mem : language ∈ pipeline.config.parser.languages) :
    ∃ paths units,
      Source.findAll fs pipeline.config.inputDir language.extension pipeline.config.exclude =
        .ok paths ∧
      units = pipeline.config.unitsOf parser fs paths ∧
      left.readFile (Store.filePath (pipeline.config.storeDirectory language)) =
        .ok (String.join (units.map (·.2.record.line))).toUTF8 ∧
      (∀ unit ∈ units, unit.2.record.id = "unit:" ++
        String.ofList ((Digest.sha256 unit.2.idText.toUTF8.toList).take Record.idDigits)) ∧
      units.Pairwise (fun unit unit' =>
        unit.2.idText = unit'.2.idText ↔ unit.2.root.index = unit'.2.root.index ∧
          (unit.2.Continues unit'.2 ∨ unit'.2.Continues unit.2)) ∧
      (pipeline.config.labeling.granularity = .file → (units.map (·.2.idText)).Nodup) ∧
      ((∀ unit ∈ units, ':' ∉ unit.2.label.toList) → (units.map (·.2.idText)).Nodup) := by
  obtain ⟨paths, found, stored⟩ := Config.readFile_of_runLanguages wellFormed done mem
  have nodup := Source.nodup_of_findAll wellFormed (by cases language; decide) found
  refine ⟨paths, _, found, rfl, ?_, fun unit _ => unit.2.id_eq,
    Config.pairwise_idText_unitsOf nodup, fun whole => ?_, fun plain => ?_⟩
  · rw [stored, Store.contents, List.map_map]
    rfl
  · exact Config.nodup_idText_unitsOf nodup fun unit mem unit' mem' =>
      Config.not_continues_of_fileLabel wellFormed found whole mem mem'
  · exact Config.nodup_idText_unitsOf nodup fun unit mem unit' _ =>
      LabeledUnit.not_continues (plain unit mem) unit'.2

namespace Sample

/-- What the dump of a source with one method holds. -/
def methodDump (name : String) : FileSystem.Item :=
  .file (RawTree.inner "methodDeclaration" [.leaf "IDENTIFIER" name]).dump.toUTF8

/-- Two sources, with the path of one going on where that of the other one ends, and their dumps. -/
def beside : FileSystem :=
  FileSystem.empty.put ["in"] .directory
    |>.put ["in", "x.java"] (.file .empty)
    |>.put ["in", "x.java.antlr.json"] (methodDump "y.java:f")
    |>.put ["in", "x.java:y.java"] (.file .empty)
    |>.put ["in", "x.java:y.java.antlr.json"] (methodDump "f")

/-- The pipeline that stores all methods of the two sources. -/
def methodsIn (dialect : Dialect) : Pipeline :=
  ⟨{ Config.initial with inputDir := "in", outputDir := "out", parser := ⟨dialect, [.java]⟩ }, rfl⟩

theorem findAll_beside :
    Source.findAll beside "in" "java" [] = .ok ["in/x.java", "in/x.java:y.java"] := by
  decide +kernel

theorem wellFormed_beside : beside.WellFormed := by
  decide +kernel

end Sample

/-- Without a colon in the names of the methods the two lines do not clash. -/
theorem identities_of_run_without_colons :
    ∃ left reports, ∃ unit unit' : StoredUnit,
      (Sample.methodsIn .srcml).run Sample.parser Sample.beside = (left, .ok reports) ∧
      left.readFile (Store.filePath ((Sample.methodsIn .srcml).config.storeDirectory .java)) =
        .ok (unit.2.record.line ++ unit'.2.record.line).toUTF8 ∧
      unit.2.label = "f" ∧ unit'.2.label = "f" ∧ unit.2.idText ≠ unit'.2.idText := by
  have counts : ((Sample.methodsIn .srcml).run Sample.parser Sample.beside).2.toOption.map
      (·.map LanguageReport.storedCount) = some [2] := by
    decide +kernel
  have labels : ((Sample.methodsIn .srcml).config.unitsOf Sample.parser Sample.beside
      ["in/x.java", "in/x.java:y.java"]).map (·.2.label) = ["f", "f"] := by
    decide +kernel
  obtain ⟨left, reports, ran, -⟩ := exists_of_map_run counts
  obtain ⟨paths, units, found, whole, stored, -, -, -, apart⟩ := identities_of_run
    (Sample.methodsIn .srcml) Sample.parser Sample.beside left reports .java
    Sample.wellFormed_beside ran (List.mem_singleton.2 rfl)
  obtain rfl := Except.ok.inj (found.symm.trans Sample.findAll_beside)
  rw [← whole] at labels
  obtain ⟨unit, rest, rfl, label, labels⟩ := List.map_eq_cons_iff.1 labels
  obtain ⟨unit', rfl, label'⟩ := List.map_eq_singleton_iff.1 labels
  have differ := apart (by simp [label, label'])
  refine ⟨left, reports, unit, unit', ran, ?_, label, label', by simpa using differ⟩
  simpa [String.join_cons, String.join_nil] using stored

/-- In the dumps the name of the first method has what is missing in the path of its source, and the
two lines clash. -/
theorem identities_clash :
    ∃ left reports, ∃ unit unit' : StoredUnit,
      (Sample.methodsIn .antlr).run Sample.parser Sample.beside = (left, .ok reports) ∧
      left.readFile (Store.filePath ((Sample.methodsIn .antlr).config.storeDirectory .java)) =
        .ok (unit.2.record.line ++ unit'.2.record.line).toUTF8 ∧
      unit.2.filePath = "in/x.java" ∧ unit'.2.filePath = "in/x.java:y.java" ∧
      unit.2.idText = unit'.2.idText ∧ unit.2.id = unit'.2.id := by
  have there : Sample.beside.directory? "in" = some ["in"] := by
    decide +kernel
  have opened : (Store.create Sample.beside
      ((Sample.methodsIn .antlr).config.storeDirectory .java)).2.toOption = some () := by
    decide +kernel
  have texts : ((Sample.methodsIn .antlr).config.unitsOf Sample.parser Sample.beside
      ["in/x.java", "in/x.java:y.java"]).map (fun unit => (unit.2.filePath, unit.2.idText)) =
        [("in/x.java", "in/x.java:y.java:f:0"), ("in/x.java:y.java", "in/x.java:y.java:f:0")] := by
    decide +kernel
  obtain ⟨left, report, first⟩ : ∃ left report, (Sample.methodsIn .antlr).config.runLanguage
      Sample.parser Sample.beside .java = (left, .ok report) :=
    Config.exists_runLanguage_eq_ok_iff.2
      ⟨⟨_, there⟩, _, Prod.ext rfl (toOption_eq_some_iff.1 opened)⟩
  have ran : (Sample.methodsIn .antlr).run Sample.parser Sample.beside = (left, .ok [report]) :=
    Config.runLanguages_singleton_eq_ok_iff.2 ⟨report, first, rfl⟩
  obtain ⟨paths, found, stored⟩ := Config.readFile_of_runLanguages Sample.wellFormed_beside ran
    (List.mem_singleton.2 rfl)
  obtain rfl := Except.ok.inj (found.symm.trans Sample.findAll_beside)
  obtain ⟨unit, rest, whole, text, texts⟩ := List.map_eq_cons_iff.1 texts
  obtain ⟨unit', rfl, text'⟩ := List.map_eq_singleton_iff.1 texts
  obtain ⟨path, text⟩ := Prod.mk.inj text
  obtain ⟨path', text'⟩ := Prod.mk.inj text'
  have same : unit.2.idText = unit'.2.idText := text.trans text'.symm
  rw [whole] at stored
  refine ⟨left, [report], unit, unit', ran, ?_, path, path', same, ?_⟩
  · simpa [Store.contents, String.join_cons, String.join_nil] using stored
  · rw [LabeledUnit.id_eq, LabeledUnit.id_eq, same]

end Pipeline

end MethodCorpus
