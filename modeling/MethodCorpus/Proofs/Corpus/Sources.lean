import Mathlib.Data.List.Nodup
import MethodCorpus.Corpus.Source
import MethodCorpus.Proofs.FileSystem.Below
import MethodCorpus.Proofs.FileSystem.Deletion

/-!
# What is read for a source

A source that is listed is loaded from one file, itself or the dump beside it. The directories on
the way to that file are there, so what is loaded depends on nothing but that file: directories that
are added, and other files that are written or taken away, change nothing.

* `Lists`: a file that is listed as a source;
* `Lists.exists_concat`: the names that lead to it;
* `nodup_of_findAll`: a source is listed once;
* `toOption_load`: a source is loaded from the contents of one file;
* `Lists.toOption_load_congr`: where that file is the same, the same is loaded;
* `findAll_erase`, `Lists.toOption_load_erase`: without one source, all others are listed and
  loaded.
-/

namespace MethodCorpus.Source

open FileSystem

variable {parser : String → SyntaxTree} {dialect : Dialect} {fs fs' : FileSystem}
  {root extension path : String} {exclude : List String} {top names front : Route} {last : String}

/-! ## Listed sources -/

/-- Whether names lead from the place of a directory to a file that is listed as a source. -/
structure Lists (fs : FileSystem) (root extension : String) (exclude : List String)
    (top names : Route) : Prop where
  found : fs.directory? root = some top
  listed : names ∈ fs.filesBelow top
  wanted : isWanted root extension exclude names = true

theorem mem_filter_filesBelow_iff (found : fs.directory? root = some top) :
    names ∈ (fs.filesBelow top).filter (isWanted root extension exclude) ↔
      Lists fs root extension exclude top names :=
  List.mem_filter.trans ⟨fun h => ⟨found, h.1, h.2⟩, fun lists => ⟨lists.listed, lists.wanted⟩⟩

theorem findAll_eq_ok_iff {paths : List String} :
    findAll fs root extension exclude = .ok paths ↔
      ∃ top, fs.directory? root = some top ∧
        paths = ((fs.filesBelow top).filter (isWanted root extension exclude)).map fun names =>
          names.foldl Path.join root := by
  rw [findAll]
  cases fs.directory? root <;> simp [eq_comm]

/-- Without one source, all others are listed in the same order. -/
theorem findAll_erase (lists : Lists fs root extension exclude top names) {contents : ByteArray}
    (file : fs.lookup (top ++ names) = some (.file contents)) :
    findAll (fs.erase (top ++ names)) root extension exclude =
      .ok ((((fs.filesBelow top).filter (isWanted root extension exclude)).filter (· ≠ names)).map
        fun other => other.foldl Path.join root) := by
  refine findAll_eq_ok_iff.2 ⟨top, directory?_of_keeps (Lacks.erase file).keeps lists.found, ?_⟩
  rw [filesBelow_erase, List.filter_comm]

namespace Lists

theorem exists_mem_items (lists : Lists fs root extension exclude top names) :
    ∃ contents, (top ++ names, .file contents) ∈ fs.items :=
  mem_filesBelow_iff.1 lists.listed

theorem isName_of_mem (lists : Lists fs root extension exclude top names)
    (wellFormed : fs.WellFormed) {name : String} (mem : name ∈ names) : Path.IsName name := by
  obtain ⟨contents, there⟩ := lists.exists_mem_items
  exact wellFormed.named _ there name (List.mem_append_right top mem)

/-- The last name of a source ends as its extension does. -/
theorem exists_concat (lists : Lists fs root extension exclude top names)
    (wellFormed : fs.WellFormed) (nonempty : extension ≠ "") :
    ∃ front last, names = front ++ [last] ∧
      last.toList.getLast? = extension.toList.getLast? := by
  have wanted := lists.wanted
  simp only [isWanted, Bool.and_eq_true, beq_iff_eq] at wanted
  obtain ⟨last, named, ending⟩ := Path.getLast?_of_extension? wanted.1.2 nonempty
  rw [Path.fileName?_intercalate fun name => lists.isName_of_mem wellFormed] at named
  obtain ⟨front, whole⟩ := List.getLast?_eq_some_iff.1 named
  exact ⟨front, last, whole, ending⟩

theorem exists_lookup (lists : Lists fs root extension exclude top names)
    (wellFormed : fs.WellFormed) (nonempty : extension ≠ "") :
    ∃ contents, fs.lookup (top ++ names) = some (.file contents) := by
  obtain ⟨contents, there⟩ := lists.exists_mem_items
  obtain ⟨front, last, rfl, -⟩ := lists.exists_concat wellFormed nonempty
  exact ⟨contents, lookup_eq_some_of_mem (by simp) there⟩

/-- The places on the way to a source are directories. -/
theorem lookup_take (lists : Lists fs root extension exclude top (front ++ [last]))
    (wellFormed : fs.WellFormed) {n : Nat} (inside : n ≤ front.length) :
    fs.lookup (top ++ front.take n) = some .directory := by
  obtain ⟨contents, there⟩ := lists.exists_mem_items
  have above := wellFormed.lookup_take there (n := top.length + n) (by simp; omega)
  rwa [List.take_length_add_append, List.take_append_of_le_length inside] at above

end Lists

/-- A source is listed once. -/
theorem nodup_of_findAll {paths : List String} (wellFormed : fs.WellFormed)
    (nonempty : extension ≠ "") (found : findAll fs root extension exclude = .ok paths) :
    paths.Nodup := by
  obtain ⟨top, there, rfl⟩ := findAll_eq_ok_iff.1 found
  have rooted : root ≠ "" := by
    rintro rfl
    cases there
  refine List.Nodup.map_on (fun names mem others mem' same => ?_)
    ((nodup_filesBelow fs top).filter _)
  have lists := (mem_filter_filesBelow_iff there).1 mem
  have lists' := (mem_filter_filesBelow_iff there).1 mem'
  obtain ⟨front, last, rfl, -⟩ := lists.exists_concat wellFormed nonempty
  obtain ⟨front', last', rfl, -⟩ := lists'.exists_concat wellFormed nonempty
  exact Path.foldl_join_inj rooted (by simp) (by simp)
    (fun _ => lists.isName_of_mem wellFormed) (fun _ => lists'.isName_of_mem wellFormed) same

/-- The path of a source ends with a name. -/
theorem exists_join_of_findAll {paths : List String} (wellFormed : fs.WellFormed)
    (nonempty : extension ≠ "") (found : findAll fs root extension exclude = .ok paths)
    (mem : path ∈ paths) :
    ∃ folder name, path = Path.join folder name ∧ folder ≠ "" ∧ Path.IsName name := by
  obtain ⟨top, there, rfl⟩ := findAll_eq_ok_iff.1 found
  have rooted : root ≠ "" := by
    rintro rfl
    cases there
  obtain ⟨names, listed, rfl⟩ := List.mem_map.1 mem
  have lists := (mem_filter_filesBelow_iff there).1 listed
  obtain ⟨front, last, rfl, -⟩ := lists.exists_concat wellFormed nonempty
  refine ⟨front.foldl Path.join root, last, List.foldl_concat .., ?_,
    lists.isName_of_mem wellFormed (by simp)⟩
  rcases List.eq_nil_or_concat' front with rfl | ⟨front', last', rfl⟩
  · exact rooted
  · rw [List.foldl_concat]
    exact Path.join_ne_empty (lists.isName_of_mem wellFormed (by simp)).ne_empty

/-! ## Loading -/

/-- The file that a source is read from. -/
def readPath (dialect : Dialect) (path : String) : String :=
  match dialect with
  | .antlr => dumpPath path
  | .srcml => path

/-- The tree of a source, from what is read for it. -/
def treeOf? (parser : String → SyntaxTree) (dialect : Dialect) (text : String) : Option Tree :=
  match dialect with
  | .antlr => (RawTree.ofDump? text).bind fun raw => (Tree.ofRaw raw).toOption
  | .srcml => (srcmlTree parser text).toOption

/-- A source is loaded from the text of one file. -/
theorem toOption_load (parser : String → SyntaxTree) (dialect : Dialect) (fs : FileSystem)
    (path : String) :
    (load parser dialect fs path).toOption =
      (fs.readText (readPath dialect path)).toOption.bind (treeOf? parser dialect) := by
  have forget : ∀ outcome : Except Tree.Fault Tree,
      (outcome.mapError Tree.Fault.error).toOption = outcome.toOption := by
    rintro (fault | tree) <;> rfl
  cases dialect with
  | antlr =>
    rw [load, loadDump, readPath]
    cases fs.readText (dumpPath path) with
    | error fault => rfl
    | ok text =>
      rw [Except.toOption, Option.bind_some, treeOf?]
      dsimp only
      cases RawTree.ofDump? text with
      | none => rfl
      | some raw => exact forget (Tree.ofRaw raw)
  | srcml =>
    rw [load, loadText, readPath]
    cases fs.readText path with
    | error fault => rfl
    | ok text => exact forget (srcmlTree parser text)

/-- The dump of a source stands in the same directory, under a name of its own. -/
theorem isName_readPath (isName : Path.IsName last) : Path.IsName (readPath dialect last) := by
  cases dialect with
  | antlr => exact isName.append ⟨'a', by decide, by decide⟩ (by decide)
  | srcml => exact isName

theorem readPath_join (isName : Path.IsName last) :
    readPath dialect (Path.join path last) = Path.join path (readPath dialect last) := by
  cases dialect with
  | antlr => exact Path.join_append isName ".antlr.json"
  | srcml => rfl

/-- A dump ends as all dumps do. -/
theorem getLast?_readPath (dialect : Dialect) (name : String) :
    (readPath dialect name).toList.getLast? =
      match dialect with
      | .antlr => some 'n'
      | .srcml => name.toList.getLast? := by
  cases dialect with
  | antlr =>
    rw [readPath, dumpPath, String.toList_append, List.getLast?_append_of_ne_nil _ (by decide)]
    rfl
  | srcml => rfl

/-- Where all directories and the file that is read for a source are still there, the same is
loaded. -/
theorem Lists.toOption_load_congr
    (lists : Lists fs root extension exclude top (front ++ [last])) (wellFormed : fs.WellFormed)
    (keeps : Keeps fs fs')
    (same : ∀ contents,
      fs'.lookup (top ++ (front ++ [readPath dialect last])) = some (.file contents) ↔
        fs.lookup (top ++ (front ++ [readPath dialect last])) = some (.file contents)) :
    (load parser dialect fs' ((front ++ [last]).foldl Path.join root)).toOption =
      (load parser dialect fs ((front ++ [last]).foldl Path.join root)).toOption := by
  have isName : Path.IsName last := lists.isName_of_mem wellFormed (by simp)
  have beside : readPath dialect ((front ++ [last]).foldl Path.join root) =
      (front ++ [readPath dialect last]).foldl Path.join root := by
    rw [List.foldl_concat, List.foldl_concat, readPath_join isName]
  have areNames : ∀ name ∈ front ++ [readPath dialect last], Path.IsName name := by
    intro name mem
    rcases List.mem_append.1 mem with mem | mem
    · exact lists.isName_of_mem wellFormed (List.mem_append_left _ mem)
    · rw [List.mem_singleton.1 mem]
      exact isName_readPath isName
  have above : ∀ n < (front ++ [readPath dialect last]).length,
      fs.lookup (top ++ (front ++ [readPath dialect last]).take n) = some .directory := by
    intro n inside
    have short : n ≤ front.length := by simpa [Nat.lt_succ_iff] using inside
    rw [List.take_append_of_le_length short]
    exact lists.lookup_take wellFormed short
  rw [toOption_load, toOption_load, beside]
  congr 1
  ext text
  have read := readFile_below_iff keeps lists.found areNames above same text.toUTF8
  rw [← readText_eq_ok_iff, ← readText_eq_ok_iff] at read
  rw [toOption_eq_some_iff, toOption_eq_some_iff]
  exact read

/-- Without one source, the same is loaded of all others, since sources do not end as dumps do. -/
theorem Lists.toOption_load_erase {other : Route}
    (lists : Lists fs root extension exclude top names)
    (lists' : Lists fs root extension exclude top other) (wellFormed : fs.WellFormed)
    (nonempty : extension ≠ "") (plain : extension.toList.getLast? ≠ some 'n')
    (differ : other ≠ names) {contents : ByteArray}
    (file : fs.lookup (top ++ names) = some (.file contents)) :
    (load parser dialect (fs.erase (top ++ names)) (other.foldl Path.join root)).toOption =
      (load parser dialect fs (other.foldl Path.join root)).toOption := by
  obtain ⟨front, last, rfl, -⟩ := lists'.exists_concat wellFormed nonempty
  refine lists'.toOption_load_congr wellFormed (Lacks.erase file).keeps fun contents => ?_
  rw [lookup_erase_of_ne]
  intro same
  obtain rfl := List.append_cancel_left same
  cases dialect with
  | srcml => exact differ rfl
  | antlr =>
    obtain ⟨front', last', same', ending⟩ := lists.exists_concat wellFormed nonempty
    obtain rfl := List.singleton_inj.1 (List.append_inj' same' rfl).2
    rw [getLast?_readPath] at ending
    exact plain ending.symm

end MethodCorpus.Source
