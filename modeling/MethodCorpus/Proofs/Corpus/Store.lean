import MethodCorpus.Corpus.Store
import MethodCorpus.Proofs.FileSystem.Below
import MethodCorpus.Proofs.FileSystem.Deletion
import MethodCorpus.Proofs.Json.Lines

/-!
# What a store holds

Opening a store makes directories and empties one file; nothing else changes. A store that is open
can be written, and then it holds the records that were written, one on each line, and nothing of
what was there before.

* `lookup_of_create`: the files that are still there when a store is open;
* `exists_write`: an open store can be written;
* `readFile_of_write`, `count_newline_contents`: what is in a store then;
* `exists_create_of_lacks`: a file that is missing does not keep a store from being opened.
-/

namespace MethodCorpus.Store

open FileSystem

variable {fs fs' opened : FileSystem} {directory : String} {place victim : Route}
  {records : List Record}

/-! ## Opening -/

/-- The name of a store's file is a name, and it stands in the store's directory. -/
theorem isName_fileName : Path.IsName fileName := ⟨by decide, by decide, by decide⟩

theorem create_eq_ok_iff :
    create fs directory = (opened, .ok ()) ↔
      ∃ made, fs.createDirectories directory = (made, none) ∧
        made.writeFile (filePath directory) .empty = .ok opened := by
  rw [create]
  cases fs.createDirectories directory with
  | mk made fault =>
    cases fault with
    | some fault => simp
    | none =>
      cases written : made.writeFile (filePath directory) .empty <;> simp [written]

/-- Opening a store leaves all directories in place. -/
theorem keeps_of_create (h : create fs directory = (opened, .ok ())) : Keeps fs opened := by
  obtain ⟨made, directories, written⟩ := create_eq_ok_iff.1 h
  obtain ⟨place, -, noDirectory, rfl⟩ := writeFile_eq_ok_iff.1 written
  exact (adds_of_createDirectories directories).keeps.trans (keeps_put noDirectory)

/-- Opening a store leaves all files as they are, but for one with the name of the store's file. -/
theorem lookup_of_create (nonempty : directory ≠ "") (h : create fs directory = (opened, .ok ()))
    (other : place.getLast? ≠ some fileName) (contents : ByteArray) :
    opened.lookup place = some (.file contents) ↔ fs.lookup place = some (.file contents) := by
  obtain ⟨made, directories, written⟩ := create_eq_ok_iff.1 h
  obtain ⟨there, named, -, rfl⟩ := writeFile_eq_ok_iff.1 written
  have differ : there ≠ place := by
    rintro rfl
    exact other (getLast?_of_goal_join nonempty isName_fileName named)
  rw [lookup_put_of_ne differ, (adds_of_createDirectories directories).lookup_eq_file]

/-- Where a store could be opened, it can be opened without a file. -/
theorem exists_create_of_lacks (lacks : Lacks victim fs fs')
    (h : create fs directory = (opened, .ok ())) :
    ∃ opened', create fs' directory = (opened', .ok ()) := by
  obtain ⟨made, directories, written⟩ := create_eq_ok_iff.1 h
  obtain ⟨made', directories', lacks'⟩ := lacks.createDirectories directories
  obtain ⟨opened', written'⟩ := lacks'.writeFile written
  exact ⟨opened', create_eq_ok_iff.2 ⟨made', directories', written'⟩⟩

/-- Whether it is opened or not, what is left is well-formed. -/
theorem wellFormed_create (wellFormed : fs.WellFormed) (directory : String) :
    (create fs directory).1.WellFormed := by
  have directories := wellFormed.createDirectories directory
  rw [create]
  rcases made : fs.createDirectories directory with ⟨fs', _ | fault⟩ <;> rw [made] at directories
  · dsimp only
    cases written : fs'.writeFile (filePath directory) .empty with
    | error fault => exact directories
    | ok opened => exact directories.writeFile written
  · exact directories

/-! ## Writing -/

theorem write_eq_ok_iff :
    write fs directory records = (fs', .ok ()) ↔
      fs.writeFile (filePath directory) (contents records).toUTF8 = .ok fs' := by
  rw [write]
  cases fs.writeFile (filePath directory) (contents records).toUTF8 <;> simp

theorem wellFormed_write (wellFormed : fs.WellFormed) (directory : String)
    (records : List Record) : (write fs directory records).1.WellFormed := by
  rw [write]
  cases written : fs.writeFile (filePath directory) (contents records).toUTF8 with
  | error fault => exact wellFormed
  | ok fs' => exact wellFormed.writeFile written

/-- An open store can be written. -/
theorem exists_write (h : create fs directory = (opened, .ok ())) (records : List Record) :
    ∃ fs', write opened directory records = (fs', .ok ()) := by
  obtain ⟨made, -, written⟩ := create_eq_ok_iff.1 h
  obtain ⟨fs', again⟩ := exists_writeFile_again written (contents records).toUTF8
  exact ⟨fs', write_eq_ok_iff.2 again⟩

/-- A store holds what was written and nothing else. -/
theorem readFile_of_write (h : write fs directory records = (fs', .ok ())) :
    fs'.readFile (filePath directory) = .ok (contents records).toUTF8 :=
  readFile_writeFile (write_eq_ok_iff.1 h)

theorem count_newline_line (record : Record) : record.line.toList.count '\n' = 1 := by
  rw [Record.line, String.toList_append, List.count_append,
    List.count_eq_zero.2 ((Json.unbroken_compact _).notMem (by decide))]
  rfl

/-- A store has as many lines as records. -/
theorem count_newline_contents (records : List Record) :
    (contents records).toList.count '\n' = records.length := by
  induction records with
  | nil => rfl
  | cons record records ih =>
    rw [contents] at ih ⊢
    rw [List.map_cons, String.join_cons, String.toList_append, List.count_append,
      count_newline_line, ih, List.length_cons, Nat.add_comm]

end MethodCorpus.Store
