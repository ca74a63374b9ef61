import MethodCorpus.Proofs.Corpus.Store
import MethodCorpus.Proofs.Tree.Dump

/-!
# The lines of a store

A store is cut at its line feeds before anything of it is read. That gives the records back, in the
order in which they were stored, since whatever a label, a path or a token holds is escaped: a line
holds no line feed, and no carriage return either.

* `Record.IsLine`, `Record.isLine`: what one line tells of its record;
* `LabeledUnit.IsLine`, `LabeledUnit.isLine`: and of the unit that was recorded;
* `Store.forall₂_isLine`: the lines of a store, record by record;
* `Store.splitOn_contents`: a store is cut into its records;
* `Store.lines_of_units`: what a store holds of the units that were stored.
-/

namespace MethodCorpus

/-! ## One line -/

/-- Whether a line tells what a record holds: an object of the identifier, the label, the path and
the subtree, on one line. -/
structure Record.IsLine (record : Record) (line : String) : Prop where
  noLineFeed : '\n' ∉ line.toList
  noCarriageReturn : '\r' ∉ line.toList
  parse : ∃ subtree, Json.parse line = some (.object [
      (some "id", .string (some record.id)), (some "label", .string (some record.label)),
      (some "path", .string (some record.path)), (some "tree", subtree)]) ∧
    RawTree.ofJson? subtree = some record.tree

theorem Record.isLine (record : Record) : record.IsLine record.toJson.compact where
  noLineFeed := (Json.unbroken_compact _).notMem (by decide)
  noCarriageReturn := (Json.unbroken_compact _).notMem (by decide)
  parse := ⟨_, Json.parse_compact _, RawTree.ofJson?_toJson _⟩

/-- Whether a line tells of a unit what is to be kept of it: an object of the identifier, the label,
the path and the subtree, on one line. -/
structure LabeledUnit.IsLine {tree : Tree} (unit : LabeledUnit tree) (line : String) : Prop where
  noLineFeed : '\n' ∉ line.toList
  noCarriageReturn : '\r' ∉ line.toList
  parse : ∃ subtree, Json.parse line = some (.object [
      (some "id", .string (some unit.id)), (some "label", .string (some unit.label)),
      (some "path", .string (some unit.filePath)), (some "tree", subtree)]) ∧
    RawTree.ofJson? subtree = some unit.root.toRaw

theorem LabeledUnit.isLine {tree : Tree} (unit : LabeledUnit tree) :
    unit.IsLine unit.record.toJson.compact where
  noLineFeed := unit.record.isLine.noLineFeed
  noCarriageReturn := unit.record.isLine.noCarriageReturn
  parse := unit.record.isLine.parse

namespace Store

/-! ## All lines -/

theorem contents_eq_join_lines (records : List Record) :
    contents records = String.join ((records.map (·.toJson.compact)).map (· ++ "\n")) := by
  rw [contents, List.map_map]
  rfl

/-- The lines of a store tell what its records hold. -/
theorem forall₂_isLine (records : List Record) :
    List.Forall₂ Record.IsLine records (records.map (·.toJson.compact)) := by
  rw [List.forall₂_map_right_iff, List.forall₂_same]
  exact fun record _ => record.isLine

theorem contents_cons (record : Record) (records : List Record) :
    contents (record :: records) = record.toJson.compact ++ "\n" ++ contents records := by
  rw [contents, List.map_cons, String.join_cons, ← contents, Record.line]

/-- What a store holds is cut at its line feeds into the records, with nothing behind the last. -/
theorem splitOn_contents (records : List Record) :
    (contents records).toList.splitOn '\n' =
      records.map (·.toJson.compact.toList) ++ [[]] := by
  induction records with
  | nil => exact List.splitOn_nil _
  | cons record records ih =>
    have inside : ∀ c ∈ record.toJson.compact.toList, (c == '\n') = false := by
      intro c mem
      rw [beq_eq_false_iff_ne]
      rintro rfl
      exact record.isLine.noLineFeed mem
    rw [contents_cons, String.toList_append, String.toList_append, List.append_assoc]
    show List.splitOnP _ (_ ++ '\n' :: _) = _
    rw [List.splitOnP_append_cons_of_forall_mem inside _ (by decide)]
    exact congrArg _ ih

variable {fs opened : FileSystem} {directory : String}

/-- Units that are stored in a store that could be opened are found there, whatever stood there
before: one line for each unit, in their order, every line ended by a line feed and with none inside,
and what stands on a line tells of its unit. -/
theorem lines_of_units (created : create fs directory = (opened, .ok ()))
    (units : List (Σ tree : Tree, LabeledUnit tree)) :
    ∃ left lines, write opened directory (units.map (·.2.record)) = (left, .ok ()) ∧
      left.readText (filePath directory) = .ok (String.join (lines.map (· ++ "\n"))) ∧
      (String.join (lines.map (· ++ "\n"))).toList.splitOn '\n' =
        lines.map String.toList ++ [[]] ∧
      List.Forall₂ (fun unit line => unit.2.IsLine line) units lines := by
  obtain ⟨left, written⟩ := exists_write created (units.map (·.2.record))
  have whole : contents (units.map (·.2.record)) =
      String.join ((units.map (·.2.record.toJson.compact)).map (· ++ "\n")) := by
    simp only [contents_eq_join_lines, List.map_map, Function.comp_def]
  refine ⟨left, units.map (·.2.record.toJson.compact), written, ?_, ?_, ?_⟩
  · rw [← whole, FileSystem.readText_eq_ok_iff]
    exact readFile_of_write written
  · rw [← whole, splitOn_contents, List.map_map, List.map_map]
    rfl
  · rw [List.forall₂_map_right_iff, List.forall₂_same]
    exact fun unit _ => unit.2.isLine

/-- A unit whose label and token are broken into lines takes the place of what stood in a store. -/
theorem lines_of_units_with_breaks :
    ∃ (tree : Tree) (opened left : FileSystem) (line : String),
      tree.root.toRaw = .leaf "block" "return\r\n\t\"a\";" ∧
      create ((FileSystem.empty.put ["out"] .directory).put ["out", fileName]
        (.file "old\nold\n".toUTF8)) "out" = (opened, .ok ()) ∧
      write opened "out" [(⟨tree.root, "a\nb", "A.java"⟩ : LabeledUnit tree).record] =
        (left, .ok ()) ∧
      left.readText (filePath "out") = .ok (line ++ "\n") ∧
      (⟨tree.root, "a\nb", "A.java"⟩ : LabeledUnit tree).IsLine line := by
  obtain ⟨tree, -, copy⟩ :=
    @Tree.exists_of_sound (.leaf "block" "return\r\n\t\"a\";") (by decide)
  have opens : (create ((FileSystem.empty.put ["out"] .directory).put ["out", fileName]
      (.file "old\nold\n".toUTF8)) "out").2.toOption = some () := by
    decide +kernel
  have created := Prod.ext rfl (toOption_eq_some_iff.1 opens)
  obtain ⟨left, lines, written, whole, -, each⟩ :=
    lines_of_units created [⟨tree, tree.root, "a\nb", "A.java"⟩]
  obtain ⟨line, others, isLine, none, rfl⟩ := List.forall₂_cons_left_iff.1 each
  obtain rfl := List.forall₂_nil_left_iff.1 none
  refine ⟨tree, _, left, line, copy, created, written, ?_, isLine⟩
  rw [whole, List.map_singleton, String.join_cons, String.join_nil, String.append_empty]

end Store

end MethodCorpus
