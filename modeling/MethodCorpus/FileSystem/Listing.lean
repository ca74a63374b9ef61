import MethodCorpus.FileSystem.Basic

/-!
# Listing a directory

A directory is listed by the names of what stands directly in it, in the order of their bytes.

* `mem_sortedEntries_iff`: what is listed of a directory;
* `length_le_depth`: no place is deeper than the file system, so going down comes to an end.
-/

namespace MethodCorpus.FileSystem

/-- The bytes of a name. -/
def nameBytes (name : String) : List UInt8 := name.toUTF8.data.toList

/-- What stands directly in a directory, by name. -/
def entries (fs : FileSystem) (place : Route) : List (String × Item) :=
  fs.items.filterMap fun (route, item) =>
    if route.dropLast = place then route.getLast?.map fun name => (name, item) else none

/-- What stands directly in a directory, in the order of the bytes of the names. -/
def sortedEntries (fs : FileSystem) (place : Route) : List (String × Item) :=
  (fs.entries place).mergeSort fun a b => nameBytes a.1 ≤ nameBytes b.1

/-- The length of the longest route. -/
def depth (fs : FileSystem) : Nat :=
  fs.items.foldr (fun entry depth => max entry.1.length depth) 0

variable {fs : FileSystem} {place : Route} {name : String} {item : Item}

theorem entry_eq_some_iff {entry : Route × Item} {listed : String × Item} :
    (if entry.1.dropLast = place then entry.1.getLast?.map fun name => (name, entry.2) else none) =
      some listed ↔ entry = (place ++ [listed.1], listed.2) := by
  obtain ⟨route, item⟩ := entry
  obtain ⟨name, item'⟩ := listed
  rw [Option.ite_none_right_eq_some, Option.map_eq_some_iff, Prod.mk.injEq]
  constructor
  · rintro ⟨above, last, found, same⟩
    obtain ⟨rfl, rfl⟩ := Prod.mk.inj same
    obtain ⟨front, rfl⟩ := List.getLast?_eq_some_iff.1 found
    rw [← above, List.dropLast_concat]
    exact ⟨rfl, rfl⟩
  · rintro ⟨rfl, rfl⟩
    exact ⟨List.dropLast_concat, name, List.getLast?_concat, rfl⟩

theorem mem_entries_iff :
    (name, item) ∈ fs.entries place ↔ (place ++ [name], item) ∈ fs.items := by
  simp only [entries, List.mem_filterMap, entry_eq_some_iff, exists_eq_right]

theorem mem_sortedEntries_iff :
    (name, item) ∈ fs.sortedEntries place ↔ (place ++ [name], item) ∈ fs.items := by
  rw [sortedEntries, List.mem_mergeSort, mem_entries_iff]

theorem length_le_depth (h : (place, item) ∈ fs.items) : place.length ≤ fs.depth := by
  unfold depth
  generalize fs.items = items at h
  induction items with
  | nil => cases h
  | cons entry rest ih =>
    rw [List.foldr_cons]
    rcases List.mem_cons.1 h with rfl | h
    · exact Nat.le_max_left _ _
    · exact Nat.le_trans (ih h) (Nat.le_max_right _ _)

end MethodCorpus.FileSystem
