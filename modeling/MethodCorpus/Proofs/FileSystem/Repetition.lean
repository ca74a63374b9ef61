import MethodCorpus.Proofs.FileSystem.Deletion
import MethodCorpus.Proofs.FileSystem.WellFormed

/-!
# The same change a second time

What was put at a place is replaced by what is put there next, and nothing is left of it. A
directory that was made is there, so making it again does nothing. And a list of files does not
change with what is put where none of them is looked for.

* `put_put`: of two items at one place the second one stays;
* `filesBelow_of_createDirectories`, `filter_filesBelow_put`: the files that are listed afterwards;
* `createDirectories_again`: directories that were made are not made again.
-/

namespace MethodCorpus.FileSystem

variable {fs fs' made : FileSystem} {path : String} {place top : Route} {item : Item}

/-! ## Items -/

theorem insert_insert (place : Route) (item new : Item) (items : List (Route × Item)) :
    insert place new (insert place item items) = insert place new items := by
  induction items with
  | nil => simp [insert]
  | cons first rest ih =>
    obtain ⟨route, other⟩ := first
    rw [insert]
    split
    · next before => simp [insert, before]
    · next notBefore =>
      split
      · next here =>
        subst here
        simp only [insert, if_neg notBefore, if_true]
      · next elsewhere => simp [insert, notBefore, elsewhere, ih]

/-- Of two items that are put at one place the second one stays. -/
theorem put_put (fs : FileSystem) (place : Route) (item new : Item) :
    (fs.put place item).put place new = fs.put place new := by
  simp only [put, insert_insert]

/-- What is found in a list does not change with an item that is passed over, in place of one that
is passed over. -/
theorem filterMap_insert {β : Type} {found : Route × Item → Option β} {items : List (Route × Item)}
    (new : found (place, item) = none)
    (old : ∀ other, (place, other) ∈ items → found (place, other) = none) :
    (insert place item items).filterMap found = items.filterMap found := by
  induction items with
  | nil => rw [insert, List.filterMap_cons_none new]
  | cons first rest ih =>
    obtain ⟨route, other⟩ := first
    rw [insert]
    split
    · rw [List.filterMap_cons_none new]
    · split
      · next here =>
        subst here
        rw [List.filterMap_cons_none new, List.filterMap_cons_none (old other List.mem_cons_self)]
      · have below := ih fun other mem => old other (List.mem_cons_of_mem _ mem)
        rw [List.filterMap_cons, List.filterMap_cons, below]

/-! ## Files that are listed -/

/-- A directory that is put where there is nothing adds no file. -/
theorem filesBelow_put_directory (nothing : fs.lookup place = none) (top : Route) :
    (fs.put place .directory).filesBelow top = fs.filesBelow top := by
  refine filterMap_insert rfl fun other mem => ?_
  have below : place ≠ [] := by
    rintro rfl
    cases nothing
  rw [lookup_eq_some_of_mem below mem] at nothing
  cases nothing

theorem filesBelow_of_createDirectories {fault : Option Fault}
    (h : fs.createDirectories path = (made, fault)) (top : Route) :
    made.filesBelow top = fs.filesBelow top := by
  have same := createDirectories_induction
    (motive := fun made => made.filesBelow top = fs.filesBelow top) rfl
    (fun same outcome => by
      obtain ⟨place, slash, -, nothing, rfl⟩ := createDirectory_eq_ok_iff.1 outcome
      rw [filesBelow_put_directory nothing, same]) path
  rwa [h] at same

/-- What is put at a place is not among the files that are wanted if none is wanted there. -/
theorem filter_filesBelow_put {wanted : Route → Bool} (item : Item)
    (unwanted : ∀ names, place = top ++ names → wanted names = false) :
    ((fs.put place item).filesBelow top).filter wanted = (fs.filesBelow top).filter wanted := by
  rw [filesBelow, filesBelow, List.filter_filterMap, List.filter_filterMap]
  have ignored :
      (if top.isPrefixOf place then some (place.drop top.length) else none).filter wanted =
        none := by
    split
    · next front =>
      obtain ⟨names, rfl⟩ := List.isPrefixOf_iff_prefix.1 front
      rw [List.drop_left, Option.filter_some, unwanted names rfl, if_neg Bool.false_ne_true]
    · rfl
  refine filterMap_insert ?_ fun item _ => ?_ <;>
  · cases item with
    | directory => rfl
    | file contents => exact ignored

/-! ## Directories that are made -/

/-- What the end of a path names is where the path leads, if it is a directory. -/
theorem locate_of_goal {slash : Bool} (named : fs.goal path = .ok (.name place slash))
    (isDirectory : fs.lookup place = some .directory) : fs.locate path = .ok place := by
  obtain ⟨segments, last, behind, usable, idle, -, -, -, -, walked⟩ := walk_of_goal named
  refine locate_eq_ok_iff.2 ⟨_, usable, ?_⟩
  have stays : behind.foldlM fs.step place = .ok place := by
    clear usable
    induction behind with
    | nil => rfl
    | cons segment behind ih =>
      obtain rfl := idle segment List.mem_cons_self
      have here : fs.step place "" = .ok place := by
        rw [step, isDirectory]
        rfl
      rw [List.foldlM_cons, here]
      exact ih fun other mem => idle other (List.mem_cons_of_mem _ mem)
  rw [walk] at walked ⊢
  rw [List.foldlM_append, walked]
  exact stays

theorem isDirectory_of_createDirectory (h : fs.createDirectory path = .ok made) :
    made.isDirectory path = true := by
  obtain ⟨place, slash, named, nothing, rfl⟩ := createDirectory_eq_ok_iff.1 h
  have noDirectory : fs.lookup place ≠ some .directory := by simp [nothing]
  have below : place ≠ [] := by
    rintro rfl
    cases nothing
  have there := lookup_put_self below fs .directory
  have located := locate_of_goal (goal_of_keeps (keeps_put noDirectory) named) there
  exact Option.isSome_iff_exists.2 ⟨place, directory?_eq_some_iff.2 ⟨located, there⟩⟩

theorem isDirectory_of_ensureDirectory (h : fs.ensureDirectory path = (made, none)) :
    made.isDirectory path = true := by
  rcases ensureDirectory_cases h with ⟨-, outcome⟩ | ⟨-, rfl, there⟩ | ⟨missing, -⟩ | ⟨failed, -⟩
  · exact isDirectory_of_createDirectory outcome
  · exact there
  · cases missing
  · exact absurd rfl failed

/-- A path leads to a directory when that directory and all above it were made. -/
theorem isDirectory_of_createDirectories (nonempty : path ≠ "")
    (h : fs.createDirectories path = (made, none)) : made.isDirectory path = true := by
  rw [createDirectories, if_neg (by simpa using nonempty), ensureFirst] at h
  split at h
  · split at h
    · exact isDirectory_of_ensureDirectory h
    · next failed =>
      exact absurd h (failed made)
  · exact isDirectory_of_ensureDirectory h

theorem createDirectories_of_isDirectory (h : fs.isDirectory path = true) :
    fs.createDirectories path = (fs, none) := by
  rw [createDirectories]
  split
  · rfl
  · rw [ensureFirst, ensureDirectory_of_isDirectory h]

/-- Directories that were made are not made again, as long as they are there. -/
theorem createDirectories_again (h : fs.createDirectories path = (made, none))
    (keeps : Keeps made fs') : fs'.createDirectories path = (fs', none) := by
  by_cases empty : path = ""
  · subst empty
    rfl
  · exact createDirectories_of_isDirectory
      (isDirectory_of_keeps keeps (isDirectory_of_createDirectories empty h))

end MethodCorpus.FileSystem
