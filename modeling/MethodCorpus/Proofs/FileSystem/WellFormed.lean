import MethodCorpus.Proofs.FileSystem.Contents
import MethodCorpus.Proofs.Path

/-!
# Well-formed file systems

In a file system that is well-formed everything has a name and stands in a directory. Files and
directories are made by path, and the end of a path that names something names it in a directory, so
whatever is made or written leaves a file system well-formed.

* `WellFormed`: names can be names, and whatever is there stands in a directory;
* `WellFormed.lookup_take`: every place on the way to something is a directory;
* `exists_concat_of_goal`: what the end of a path names;
* `WellFormed.put`, `WellFormed.erase`: one change;
* `WellFormed.createDirectories`, `WellFormed.writeFile`: what is made by path.
-/

namespace MethodCorpus.FileSystem

variable {fs fs' : FileSystem} {path : String} {place route above : Route}

/-! ## Items -/

/-- A place holds what is listed for it, since nothing else is. -/
theorem find?_eq_some_iff {items : List (Route × Item)} (ordered : Ordered items) {item : Item} :
    find? place items = some item ↔ (place, item) ∈ items := by
  induction items with
  | nil => simp [find?]
  | cons first rest ih =>
    obtain ⟨route, other⟩ := first
    obtain ⟨before, ordered⟩ := List.pairwise_cons.1 ordered
    rw [find?, List.mem_cons, Prod.mk.injEq]
    split
    · next here =>
      subst here
      have only : (route, item) ∉ rest := fun mem =>
        List.lt_irrefl route (before (route, item) mem)
      simp [only, eq_comm]
    · next elsewhere => simp [ih ordered, Ne.symm elsewhere]

theorem lookup_eq_some_of_mem {item : Item} (below : route ≠ []) (h : (route, item) ∈ fs.items) :
    fs.lookup route = some item := by
  rw [lookup, if_neg below]
  exact (find?_eq_some_iff fs.ordered).2 h

theorem mem_items_of_lookup {item : Item} (below : route ≠ []) (h : fs.lookup route = some item) :
    (route, item) ∈ fs.items := by
  rw [lookup, if_neg below] at h
  exact (find?_eq_some_iff fs.ordered).1 h

/-! ## Well-formed file systems -/

/-- Every name can be the name of a file or a directory, and everything stands in a directory. -/
structure WellFormed (fs : FileSystem) : Prop where
  named : ∀ entry ∈ fs.items, ∀ name ∈ entry.1, Path.IsName name
  rooted : ∀ entry ∈ fs.items, fs.lookup entry.1.dropLast = some .directory

instance (fs : FileSystem) : Decidable fs.WellFormed :=
  decidable_of_iff ((∀ entry ∈ fs.items, ∀ name ∈ entry.1, Path.IsName name) ∧
      ∀ entry ∈ fs.items, fs.lookup entry.1.dropLast = some .directory)
    ⟨fun h => ⟨h.1, h.2⟩, fun h => ⟨h.named, h.rooted⟩⟩

/-- Every place on the way to something is a directory. -/
theorem WellFormed.lookup_take (wellFormed : fs.WellFormed) {item : Item}
    (h : (route, item) ∈ fs.items) {n : Nat} (inside : n < route.length) :
    fs.lookup (route.take n) = some .directory := by
  induction length : route.length generalizing route item with
  | zero => omega
  | succ count ih =>
    have above := wellFormed.rooted _ h
    dsimp only at above
    by_cases last : n = count
    · have shorter : route.take n = route.dropLast := by
        rw [List.dropLast_eq_take, length, last, Nat.add_sub_cancel]
      rw [shorter, above]
    · have longer : route.dropLast.length = count := by
        rw [List.length_dropLast, length, Nat.add_sub_cancel]
      have below : route.dropLast ≠ [] := by
        rw [← List.length_pos_iff]
        omega
      have same : route.take n = route.dropLast.take n := by
        rw [List.dropLast_eq_take, List.take_take, Nat.min_eq_left (by omega)]
      rw [same]
      exact ih (mem_items_of_lookup below above) (by omega) longer

/-! ## One change -/

theorem wellFormed_empty : empty.WellFormed := ⟨nofun, nofun⟩

/-- The names on the way to something that is there. -/
theorem WellFormed.isName_of_lookup (wellFormed : fs.WellFormed) {item : Item}
    (h : fs.lookup route = some item) {name : String} (mem : name ∈ route) : Path.IsName name :=
  wellFormed.named _ (mem_items_of_lookup (List.ne_nil_of_mem mem) h) name mem

/-- Something can be put into a directory under a name. A directory that is there already may only
be put there again, since there may be something in it. -/
theorem WellFormed.put (wellFormed : fs.WellFormed) {name : String} {item : Item}
    (isDirectory : fs.lookup above = some .directory) (isName : Path.IsName name)
    (safe : fs.lookup (above ++ [name]) = some .directory → item = .directory) :
    (fs.put (above ++ [name]) item).WellFormed := by
  constructor
  · intro entry mem other inside
    rcases eq_or_mem_of_mem_insert mem with rfl | mem
    · rcases List.mem_append.1 inside with inside | inside
      · exact wellFormed.isName_of_lookup isDirectory inside
      · rwa [List.mem_singleton.1 inside]
    · exact wellFormed.named entry mem other inside
  · intro entry mem
    rcases eq_or_mem_of_mem_insert mem with rfl | mem
    · rw [List.dropLast_concat, lookup_put_of_ne (by simp), isDirectory]
    · have rooted := wellFormed.rooted entry mem
      by_cases here : above ++ [name] = entry.1.dropLast
      · rw [← here] at rooted ⊢
        rw [lookup_put_self (by simp), safe rooted]
      · rw [lookup_put_of_ne here, rooted]

/-- Names are still names where a file is taken away, and directories are still there. -/
theorem WellFormed.erase (wellFormed : fs.WellFormed) {contents : ByteArray}
    (h : fs.lookup place = some (.file contents)) : (fs.erase place).WellFormed := by
  refine ⟨fun entry mem => wellFormed.named entry (List.mem_of_mem_filter mem), fun entry mem => ?_⟩
  have above := wellFormed.rooted entry (List.mem_of_mem_filter mem)
  rw [lookup_erase_of_ne, above]
  rintro rfl
  rw [h] at above
  cases above

/-! ## Changes by path -/

/-- Whether a name is too long to be looked up. -/
def isTooLong (name : String) : Bool := maxNameBytes < name.utf8ByteSize

theorem step_of_isName {name : String} (isName : Path.IsName name)
    (h : fs.lookup place = some .directory) :
    fs.step place name =
      if isTooLong name then .error .nameTooLong else .ok (place ++ [name]) := by
  simp only [step, h, isName.notIdle, isName.notUp, isTooLong, decide_eq_true_eq]
  rfl

/-- A walk that ends with a name ends in a directory, at that name. -/
theorem exists_concat_of_walk {segments : List String} {name : String} (isName : Path.IsName name)
    (h : fs.walk (segments ++ [name]) = .ok place) :
    ∃ above, place = above ++ [name] ∧ fs.lookup above = some .directory := by
  rw [walk, List.foldlM_append] at h
  obtain ⟨above, -, taken⟩ := bind_eq_ok_iff.1 h
  simp only [List.foldlM_cons, List.foldlM_nil, bind_pure] at taken
  have isDirectory := directory_of_step taken
  rw [step_of_isName isName isDirectory] at taken
  split at taken
  · cases taken
  · exact ⟨above, (Except.ok.inj taken).symm, isDirectory⟩

/-- The end of a path that names something names it in a directory. -/
theorem exists_concat_of_goal {slash : Bool} (h : fs.goal path = .ok (.name place slash)) :
    ∃ above name, place = above ++ [name] ∧ Path.IsName name ∧
      fs.lookup above = some .directory := by
  obtain ⟨segments, last, behind, usable, -, -, said, other, notUp, walked⟩ := walk_of_goal h
  have mem : last ∈ Path.segments path := by
    rw [← eq_segments_of_usable usable]
    simp
  have isName := Path.isName_of_mem_segments mem said other notUp
  obtain ⟨above, same, isDirectory⟩ := exists_concat_of_walk isName walked
  exact ⟨above, last, same, isName, isDirectory⟩

theorem WellFormed.createDirectory (wellFormed : fs.WellFormed)
    (h : fs.createDirectory path = .ok fs') : fs'.WellFormed := by
  obtain ⟨place, slash, named, -, rfl⟩ := createDirectory_eq_ok_iff.1 h
  obtain ⟨above, name, rfl, isName, isDirectory⟩ := exists_concat_of_goal named
  exact wellFormed.put isDirectory isName fun _ => rfl

theorem WellFormed.createDirectories (wellFormed : fs.WellFormed) (path : String) :
    (fs.createDirectories path).1.WellFormed :=
  createDirectories_induction wellFormed (fun here made => here.createDirectory made) path

theorem WellFormed.writeFile (wellFormed : fs.WellFormed) {contents : ByteArray}
    (h : fs.writeFile path contents = .ok fs') : fs'.WellFormed := by
  obtain ⟨place, named, noDirectory, rfl⟩ := writeFile_eq_ok_iff.1 h
  obtain ⟨above, name, rfl, isName, isDirectory⟩ := exists_concat_of_goal named
  exact wellFormed.put isDirectory isName fun there => absurd there noDirectory

end MethodCorpus.FileSystem
