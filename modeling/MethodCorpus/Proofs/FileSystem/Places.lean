import Mathlib.Data.List.Induction
import MethodCorpus.Proofs.FileSystem.Contents

/-!
# Places that paths lead to

A walk steps from directory to directory. So a path that leads to a file ends with the name of that
file, and it can be written and moved by that path. What writing and moving do is told here by the
places that they touch.

* `take_of_walk`: what is above a place that a walk leads to;
* `goal_of_file`: a path that leads to a file names it;
* `places_of_writeFile`, `places_of_moveFile`: the places that are touched.
-/

namespace MethodCorpus.FileSystem

variable {fs fs' : FileSystem} {path : String} {place : Route}

/-! ## Places that a walk leads to -/

theorem walk_concat_eq_ok_iff {front : List String} {last : String} :
    fs.walk (front ++ [last]) = .ok place ↔
      ∃ there, fs.walk front = .ok there ∧ fs.step there last = .ok place := by
  rw [walk, walk, List.foldlM_append, bind_eq_ok_iff]
  simp only [List.foldlM_cons, List.foldlM_nil, bind_pure]

/-- A walk steps from directory to directory, so every place above the one that it leads to is a
directory. -/
theorem take_of_walk {segments : List String} (h : fs.walk segments = .ok place) {n : Nat}
    (above : n < place.length) : fs.lookup (place.take n) = some .directory := by
  induction segments using List.reverseRecOn generalizing place n with
  | nil =>
    obtain rfl := Except.ok.inj h
    cases above
  | append_singleton front last ih =>
    obtain ⟨there, walked, taken⟩ := walk_concat_eq_ok_iff.1 h
    have here := directory_of_step taken
    rw [step, here] at taken
    dsimp only at taken
    split_ifs at taken <;> obtain rfl := Except.ok.inj taken
    · exact ih walked above
    · rw [List.length_dropLast] at above
      rw [List.dropLast_eq_take, List.take_take, Nat.min_eq_left (Nat.le_of_lt above)]
      exact ih walked (by omega)
    · rw [List.length_append, List.length_singleton, Nat.lt_succ_iff] at above
      rw [List.take_append_of_le_length above]
      rcases Nat.lt_or_eq_of_le above with above | rfl
      · exact ih walked above
      · rwa [List.take_length]

/-- A step that does not lead to a directory goes on with a name. -/
theorem not_idle_of_step {segments : List String} {there : Route} {last : String}
    (walked : fs.walk segments = .ok there) (taken : fs.step there last = .ok place)
    (noDirectory : fs.lookup place ≠ some .directory) :
    Path.isIdle last = false ∧ last ≠ ".." := by
  have here := directory_of_step taken
  rw [step, here] at taken
  dsimp only at taken
  split_ifs at taken with idle up
  · obtain rfl := Except.ok.inj taken
    exact absurd here noDirectory
  · obtain rfl := Except.ok.inj taken
    refine absurd ?_ noDirectory
    rw [List.dropLast_eq_take]
    cases there with
    | nil => exact lookup_nil fs
    | cons name names => exact take_of_walk walked (by simp)
  · exact ⟨Bool.eq_false_iff.2 idle, up⟩

/-- A path that leads to a file names it at its end. -/
theorem goal_of_file {contents : ByteArray} (located : fs.locate path = .ok place)
    (file : fs.lookup place = some (.file contents)) : fs.goal path = .ok (.name place false) := by
  have noDirectory : fs.lookup place ≠ some .directory := by simp [file]
  obtain ⟨segments, usable, walked⟩ := locate_eq_ok_iff.1 located
  rcases List.eq_nil_or_concat segments with rfl | ⟨front, last, rfl⟩
  · obtain rfl := Except.ok.inj walked
    exact absurd (lookup_nil fs) noDirectory
  · rw [List.concat_eq_append] at usable walked
    obtain ⟨there, before, taken⟩ := walk_concat_eq_ok_iff.1 walked
    obtain ⟨notIdle, notUp⟩ := not_idle_of_step before taken noDirectory
    simp only [Path.isIdle, Bool.or_eq_false_iff, beq_eq_false_iff_ne] at notIdle
    have shape : (front ++ [last]).reverse.dropWhile (· == "") = last :: front.reverse := by
      rw [List.reverse_concat, List.dropWhile_cons_of_neg (by simpa using notIdle.1)]
    simp only [goal, usable, bind, Except.bind, shape, List.reverse_cons, List.reverse_reverse,
      walked]
    simp [notIdle, notUp]

/-! ## Places that are written to -/

/-- Writing a file touches the place where its path leads. -/
theorem places_of_writeFile {contents : ByteArray} (h : fs.writeFile path contents = .ok fs') :
    Keeps fs fs' ∧ ∃ place, fs'.locate path = .ok place ∧
      fs'.lookup place = some (.file contents) ∧
      ∀ other, other ≠ place → fs'.lookup other = fs.lookup other := by
  obtain ⟨place, named, noDirectory, rfl⟩ := writeFile_eq_ok_iff.1 h
  have below : place ≠ [] := fun root => noDirectory (root ▸ lookup_nil fs)
  have keeps : Keeps fs (fs.put place (.file contents)) := keeps_put noDirectory
  exact ⟨keeps, place, locate_of_bareGoal (goal_of_keeps keeps named), lookup_put_self below fs _,
    fun other differ => lookup_put_of_ne differ.symm fs _⟩

/-- Moving a file touches the place where it was and the one where it is then. -/
theorem places_of_moveFile {source target : String} (h : fs.moveFile source target = .ok fs') :
    Keeps fs fs' ∧ ∃ old new, fs.locate source = .ok old ∧ fs'.locate target = .ok new ∧
      (old = new ∨ fs'.lookup old = none) ∧
      ∀ other, other ≠ old → other ≠ new → fs'.lookup other = fs.lookup other := by
  obtain ⟨old, new, contents, named, named', found, noDirectory, rfl⟩ := moveFile_eq_ok_iff.1 h
  have keeps := keeps_of_move found noDirectory contents
  have below : old ≠ [] := by
    rintro rfl
    cases found
  refine ⟨keeps, old, new, locate_of_bareGoal named,
    locate_of_bareGoal (goal_of_keeps keeps named'), ?_, fun other notOld notNew => ?_⟩
  · by_cases here : new = old
    · exact .inl here.symm
    · rw [lookup_put_of_ne here]
      exact .inr (lookup_erase_self below fs)
  · rw [lookup_put_of_ne notNew.symm, lookup_erase_of_ne notOld.symm]

end MethodCorpus.FileSystem
