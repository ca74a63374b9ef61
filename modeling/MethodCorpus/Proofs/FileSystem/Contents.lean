import Mathlib.Data.List.TakeWhile
import MethodCorpus.FileSystem.Access
import MethodCorpus.Proofs.Traverse

/-!
# What stands at a path

A path leads somewhere because the places that it steps through are directories. So a change that
leaves directories in place leaves every path that led somewhere leading there, and a file that is
written is found where it was written.

* `walk_of_keeps`: a walk over directories that are still there;
* `writeFile_eq_ok_iff`: when a file can be written, and what that changes;
* `readFile_writeFile`: what was written is read;
* `exists_writeFile_again`: what could be written once can be written again;
* `moveFile_eq_ok_iff`, `readFile_moveFile`: the same for a file that is moved;
* `createDirectories_induction`: what every directory that is made keeps;
* `adds_of_createDirectories`: making directories does nothing else.
-/

namespace MethodCorpus.FileSystem

variable {fs fs' : FileSystem} {path : String} {place : Route}

/-! ## Walks -/

/-- Whether every directory of a file system is one of another as well. -/
def Keeps (fs fs' : FileSystem) : Prop :=
  ∀ place, fs.lookup place = some .directory → fs'.lookup place = some .directory

theorem Keeps.trans {fs'' : FileSystem} (first : Keeps fs fs') (second : Keeps fs' fs'') :
    Keeps fs fs'' :=
  fun place isDirectory => second place (first place isDirectory)

theorem lookup_nil (fs : FileSystem) : fs.lookup [] = some .directory := rfl

/-- A step that is taken is taken from a directory. -/
theorem directory_of_step {segment : String} {next : Route} (h : fs.step place segment = .ok next) :
    fs.lookup place = some .directory := by
  unfold step at h
  split at h
  · cases h
  · cases h
  · assumption

/-- What a step from a directory leads to is told by the segment. -/
theorem step_congr (h : fs.lookup place = some .directory) (h' : fs'.lookup place = some .directory)
    (segment : String) : fs'.step place segment = fs.step place segment := by
  rw [step, step, h, h']

theorem foldlM_step_of_keeps (keeps : Keeps fs fs') {segments : List String} {start : Route}
    (h : segments.foldlM fs.step start = .ok place) :
    segments.foldlM fs'.step start = .ok place := by
  induction segments generalizing start with
  | nil => exact h
  | cons segment segments ih =>
    rw [List.foldlM_cons] at h ⊢
    obtain ⟨next, taken, further⟩ := bind_eq_ok_iff.1 h
    have here := directory_of_step taken
    rw [step_congr here (keeps start here), taken]
    exact ih further

/-- A walk leads to the same place where its directories are still there. -/
theorem walk_of_keeps (keeps : Keeps fs fs') {segments : List String}
    (h : fs.walk segments = .ok place) : fs'.walk segments = .ok place :=
  foldlM_step_of_keeps keeps h

/-- The segments that are walked are those of the path. -/
theorem eq_segments_of_usable {segments : List String} (h : usableSegments path = .ok segments) :
    segments = Path.segments path := by
  unfold usableSegments at h
  split_ifs at h
  exact (Except.ok.inj h).symm

theorem locate_eq_ok_iff :
    fs.locate path = .ok place ↔
      ∃ segments, usableSegments path = .ok segments ∧ fs.walk segments = .ok place := by
  rw [locate]
  exact bind_eq_ok_iff

theorem locate_of_keeps (keeps : Keeps fs fs') (h : fs.locate path = .ok place) :
    fs'.locate path = .ok place := by
  obtain ⟨segments, usable, walked⟩ := locate_eq_ok_iff.1 h
  exact locate_eq_ok_iff.2 ⟨segments, usable, walk_of_keeps keeps walked⟩

theorem directory?_eq_some_iff :
    fs.directory? path = some place ↔
      fs.locate path = .ok place ∧ fs.lookup place = some .directory := by
  rw [directory?, Option.filter_eq_some_iff]
  cases fs.locate path <;> simp [Except.toOption]

theorem directory?_of_keeps (keeps : Keeps fs fs') (h : fs.directory? path = some place) :
    fs'.directory? path = some place := by
  obtain ⟨located, isDirectory⟩ := directory?_eq_some_iff.1 h
  exact directory?_eq_some_iff.2 ⟨locate_of_keeps keeps located, keeps place isDirectory⟩

theorem isDirectory_of_keeps (keeps : Keeps fs fs') (h : fs.isDirectory path = true) :
    fs'.isDirectory path = true := by
  obtain ⟨place, found⟩ := Option.isSome_iff_exists.1 h
  rw [isDirectory, directory?_of_keeps keeps found]
  rfl

/-! ## Reading -/

theorem readFile_eq_ok_iff {contents : ByteArray} :
    fs.readFile path = .ok contents ↔
      ∃ place, fs.locate path = .ok place ∧ fs.lookup place = some (.file contents) := by
  rw [readFile, bind_eq_ok_iff]
  refine exists_congr fun place => and_congr_right fun _ => ?_
  split <;> simp_all

theorem fromUTF8?_eq_some_iff {contents : ByteArray} {text : String} :
    String.fromUTF8? contents = some text ↔ contents = text.toUTF8 := by
  constructor
  · intro h
    unfold String.fromUTF8? at h
    split at h
    · obtain rfl := Option.some.inj h
      rfl
    · cases h
  · rintro rfl
    exact dif_pos text.isValidUTF8

theorem readText_eq_ok_iff {text : String} :
    fs.readText path = .ok text ↔ fs.readFile path = .ok text.toUTF8 := by
  rw [readText]
  cases fs.readFile path with
  | error fault => simp [bind, Except.bind]
  | ok contents =>
    simp only [bind, Except.bind, Except.ok.injEq, ← fromUTF8?_eq_some_iff]
    split <;> simp_all

/-! ## Writing -/

/-- A file that is put where there is no directory leaves all directories in place. -/
theorem keeps_put {item : Item} (h : fs.lookup place ≠ some .directory) :
    Keeps fs (fs.put place item) := by
  intro other isDirectory
  have differ : place ≠ other := by
    rintro rfl
    exact h isDirectory
  rw [lookup_put_of_ne differ, isDirectory]

/-- What the end of a path names is told by the path alone, or by where one walk leads. -/
theorem goal_cases (path : String) :
    (∃ outcome, ∀ fs : FileSystem, fs.goal path = outcome) ∨
      ∃ (segments : List String) (named : Route → Goal),
        ∀ fs : FileSystem, fs.goal path = (fs.walk segments).map named := by
  cases usable : usableSegments path with
  | error fault => exact .inl ⟨.error fault, fun fs => by rw [goal, usable]; rfl⟩
  | ok segments =>
    cases shape : segments.reverse.dropWhile (· == "") with
    | nil =>
      refine .inl ⟨.ok (.relative []), fun fs => ?_⟩
      simp only [goal, usable, bind, Except.bind, shape]
    | cons last before =>
      refine .inr ⟨(last :: before).reverse, fun place =>
        if last = "." || last = ".." then .relative place
        else .name place (segments.getLast? = some ""), fun fs => ?_⟩
      simp only [goal, usable, bind, Except.bind, shape]
      cases fs.walk (last :: before).reverse with
      | error fault => rfl
      | ok place => simp only [Except.map]; split <;> rfl

theorem goal_of_keeps (keeps : Keeps fs fs') {goal : Goal} (h : fs.goal path = .ok goal) :
    fs'.goal path = .ok goal := by
  rcases goal_cases path with ⟨outcome, same⟩ | ⟨segments, named, same⟩
  · rw [same, ← same fs, h]
  · rw [same] at h ⊢
    cases walked : fs.walk segments with
    | error fault =>
      rw [walked] at h
      cases h
    | ok place =>
      rw [walked] at h
      rw [walk_of_keeps keeps walked, h]

/-- The segments up to the last one that is not empty, and the empty ones behind it. -/
theorem eq_append_of_dropWhile {segments before : List String} {last : String}
    (h : segments.reverse.dropWhile (· == "") = last :: before) :
    segments = (last :: before).reverse ++ (segments.reverse.takeWhile (· == "")).reverse ∧
      last ≠ "" := by
  constructor
  · rw [← h, ← List.reverse_append, List.takeWhile_append_dropWhile, List.reverse_reverse]
  · have first := List.head?_dropWhile_not (· == "") segments.reverse
    rw [h] at first
    simpa using first

/-- A path with a name at its end leads to what it names; only empty segments may follow the name,
and none does if there is no slash at the end. -/
theorem walk_of_goal {slash : Bool} (h : fs.goal path = .ok (.name place slash)) :
    ∃ segments last behind, usableSegments path = .ok (segments ++ [last] ++ behind) ∧
      (∀ segment ∈ behind, segment = "") ∧ (slash = false → behind = []) ∧
      last ≠ "" ∧ last ≠ "." ∧ last ≠ ".." ∧ fs.walk (segments ++ [last]) = .ok place := by
  rw [goal] at h
  obtain ⟨segments, usable, h⟩ := bind_eq_ok_iff.1 h
  split at h
  · cases h
  · next last before shape =>
    obtain ⟨whole, said⟩ := eq_append_of_dropWhile shape
    obtain ⟨there, walked, h⟩ := bind_eq_ok_iff.1 h
    split at h
    · cases h
    · next other =>
      simp only [Except.ok.injEq, Goal.name.injEq] at h
      obtain ⟨rfl, rfl⟩ := h
      simp only [Bool.or_eq_true, decide_eq_true_eq, not_or] at other
      rw [List.reverse_cons] at whole walked
      refine ⟨before.reverse, last, _, usable.trans (congrArg Except.ok whole),
        fun segment mem => ?_, fun bare => ?_, said, other.1, other.2, walked⟩
      · simpa using List.mem_takeWhile_imp (List.mem_reverse.1 mem)
      · -- the last segment says something, so it is the one that is not left out
        rw [decide_eq_false_iff_not, ← List.head?_reverse] at bare
        cases backwards : segments.reverse with
        | nil => rfl
        | cons first others =>
          rw [backwards, List.head?_cons, Option.some.injEq] at bare
          rw [List.takeWhile_cons_of_neg (by simpa using bare), List.reverse_nil]

/-- A file can be written where the end of a path names something that is no directory, and then
that is all that changes. -/
theorem writeFile_eq_ok_iff {contents : ByteArray} :
    fs.writeFile path contents = .ok fs' ↔
      ∃ place, fs.goal path = .ok (.name place false) ∧ fs.lookup place ≠ some .directory ∧
        fs' = fs.put place (.file contents) := by
  rw [writeFile]
  cases fs.goal path with
  | error fault => simp [bind, Except.bind]
  | ok goal =>
    cases goal with
    | relative place => simp [bind, Except.bind]
    | name place slash =>
      cases slash with
      | true => simp [bind, Except.bind]
      | false =>
        simp only [bind, Except.bind, Except.ok.injEq, Goal.name.injEq, and_true, exists_eq_left']
        split <;> simp_all [eq_comm]

/-- A path without a slash at its end leads to what it names. -/
theorem locate_of_bareGoal (named : fs.goal path = .ok (.name place false)) :
    fs.locate path = .ok place := by
  obtain ⟨segments, last, behind, usable, -, bare, -, -, -, walked⟩ := walk_of_goal named
  rw [bare rfl, List.append_nil] at usable
  exact locate_eq_ok_iff.2 ⟨_, usable, walked⟩

/-- What was written at a path is found there. -/
theorem readFile_writeFile {contents : ByteArray} (h : fs.writeFile path contents = .ok fs') :
    fs'.readFile path = .ok contents := by
  obtain ⟨place, named, noDirectory, rfl⟩ := writeFile_eq_ok_iff.1 h
  have below : place ≠ [] := fun root => noDirectory (root ▸ lookup_nil fs)
  exact readFile_eq_ok_iff.2 ⟨place,
    locate_of_bareGoal (goal_of_keeps (keeps_put noDirectory) named), lookup_put_self below fs _⟩

/-- A file that was written can be written again. -/
theorem exists_writeFile_again {contents : ByteArray} (h : fs.writeFile path contents = .ok fs')
    (contents' : ByteArray) : ∃ fs'', fs'.writeFile path contents' = .ok fs'' := by
  obtain ⟨place, named, noDirectory, rfl⟩ := writeFile_eq_ok_iff.1 h
  have below : place ≠ [] := fun root => noDirectory (root ▸ lookup_nil fs)
  refine ⟨_, writeFile_eq_ok_iff.2 ⟨place, goal_of_keeps (keeps_put noDirectory) named, ?_, rfl⟩⟩
  rw [lookup_put_self below]
  simp

/-! ## Moving -/

/-- A file that is taken away leaves all directories in place. -/
theorem keeps_erase (h : fs.lookup place ≠ some .directory) : Keeps fs (fs.erase place) := by
  intro other isDirectory
  have differ : place ≠ other := by
    rintro rfl
    exact h isDirectory
  rw [lookup_erase_of_ne differ, isDirectory]

/-- A file can be moved to where the end of a path names something that is no directory, and then
it is gone from where it was. -/
theorem moveFile_eq_ok_iff {source target : String} :
    fs.moveFile source target = .ok fs' ↔
      ∃ old new contents, fs.goal source = .ok (.name old false) ∧
        fs.goal target = .ok (.name new false) ∧ fs.lookup old = some (.file contents) ∧
        fs.lookup new ≠ some .directory ∧ fs' = (fs.erase old).put new (.file contents) := by
  rw [moveFile]
  rcases fs.goal source with fault | ⟨old, slash⟩ | there
  · simp [bind, Except.bind]
  · rcases fs.goal target with fault | ⟨new, slash'⟩ | there
    · simp [bind, Except.bind]
    · rcases found : fs.lookup old with _ | _ | contents
      · simp [bind, Except.bind, found]
      · simp [bind, Except.bind, found]
      · cases slash <;> cases slash' <;> simp [bind, Except.bind, found]
        split <;> simp_all [eq_comm]
    · simp [bind, Except.bind]
  · cases fs.goal target <;> simp [bind, Except.bind]

/-- Moving a file to where there is no directory leaves all directories in place. -/
theorem keeps_of_move {old new : Route} {contents : ByteArray}
    (found : fs.lookup old = some (.file contents)) (noDirectory : fs.lookup new ≠ some .directory)
    (contents' : ByteArray) :
    Keeps fs ((fs.erase old).put new (.file contents')) := by
  have below : old ≠ [] := by
    rintro rfl
    cases found
  have noDirectory' : (fs.erase old).lookup new ≠ some .directory := by
    by_cases here : old = new
    · rw [← here, lookup_erase_self below]
      simp
    · rwa [lookup_erase_of_ne here]
  exact (keeps_erase (by simp [found])).trans (keeps_put noDirectory')

/-- What was read at a path is read where it was moved to. -/
theorem readFile_moveFile {source target : String} {contents : ByteArray}
    (there : fs.readFile source = .ok contents) (h : fs.moveFile source target = .ok fs') :
    fs'.readFile target = .ok contents := by
  obtain ⟨old, new, contents', named, named', found, noDirectory, rfl⟩ := moveFile_eq_ok_iff.1 h
  obtain ⟨place, located, same⟩ := readFile_eq_ok_iff.1 there
  obtain rfl : place = old := Except.ok.inj (located.symm.trans (locate_of_bareGoal named))
  obtain rfl : contents = contents' := by simpa [found] using same.symm
  have below : new ≠ [] := fun root => noDirectory (root ▸ lookup_nil fs)
  have keeps := keeps_of_move found noDirectory contents
  exact readFile_eq_ok_iff.2 ⟨new, locate_of_bareGoal (goal_of_keeps keeps named'),
    lookup_put_self below _ _⟩

/-! ## Making directories -/

/-- Whether a file system is another one with directories where there was nothing. -/
def AddsDirectories (fs fs' : FileSystem) : Prop :=
  ∀ place, fs'.lookup place = fs.lookup place ∨
    (fs.lookup place = none ∧ fs'.lookup place = some .directory)

theorem AddsDirectories.refl (fs : FileSystem) : AddsDirectories fs fs := fun _ => .inl rfl

theorem AddsDirectories.trans {fs'' : FileSystem} (first : AddsDirectories fs fs')
    (second : AddsDirectories fs' fs'') : AddsDirectories fs fs'' := by
  intro place
  rcases second place with same | ⟨nothing, made⟩
  · rw [same]
    exact first place
  · rcases first place with same' | ⟨-, made'⟩
    · exact .inr ⟨same' ▸ nothing, made⟩
    · rw [made'] at nothing
      cases nothing

/-- What stands anywhere stays there when directories are made. -/
theorem AddsDirectories.lookup_eq_some (adds : AddsDirectories fs fs') {item : Item}
    (h : fs.lookup place = some item) : fs'.lookup place = some item := by
  rcases adds place with same | ⟨nothing, -⟩
  · rw [same, h]
  · rw [nothing] at h
    cases h

theorem AddsDirectories.keeps (adds : AddsDirectories fs fs') : Keeps fs fs' :=
  fun _ => adds.lookup_eq_some

/-- Where there is a file when directories were made, it was there before. -/
theorem AddsDirectories.lookup_eq_file (adds : AddsDirectories fs fs') {contents : ByteArray} :
    fs'.lookup place = some (.file contents) ↔ fs.lookup place = some (.file contents) := by
  constructor
  · intro h
    rcases adds place with same | ⟨-, made⟩
    · rw [← same, h]
    · rw [made] at h
      cases h
  · exact adds.lookup_eq_some

theorem createDirectory_eq_ok_iff :
    fs.createDirectory path = .ok fs' ↔
      ∃ place slash, fs.goal path = .ok (.name place slash) ∧ fs.lookup place = none ∧
        fs' = fs.put place .directory := by
  rw [createDirectory]
  cases fs.goal path with
  | error fault => simp [bind, Except.bind]
  | ok goal =>
    cases goal with
    | relative place => simp [bind, Except.bind]
    | name place slash =>
      simp only [bind, Except.bind, Except.ok.injEq, Goal.name.injEq]
      cases found : fs.lookup place with
      | none => simp [found, eq_comm]
      | some item => simp [found]

theorem adds_of_createDirectory (h : fs.createDirectory path = .ok fs') :
    AddsDirectories fs fs' := by
  obtain ⟨place, slash, -, nothing, rfl⟩ := createDirectory_eq_ok_iff.1 h
  intro other
  by_cases here : place = other
  · subst here
    have below : place ≠ [] := by
      rintro rfl
      cases nothing
    exact .inr ⟨nothing, lookup_put_self below fs _⟩
  · exact .inl (lookup_put_of_ne here fs _)

/-- The paths at which directories may have to be made so that there is one at a path. -/
def upperPaths (path : String) : List String := path :: Path.above (Path.trim (Path.segments path))

/-- What holds of a file system and is kept by each directory that is made on the way to one holds
when that is made. -/
theorem createDirectories_induction_on_upperPaths {motive : FileSystem → Prop} (start : motive fs)
    (made : ∀ {fs upper fs'}, upper ∈ upperPaths path → motive fs →
      fs.createDirectory upper = .ok fs' → motive fs') :
    motive (fs.createDirectories path).1 := by
  have one : ∀ {fs}, motive fs → ∀ upper ∈ upperPaths path,
      motive (fs.ensureDirectory upper).1 := by
    intro fs here upper listed
    rw [ensureDirectory]
    cases outcome : fs.createDirectory upper with
    | ok fs' => exact made listed here outcome
    | error fault => exact here
  have first : ∀ paths, (∀ upper ∈ paths, upper ∈ upperPaths path) → ∀ {fs}, motive fs →
      motive (fs.ensureFirst paths).1 := by
    intro paths
    induction paths with
    | nil => exact fun _ _ here => here
    | cons upper above ih =>
      intro listed fs here
      obtain ⟨isUpper, listed⟩ := List.forall_mem_cons.1 listed
      have next := one here upper isUpper
      rw [ensureFirst]
      split
      · next fs' missing =>
        rw [missing] at next
        have upper' := ih listed next
        split
        · next fs'' done =>
          rw [done] at upper'
          exact one upper' upper isUpper
        · exact upper'
      · exact next
  rw [createDirectories]
  split
  · exact start
  · exact first _ (fun _ mem => mem) start

/-- What holds of a file system and is kept by each directory that is made holds when a directory
and all above it are made. -/
theorem createDirectories_induction {motive : FileSystem → Prop} (start : motive fs)
    (made : ∀ {fs path fs'}, motive fs → fs.createDirectory path = .ok fs' → motive fs')
    (path : String) : motive (fs.createDirectories path).1 :=
  createDirectories_induction_on_upperPaths start fun _ => made

/-- Making directories does nothing else. -/
theorem adds_of_createDirectories {fault : Option Fault}
    (h : fs.createDirectories path = (fs', fault)) : AddsDirectories fs fs' := by
  have adds := createDirectories_induction (motive := AddsDirectories fs) (.refl fs)
    (fun adds made => adds.trans (adds_of_createDirectory made)) path
  rwa [h] at adds

end MethodCorpus.FileSystem
