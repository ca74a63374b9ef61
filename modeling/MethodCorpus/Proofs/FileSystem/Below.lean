import MethodCorpus.Proofs.FileSystem.WellFormed

/-!
# What stands below a directory

Names that lead from a directory to a file are put together behind the path of the directory. If all
names can be names and every place but the last is a directory, that path leads to the file, and it
does so in any file system that still has those directories.

* `mem_filesBelow_iff`, `pairwise_filesBelow`: the files below a place, and their order;
* `walk_foldl_join`: a walk along names behind a path;
* `getLast?_of_goal_join`: what a path with a name behind it names;
* `directory?_append_slash`: a path with a slash behind it;
* `locate_below`: where a path with names behind it leads, told without the file system;
* `readFile_below_iff`: what is read there.
-/

namespace MethodCorpus.FileSystem

variable {fs fs' : FileSystem} {root path : String} {place route : Route} {names : List String}

/-! ## Files below a place -/

theorem mem_filesBelow_iff :
    names ∈ fs.filesBelow place ↔ ∃ contents, (place ++ names, .file contents) ∈ fs.items := by
  rw [filesBelow, List.mem_filterMap]
  constructor
  · rintro ⟨⟨route, item⟩, mem, found⟩
    cases item with
    | directory => cases found
    | file contents =>
      dsimp only at found
      split at found
      · next front =>
        obtain ⟨behind, rfl⟩ := List.isPrefixOf_iff_prefix.1 front
        rw [List.drop_left] at found
        obtain rfl := Option.some.inj found
        exact ⟨contents, mem⟩
      · cases found
  · rintro ⟨contents, mem⟩
    refine ⟨_, mem, ?_⟩
    dsimp only
    rw [if_pos (List.isPrefixOf_iff_prefix.2 (List.prefix_append place names)), List.drop_left]

theorem append_lt_append_iff {front a b : Route} : front ++ a < front ++ b ↔ a < b := by
  induction front with
  | nil => exact Iff.rfl
  | cons name rest ih => simp [ih]

/-- Files are listed in the order of the names that lead to them. -/
theorem pairwise_filesBelow (fs : FileSystem) (place : Route) :
    (fs.filesBelow place).Pairwise (· < ·) := by
  have found : ∀ {route names : Route},
      (if place.isPrefixOf route then some (route.drop place.length) else none) = some names →
        route = place ++ names := by
    intro route names h
    obtain ⟨front, behind⟩ := Option.ite_none_right_eq_some.1 h
    obtain ⟨names', rfl⟩ := List.isPrefixOf_iff_prefix.1 front
    rw [List.drop_left] at behind
    rw [Option.some.inj behind]
  refine List.pairwise_filterMap.2 (fs.ordered.imp ?_)
  rintro ⟨route, _ | contents⟩ ⟨route', _ | contents'⟩ before names h names' h'
  · cases h
  · cases h
  · cases h'
  · rw [found h, found h'] at before
    exact append_lt_append_iff.1 before

/-- A file is listed once. -/
theorem nodup_filesBelow (fs : FileSystem) (place : Route) : (fs.filesBelow place).Nodup :=
  (pairwise_filesBelow fs place).imp fun before => by
    rintro rfl
    exact List.lt_irrefl _ before

/-! ## Walks along names -/

/-- Along names whose places are directories a walk leads where the names say, unless one of them is
too long. -/
theorem foldlM_step_names (areNames : ∀ name ∈ names, Path.IsName name)
    (above : ∀ n < names.length, fs.lookup (place ++ names.take n) = some .directory) :
    names.foldlM fs.step place =
      if names.any isTooLong then .error .nameTooLong else .ok (place ++ names) := by
  induction names generalizing place with
  | nil => rw [List.append_nil]; rfl
  | cons name rest ih =>
    have here : fs.lookup place = some .directory := by
      simpa using above 0 (by simp)
    rw [List.foldlM_cons, step_of_isName (areNames name List.mem_cons_self) here, List.any_cons]
    cases isTooLong name with
    | true => rfl
    | false =>
      have further := @ih (place ++ [name]) (fun other mem => areNames other
        (List.mem_cons_of_mem _ mem)) fun n inside => by
          simpa using above (n + 1) (by simpa using inside)
      rw [List.append_assoc, List.singleton_append] at further
      exact further

/-- A walk along a path with a name behind it takes one more step. -/
theorem walk_join {name : String} (nonempty : path ≠ "") (isName : Path.IsName name) :
    fs.walk (Path.segments (Path.join path name)) =
      (fs.walk (Path.segments path)).bind (fs.step · name) := by
  obtain ⟨before, here | here, inside⟩ := Path.exists_segments_join nonempty
  · rw [inside isName, here, walk, List.foldlM_append]
    simp only [List.foldlM_cons, List.foldlM_nil, bind_pure]
    rfl
  · rw [inside isName, here, walk, walk, List.foldlM_append, List.foldlM_append]
    show (before.foldlM fs.step []).bind _ = ((before.foldlM fs.step []).bind _).bind _
    simp only [List.foldlM_cons, List.foldlM_nil, bind_pure]
    cases before.foldlM fs.step [] with
    | error fault => rfl
    | ok place =>
      -- the empty segment behind a slash stays at a directory and is refused anywhere else
      show fs.step place name = (fs.step place "").bind (fs.step · name)
      cases found : fs.lookup place with
      | none => simp [step, found, Except.bind]
      | some item =>
        cases item with
        | file contents => simp [step, found, Except.bind]
        | directory => simp [step, found, Except.bind, Path.isIdle]

theorem walk_foldl_join (nonempty : path ≠ "") (areNames : ∀ name ∈ names, Path.IsName name) :
    fs.walk (Path.segments (names.foldl Path.join path)) =
      (fs.walk (Path.segments path)).bind (names.foldlM fs.step) := by
  induction names generalizing path with
  | nil =>
    rw [List.foldl_nil]
    cases fs.walk (Path.segments path) <;> rfl
  | cons name rest ih =>
    have isName := areNames name List.mem_cons_self
    rw [List.foldl_cons, ih (Path.join_ne_empty isName.ne_empty) fun other mem =>
      areNames other (List.mem_cons_of_mem _ mem), walk_join nonempty isName]
    cases fs.walk (Path.segments path) <;> rfl

/-- Where a path with a name behind it names a place, that place ends with the name. -/
theorem getLast?_of_goal_join {name : String} (nonempty : path ≠ "") (isName : Path.IsName name)
    (h : fs.goal (Path.join path name) = .ok (.name place false)) : place.getLast? = some name := by
  obtain ⟨segments, last, behind, usable, -, bare, -, -, -, walked⟩ := walk_of_goal h
  have whole := eq_segments_of_usable usable
  rw [bare rfl, List.append_nil] at whole
  have same : last = name := by
    obtain ⟨before, -, joined⟩ := Path.exists_segments_join nonempty
    rw [joined isName] at whole
    simpa using congrArg List.getLast? whole
  subst same
  obtain ⟨above, rfl, -⟩ := exists_concat_of_walk isName walked
  exact List.getLast?_concat

/-! ## Slashes behind a path -/

theorem usableSegments_append_slash {segments : List String} (h : usableSegments path = .ok segments)
    (short : (path ++ "/").utf8ByteSize ≤ maxPathBytes) :
    usableSegments (path ++ "/") = .ok (segments ++ [""]) := by
  obtain rfl := eq_segments_of_usable h
  unfold usableSegments at h ⊢
  split_ifs at h with marked
  have unmarked : ¬ (path ++ "/").toList.contains '\x00' = true := by
    simpa using marked
  rw [if_neg unmarked, if_neg (by simp), if_neg (Nat.not_lt.2 short), Path.segments_append_slash]

/-- A slash behind the path of a directory changes nothing unless the path gets too long. -/
theorem directory?_append_slash (h : fs.directory? path = some place)
    (short : (path ++ "/").utf8ByteSize ≤ maxPathBytes) :
    fs.directory? (path ++ "/") = some place := by
  obtain ⟨located, isDirectory⟩ := directory?_eq_some_iff.1 h
  obtain ⟨segments, usable, walked⟩ := locate_eq_ok_iff.1 located
  refine directory?_eq_some_iff.2 ⟨locate_eq_ok_iff.2
    ⟨_, usableSegments_append_slash usable short, ?_⟩, isDirectory⟩
  have stays : fs.step place "" = .ok place := by
    rw [step, isDirectory]
    rfl
  rw [walk, List.foldlM_append]
  exact bind_eq_ok_iff.2 ⟨place, walked, bind_eq_ok_iff.2 ⟨place, stays, rfl⟩⟩

/-! ## Paths below a directory -/

/-- Where names behind the path of a directory lead, if all places on the way are directories. -/
theorem locate_below (h : fs.directory? root = some place)
    (areNames : ∀ name ∈ names, Path.IsName name)
    (above : ∀ n < names.length, fs.lookup (place ++ names.take n) = some .directory) :
    fs.locate (names.foldl Path.join root) =
      (usableSegments (names.foldl Path.join root)).bind fun _ =>
        if names.any isTooLong then .error .nameTooLong else .ok (place ++ names) := by
  obtain ⟨located, -⟩ := directory?_eq_some_iff.1 h
  obtain ⟨segments, usable, walked⟩ := locate_eq_ok_iff.1 located
  have nonempty : root ≠ "" := by
    rintro rfl
    cases usable
  rw [locate]
  cases usable' : usableSegments (names.foldl Path.join root) with
  | error fault => rfl
  | ok segments' =>
    rw [eq_segments_of_usable usable] at walked
    show fs.walk segments' = _
    rw [eq_segments_of_usable usable', walk_foldl_join nonempty areNames, walked]
    exact foldlM_step_names areNames above

/-- At a path below a directory the same is read where the directories on the way are still there
and the same file, if any, stands at its end. -/
theorem readFile_below_iff (keeps : Keeps fs fs') (h : fs.directory? root = some place)
    (areNames : ∀ name ∈ names, Path.IsName name)
    (above : ∀ n < names.length, fs.lookup (place ++ names.take n) = some .directory)
    (same : ∀ contents, fs'.lookup (place ++ names) = some (.file contents) ↔
      fs.lookup (place ++ names) = some (.file contents)) (contents : ByteArray) :
    fs'.readFile (names.foldl Path.join root) = .ok contents ↔
      fs.readFile (names.foldl Path.join root) = .ok contents := by
  rw [readFile_eq_ok_iff, readFile_eq_ok_iff, locate_below h areNames above,
    locate_below (directory?_of_keeps keeps h) areNames fun n inside => keeps _ (above n inside)]
  refine exists_congr fun other => and_congr_right fun located => ?_
  cases usable : usableSegments (names.foldl Path.join root) with
  | error fault =>
    rw [usable] at located
    cases located
  | ok segments =>
    rw [usable] at located
    simp only [Except.bind] at located
    split at located
    · cases located
    · obtain rfl := Except.ok.inj located
      exact same contents

end MethodCorpus.FileSystem
