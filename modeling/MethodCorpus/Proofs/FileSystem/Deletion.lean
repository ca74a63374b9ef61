import MethodCorpus.Proofs.FileSystem.Contents

/-!
# Taking a file away

Where one file is missing, a path leads somewhere else only if it ran into that file, and then it
led nowhere before. So what could be done next to the file can still be done without it.

* `filesBelow_erase`: the files that are left;
* `Lacks`: a file system without a file of another one;
* `Lacks.createDirectories`: directories that could be made can still be made;
* `Lacks.writeFile`: a file that could be written can still be written.
-/

namespace MethodCorpus.FileSystem

variable {fs fs' next : FileSystem} {path : String} {place victim : Route}

/-- The files that are left below a directory. -/
theorem filesBelow_erase (fs : FileSystem) (place names : Route) :
    (fs.erase (place ++ names)).filesBelow place = (fs.filesBelow place).filter (· ≠ names) := by
  simp only [filesBelow, erase, remove, List.filterMap_filter, List.filter_filterMap]
  refine List.filterMap_congr fun entry _ => ?_
  obtain ⟨route, item⟩ := entry
  cases item with
  | directory => simp
  | file contents =>
    dsimp only
    split
    · next other =>
      split
      · next front =>
        obtain ⟨behind, rfl⟩ := List.isPrefixOf_iff_prefix.1 front
        have kept : behind ≠ names := by simpa using other
        simp [Option.filter_some, kept]
      · rfl
    · next here =>
      obtain rfl : route = place ++ names := by simpa using here
      simp [Option.filter_some]

/-- Whether a file system is another one without the file at a place. -/
structure Lacks (victim : Route) (fs fs' : FileSystem) : Prop where
  file : ∃ contents, fs.lookup victim = some (.file contents)
  gone : fs'.lookup victim = none
  same : ∀ place, place ≠ victim → fs'.lookup place = fs.lookup place

namespace Lacks

theorem erase {contents : ByteArray} (h : fs.lookup victim = some (.file contents)) :
    Lacks victim fs (fs.erase victim) := by
  have below : victim ≠ [] := by
    rintro rfl
    cases h
  exact ⟨⟨contents, h⟩, lookup_erase_self below fs,
    fun place other => lookup_erase_of_ne (Ne.symm other) fs⟩

theorem put (lacks : Lacks victim fs fs') (below : place ≠ []) (other : place ≠ victim)
    (item : Item) : Lacks victim (fs.put place item) (fs'.put place item) := by
  obtain ⟨⟨contents, file⟩, gone, same⟩ := lacks
  refine ⟨⟨contents, ?_⟩, ?_, fun there elsewhere => ?_⟩
  · rw [lookup_put_of_ne other, file]
  · rw [lookup_put_of_ne other, gone]
  · by_cases here : place = there
    · subst here
      rw [lookup_put_self below, lookup_put_self below]
    · rw [lookup_put_of_ne here, lookup_put_of_ne here, same there elsewhere]

/-- The file is no directory, so all directories are still there. -/
theorem keeps (lacks : Lacks victim fs fs') : Keeps fs fs' := by
  intro place isDirectory
  have other : place ≠ victim := by
    rintro rfl
    obtain ⟨contents, file⟩ := lacks.file
    rw [file] at isDirectory
    cases isDirectory
  rw [lacks.same place other, isDirectory]

/-! ## Walks -/

/-- A step is the same but from the file itself, where it was refused. -/
theorem step (lacks : Lacks victim fs fs') {segment : String} {outcome : Except Fault Route}
    (h : fs.step place segment = outcome) (notFile : outcome ≠ .error .notDirectory) :
    fs'.step place segment = outcome := by
  by_cases here : place = victim
  · subst here
    obtain ⟨contents, file⟩ := lacks.file
    rw [FileSystem.step, file] at h
    exact absurd h.symm notFile
  · rw [FileSystem.step, lacks.same place here]
    exact h

theorem foldlM_step (lacks : Lacks victim fs fs') {segments : List String}
    {outcome : Except Fault Route} (h : segments.foldlM fs.step place = outcome)
    (notFile : outcome ≠ .error .notDirectory) : segments.foldlM fs'.step place = outcome := by
  induction segments generalizing place with
  | nil => exact h
  | cons segment segments ih =>
    rw [List.foldlM_cons] at h ⊢
    cases taken : fs.step place segment with
    | error fault =>
      rw [taken] at h
      have refused : fault ≠ .notDirectory := by
        rintro rfl
        exact notFile h.symm
      rw [lacks.step taken (by simpa using refused)]
      exact h
    | ok next =>
      rw [taken] at h
      rw [lacks.step taken (by simp)]
      exact ih h

/-- The end of a path names the same, unless the way there was blocked by the file. -/
theorem goal (lacks : Lacks victim fs fs') {outcome : Except Fault Goal}
    (h : fs.goal path = outcome) (notFile : outcome ≠ .error .notDirectory) :
    fs'.goal path = outcome := by
  rcases goal_cases path with ⟨always, same⟩ | ⟨segments, named, same⟩
  · rw [same, ← same fs, h]
  · rw [same] at h ⊢
    cases walked : fs.walk segments with
    | error fault =>
      rw [walked] at h
      have refused : fault ≠ .notDirectory := by
        rintro rfl
        exact notFile h.symm
      rw [show fs'.walk segments = .error fault from
        lacks.foldlM_step walked (by simpa using refused), h]
    | ok place =>
      rw [walked] at h
      rw [show fs'.walk segments = .ok place from lacks.foldlM_step walked (by simp), h]

end Lacks

/-! ## Making directories -/

/-- Empty segments stay where they are. -/
theorem eq_of_foldlM_step_idle {segments : List String} (idle : ∀ segment ∈ segments, segment = "")
    {start : Route} (h : segments.foldlM fs.step start = .ok place) : place = start := by
  induction segments with
  | nil => exact (Except.ok.inj h).symm
  | cons segment segments ih =>
    obtain rfl := idle segment List.mem_cons_self
    rw [List.foldlM_cons] at h
    obtain ⟨next, taken, further⟩ := bind_eq_ok_iff.1 h
    have stays : next = start := by
      rw [step, directory_of_step taken] at taken
      exact (Except.ok.inj taken).symm
    subst stays
    exact ih (fun other mem => idle other (List.mem_cons_of_mem _ mem)) further

/-- A path that leads somewhere names that place at its end. -/
theorem goal_of_locate (h : fs.locate path = .ok place) :
    ∃ goal, fs.goal path = .ok goal ∧ ∀ named slash, goal = .name named slash → named = place := by
  obtain ⟨segments, usable, walked⟩ := locate_eq_ok_iff.1 h
  simp only [goal, usable, bind, Except.bind]
  cases shape : segments.reverse.dropWhile (· == "") with
  | nil => exact ⟨_, rfl, by simp⟩
  | cons last before =>
    rw [(eq_append_of_dropWhile shape).1, walk, List.foldlM_append] at walked
    obtain ⟨named, there, idle⟩ := bind_eq_ok_iff.1 walked
    have stays : place = named := by
      refine eq_of_foldlM_step_idle (fun segment mem => ?_) idle
      simpa using List.mem_takeWhile_imp (List.mem_reverse.1 mem)
    subst stays
    simp only [walk, there]
    split
    · exact ⟨_, rfl, by simp⟩
    · refine ⟨_, rfl, fun other slash same => ?_⟩
      exact (Goal.name.inj same).1.symm

/-- Nothing is to be made at a path that leads to a directory. -/
theorem createDirectory_of_isDirectory (h : fs.isDirectory path = true) :
    fs.createDirectory path = .error .exists := by
  obtain ⟨place, found⟩ := Option.isSome_iff_exists.1 h
  obtain ⟨located, isDirectory⟩ := directory?_eq_some_iff.1 found
  obtain ⟨goal, reached, only⟩ := goal_of_locate located
  rw [createDirectory, reached]
  cases goal with
  | relative _ => rfl
  | name named slash =>
    obtain rfl := only named slash rfl
    simp [bind, Except.bind, isDirectory]

/-- What cannot be made because it has nothing to stand in has a path that cannot be walked. -/
theorem createDirectory_eq_notFound_iff :
    fs.createDirectory path = .error .notFound ↔ fs.goal path = .error .notFound := by
  rw [createDirectory]
  cases fs.goal path with
  | error fault => simp [bind, Except.bind]
  | ok goal =>
    cases goal with
    | relative place => simp [bind, Except.bind]
    | name place slash =>
      simp only [bind, Except.bind]
      split <;> simp

theorem isDirectory_eq_false_of_goal {fault : Fault} (h : fs.goal path = .error fault) :
    fs.isDirectory path = false := by
  rw [isDirectory, Option.isSome_eq_false_iff, Option.isNone_iff_eq_none]
  by_contra found
  obtain ⟨place, found⟩ := Option.ne_none_iff_exists'.1 found
  obtain ⟨goal, reached, -⟩ := goal_of_locate (directory?_eq_some_iff.1 found).1
  rw [h] at reached
  cases reached

theorem ensureDirectory_of_createDirectory (h : fs.createDirectory path = .ok next) :
    fs.ensureDirectory path = (next, none) := by
  rw [ensureDirectory, h]

theorem ensureDirectory_of_isDirectory (h : fs.isDirectory path = true) :
    fs.ensureDirectory path = (fs, none) := by
  rw [ensureDirectory, createDirectory_of_isDirectory h, h]
  rfl

theorem ensureDirectory_of_notFound (h : fs.goal path = .error .notFound) :
    fs.ensureDirectory path = (fs, some .notFound) := by
  rw [ensureDirectory, createDirectory_eq_notFound_iff.2 h, isDirectory_eq_false_of_goal h]
  rfl

/-- A directory is made, or it is there, or there is nothing for it to stand in, unless it cannot be
made for another reason. -/
theorem ensureDirectory_cases {fault : Option Fault} (h : fs.ensureDirectory path = (next, fault)) :
    (fault = none ∧ fs.createDirectory path = .ok next) ∨
      (fault = none ∧ next = fs ∧ fs.isDirectory path = true) ∨
      (fault = some .notFound ∧ next = fs ∧ fs.goal path = .error .notFound) ∨
      (fault ≠ none ∧ fault ≠ some .notFound) := by
  rw [ensureDirectory] at h
  cases made : fs.createDirectory path with
  | ok made' =>
    rw [made] at h
    obtain ⟨rfl, rfl⟩ := Prod.mk.inj h
    exact .inl ⟨rfl, rfl⟩
  | error reason =>
    rw [made] at h
    obtain ⟨rfl, rfl⟩ := Prod.mk.inj h
    cases there : fs.isDirectory path with
    | true => exact .inr (.inl ⟨rfl, rfl, rfl⟩)
    | false =>
      rw [if_neg Bool.false_ne_true]
      by_cases missing : reason = .notFound
      · subst missing
        exact .inr (.inr (.inl ⟨rfl, rfl, createDirectory_eq_notFound_iff.1 made⟩))
      · exact .inr (.inr (.inr ⟨by simp, by simpa using missing⟩))

namespace Lacks

theorem createDirectory (lacks : Lacks victim fs fs') (h : fs.createDirectory path = .ok next) :
    ∃ next', fs'.createDirectory path = .ok next' ∧ Lacks victim next next' := by
  obtain ⟨place, slash, named, nothing, rfl⟩ := createDirectory_eq_ok_iff.1 h
  have other : place ≠ victim := by
    rintro rfl
    obtain ⟨contents, file⟩ := lacks.file
    rw [file] at nothing
    cases nothing
  have below : place ≠ [] := by
    rintro rfl
    cases nothing
  refine ⟨fs'.put place .directory, createDirectory_eq_ok_iff.2 ⟨place, slash, ?_, ?_, rfl⟩,
    lacks.put below other _⟩
  · exact goal_of_keeps lacks.keeps named
  · rw [lacks.same place other, nothing]

/-- A directory is made, or found to be there, or has nothing to stand in, as it was next to the
file. -/
theorem ensureDirectory (lacks : Lacks victim fs fs') {fault : Option Fault}
    (h : fs.ensureDirectory path = (next, fault)) (mild : fault = none ∨ fault = some .notFound) :
    ∃ next', fs'.ensureDirectory path = (next', fault) ∧ Lacks victim next next' := by
  rcases ensureDirectory_cases h with ⟨rfl, made⟩ | ⟨rfl, rfl, there⟩ | ⟨rfl, rfl, missing⟩ |
    ⟨some, other⟩
  · obtain ⟨next', made', lacks'⟩ := lacks.createDirectory made
    exact ⟨next', ensureDirectory_of_createDirectory made', lacks'⟩
  · exact ⟨fs', ensureDirectory_of_isDirectory (isDirectory_of_keeps lacks.keeps there), lacks⟩
  · exact ⟨fs', ensureDirectory_of_notFound (lacks.goal missing (by simp)), lacks⟩
  · exact absurd mild (not_or.2 ⟨some, other⟩)

theorem ensureFirst (lacks : Lacks victim fs fs') {paths : List String}
    (h : fs.ensureFirst paths = (next, none)) :
    ∃ next', fs'.ensureFirst paths = (next', none) ∧ Lacks victim next next' := by
  induction paths generalizing fs fs' next with
  | nil =>
    obtain ⟨rfl, -⟩ := Prod.mk.inj h
    exact ⟨fs', rfl, lacks⟩
  | cons path above ih =>
    rw [FileSystem.ensureFirst] at h ⊢
    cases first : fs.ensureDirectory path with
    | mk middle fault =>
      rw [first] at h
      by_cases missing : fault = some .notFound
      · subst missing
        obtain ⟨middle', first', lacks'⟩ := lacks.ensureDirectory first (.inr rfl)
        rw [first']
        dsimp only at h ⊢
        cases upper : middle.ensureFirst above with
        | mk upmost outcome =>
          rw [upper] at h
          cases outcome with
          | some fault => cases h
          | none =>
            obtain ⟨upmost', upper', lacks''⟩ := ih lacks' upper
            rw [upper']
            exact lacks''.ensureDirectory h (.inl rfl)
      · have done : (middle, fault) = (next, none) := by
          split at h
          · next same => exact absurd (Prod.mk.inj same).2 missing
          · exact h
        obtain ⟨rfl, rfl⟩ := Prod.mk.inj done
        obtain ⟨middle', first', lacks'⟩ := lacks.ensureDirectory first (.inl rfl)
        rw [first']
        exact ⟨middle', rfl, lacks'⟩

/-- Directories that could be made can still be made. -/
theorem createDirectories (lacks : Lacks victim fs fs')
    (h : fs.createDirectories path = (next, none)) :
    ∃ next', fs'.createDirectories path = (next', none) ∧ Lacks victim next next' := by
  rw [FileSystem.createDirectories] at h ⊢
  split at h
  · next empty =>
    obtain ⟨rfl, -⟩ := Prod.mk.inj h
    exact ⟨fs', by rw [if_pos empty], lacks⟩
  · next some =>
    rw [if_neg some]
    exact lacks.ensureFirst h

/-- A file that could be written can still be written. -/
theorem writeFile (lacks : Lacks victim fs fs') {contents : ByteArray}
    (h : fs.writeFile path contents = .ok next) :
    ∃ next', fs'.writeFile path contents = .ok next' := by
  obtain ⟨place, named, noDirectory, -⟩ := writeFile_eq_ok_iff.1 h
  refine ⟨_, writeFile_eq_ok_iff.2 ⟨place, goal_of_keeps lacks.keeps named, ?_, rfl⟩⟩
  by_cases here : place = victim
  · rw [here, lacks.gone]
    simp
  · rwa [lacks.same place here]

end Lacks

end MethodCorpus.FileSystem
