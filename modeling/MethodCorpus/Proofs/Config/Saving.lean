import MethodCorpus.Proofs.Config.File
import MethodCorpus.Proofs.FileSystem.Places
import MethodCorpus.Proofs.FileSystem.Repetition

/-!
# What saving a configuration touches

A configuration is written to a temporary file beside its path, which is then moved there. So a
second place is written to besides the path. A file that stood there is lost: with the move if
saving succeeds, and under the text of the configuration if the move fails, since the temporary file
stays then. Nothing else is touched, and where a configuration could not be saved, the one before is
left.

* `Config.Undisturbed`: what may happen at any other place, which is that a directory is made above
  the path;
* `Config.Saves`, `Config.saves_of_save`: how saving ends;
* `Config.places_of_save`: which places it touches, and when it touches the target only.
-/

namespace MethodCorpus

namespace Config

open FileSystem

variable {config : Config} {fs left made : FileSystem} {path : String} {place : Route}
  {contents : ByteArray} {outcome : Except Error Unit} {error : Error}

/-! ## Places that are left alone -/

/-- The paths at which directories may have to be made for a path to stand in. -/
def parents (path : String) : List String :=
  ((Path.parent? path).filter (!·.isEmpty)).toList.flatMap upperPaths

/-- Whether a place is as it was, or nothing stood there and it is a directory above a path now. -/
def Undisturbed (path : String) (fs left : FileSystem) (place : Route) : Prop :=
  left.lookup place = fs.lookup place ∨
  (fs.lookup place = none ∧ ∃ upper ∈ parents path, left.directory? upper = some place)

/-- What is done to other places does not disturb a place, as long as no directory is lost. -/
theorem Undisturbed.of_keeps (undisturbed : Undisturbed path fs made place)
    (keeps : Keeps made left) (same : left.lookup place = made.lookup place) :
    Undisturbed path fs left place := by
  rcases undisturbed with before | ⟨nothing, upper, listed, found⟩
  · exact .inl (same.trans before)
  · exact .inr ⟨nothing, upper, listed, directory?_of_keeps keeps found⟩

/-- A directory that is made at one of the parents disturbs nothing. -/
theorem Undisturbed.of_createDirectory {upper : String} (listed : upper ∈ parents path)
    (undisturbed : Undisturbed path fs made place) (h : made.createDirectory upper = .ok left) :
    Undisturbed path fs left place := by
  have keeps := (adds_of_createDirectory h).keeps
  obtain ⟨there, slash, named, nothing, rfl⟩ := createDirectory_eq_ok_iff.1 h
  by_cases here : there = place
  · subst here
    have below : there ≠ [] := by
      rintro rfl
      cases nothing
    have new := lookup_put_self below made .directory
    refine .inr ⟨?_, upper, listed, directory?_eq_some_iff.2
      ⟨locate_of_goal (goal_of_keeps keeps named) new, new⟩⟩
    rcases undisturbed with before | ⟨nothing, -⟩
    · exact before.symm.trans nothing
    · exact nothing
  · exact undisturbed.of_keeps keeps (lookup_put_of_ne here made _)

theorem undisturbed_of_ensureParent (fs : FileSystem) (path : String) (place : Route) :
    Undisturbed path fs (ensureParent fs path).1 place := by
  rw [ensureParent]
  cases folder : (Path.parent? path).filter (!·.isEmpty) with
  | none => exact .inl rfl
  | some parent =>
    have one : Undisturbed path fs (fs.createDirectories parent).1 place := by
      refine createDirectories_induction_on_upperPaths (motive := (Undisturbed path fs · place))
        (.inl rfl) fun listed undisturbed made => undisturbed.of_createDirectory ?_ made
      rw [parents, folder, Option.toList_some, List.flatMap_singleton]
      exact listed
    dsimp only
    rcases directories : fs.createDirectories parent with ⟨made, _ | fault⟩ <;>
    · rw [directories] at one
      exact one

/-! ## How saving ends -/

/-- How saving ends once there are directories to stand in: nothing is written, a temporary file is
written and stays, or it is written and moved to the path. -/
inductive Saves (path : String) (contents : ByteArray) (made left : FileSystem) :
    Except Error Unit → Prop
  | refused (error : Error) (same : left = made) : Saves path contents made left (.error error)
  | stranded (error : Error) (wrote : made.writeFile (temporaryPath path) contents = .ok left)
      (unmoved : ∀ fs, left.moveFile (temporaryPath path) path ≠ .ok fs) :
      Saves path contents made left (.error error)
  | moved (written : FileSystem)
      (wrote : made.writeFile (temporaryPath path) contents = .ok written)
      (moves : written.moveFile (temporaryPath path) path = .ok left) :
      Saves path contents made left (.ok ())

theorem saves_of_save (config : Config) (fs : FileSystem) (path : String) :
    ∃ left outcome, config.save fs path = (left, outcome) ∧
      ∃ made, (∀ place, Undisturbed path fs made place) ∧
        Saves path config.fileText.toUTF8 made left outcome := by
  have undisturbed := undisturbed_of_ensureParent fs path
  rw [save]
  generalize config.fileText.toUTF8 = contents
  rcases ensured : ensureParent fs path with ⟨made, error | ⟨⟩⟩ <;> rw [ensured] at undisturbed <;>
    dsimp only
  · exact ⟨made, _, rfl, made, undisturbed, .refused error rfl⟩
  · cases wrote : made.writeFile (temporaryPath path) contents with
    | error fault => exact ⟨made, _, rfl, made, undisturbed, .refused _ rfl⟩
    | ok written =>
      dsimp only
      cases moves : written.moveFile (temporaryPath path) path with
      | error fault =>
        exact ⟨written, _, rfl, made, undisturbed, .stranded _ wrote (by simp [moves])⟩
      | ok left => exact ⟨left, _, rfl, made, undisturbed, .moved written wrote moves⟩

namespace Saves

/-- No directory is lost. -/
theorem keeps (saves : Saves path contents made left outcome) : Keeps made left := by
  cases saves with
  | refused error same =>
    rw [same]
    exact fun _ isDirectory => isDirectory
  | stranded error wrote unmoved => exact (places_of_writeFile wrote).1
  | moved written wrote moves =>
    exact (places_of_writeFile wrote).1.trans (places_of_moveFile moves).1

/-- What is touched is where the path and the temporary path lead. -/
theorem lookup_cases (saves : Saves path contents made left outcome) (place : Route) :
    left.lookup place = made.lookup place ∨ (outcome = .ok () ∧ left.locate path = .ok place) ∨
      left.locate (temporaryPath path) = .ok place := by
  cases saves with
  | refused error same => exact .inl (by rw [same])
  | stranded error wrote unmoved =>
    obtain ⟨-, there, located, -, others⟩ := places_of_writeFile wrote
    by_cases here : place = there
    · exact .inr (.inr (here ▸ located))
    · exact .inl (others place here)
  | moved written wrote moves =>
    obtain ⟨-, there, located, -, others⟩ := places_of_writeFile wrote
    obtain ⟨keeps, old, new, located', target, -, others'⟩ := places_of_moveFile moves
    obtain rfl : there = old := Except.ok.inj (located.symm.trans located')
    by_cases atTarget : place = new
    · exact .inr (.inl ⟨rfl, atTarget ▸ target⟩)
    · by_cases here : place = there
      · exact .inr (.inr (here ▸ locate_of_keeps keeps located))
      · exact .inl ((others' place here atTarget).trans (others place here))

/-- What was saved stands at its path, and the temporary file is gone. -/
theorem of_ok (saves : Saves path contents made left (.ok ())) :
    left.readFile path = .ok contents ∧ ∀ place, left.locate (temporaryPath path) = .ok place →
      left.locate path = .ok place ∨ left.lookup place = none := by
  cases saves with
  | moved written wrote moves =>
    refine ⟨readFile_moveFile (readFile_writeFile wrote) moves, fun place temporary => ?_⟩
    obtain ⟨keeps, old, new, located, target, gone, -⟩ := places_of_moveFile moves
    obtain rfl : place = old :=
      Except.ok.inj (temporary.symm.trans (locate_of_keeps keeps located))
    exact gone.imp_left fun same => by rw [same, target]

/-- If saving fails, the temporary file stands where it was written, if it was written at all. -/
theorem temporary_of_error (saves : Saves path contents made left (.error error))
    (temporary : left.locate (temporaryPath path) = .ok place) :
    left.lookup place = made.lookup place ∨ left.lookup place = some (.file contents) := by
  cases saves with
  | refused _ same => exact .inl (by rw [same])
  | stranded _ wrote unmoved =>
    obtain ⟨-, there, located, found, -⟩ := places_of_writeFile wrote
    obtain rfl : place = there := Except.ok.inj (temporary.symm.trans located)
    exact .inr found

/-- If saving fails, the target is left alone. -/
theorem target_of_error (saves : Saves path contents made left (.error error))
    (target : left.locate path = .ok place) : left.lookup place = made.lookup place := by
  cases saves with
  | refused _ same => rw [same]
  | stranded _ wrote unmoved =>
    obtain ⟨-, there, located, found, others⟩ := places_of_writeFile wrote
    -- a temporary file at the path itself is in place already, so moving it does not fail
    have differ : place ≠ there := by
      rintro rfl
      exact unmoved _ (moveFile_eq_ok_iff.2 ⟨place, place, contents, goal_of_file located found,
        goal_of_file target found, found, by simp [found], rfl⟩)
    exact others place differ

end Saves

/-! ## What saving touches -/

/-- Whether saving touched its target only, and that only if it succeeded. -/
def TouchesOnlyTarget (path : String) (fs left : FileSystem) (outcome : Except Error Unit) : Prop :=
  ∀ place, Undisturbed path fs left place ∨ (outcome = .ok () ∧ left.locate path = .ok place)

/-- Then the same files stand anywhere else before and after. -/
theorem TouchesOnlyTarget.lookup_eq_file_iff (only : TouchesOnlyTarget path fs left outcome)
    (other : outcome = .ok () → left.locate path ≠ .ok place) :
    left.lookup place = some (.file contents) ↔ fs.lookup place = some (.file contents) := by
  rcases only place with (same | ⟨nothing, upper, -, found⟩) | ⟨done, target⟩
  · rw [same]
  · simp [(directory?_eq_some_iff.1 found).2, nothing]
  · exact absurd target (other done)

/-- Besides the places where a path and its temporary path lead, saving leaves every place alone. If
it succeeds, the configuration stands at its path and nothing at the temporary path, so it touches
its target only if nothing stood there before. If it fails, the target is left alone as well, and
nothing is touched unless the temporary file was written and stayed. -/
theorem places_of_save (config : Config) (fs : FileSystem) (path : String) :
    ∃ left outcome, config.save fs path = (left, outcome) ∧
      (∀ place, Undisturbed path fs left place ∨ (outcome = .ok () ∧ left.locate path = .ok place) ∨
        left.locate (temporaryPath path) = .ok place) ∧
      (outcome = .ok () →
        left.readText path = .ok config.fileText ∧
        (∀ place, left.locate (temporaryPath path) = .ok place →
          left.locate path = .ok place ∨ left.lookup place = none) ∧
        (TouchesOnlyTarget path fs left outcome ↔
          ∀ place, left.locate (temporaryPath path) = .ok place →
            left.locate path = .ok place ∨ fs.lookup place = none)) ∧
      ∀ error, outcome = .error error →
        (∀ place, left.locate path = .ok place → Undisturbed path fs left place) ∧
        (TouchesOnlyTarget path fs left outcome ↔
          ∀ place text, left.locate (temporaryPath path) = .ok place →
            left.lookup place = some (.file text) → fs.lookup place = some (.file text)) := by
  obtain ⟨left, outcome, saved, made, undisturbed, saves⟩ := saves_of_save config fs path
  have alone : ∀ place, left.lookup place = made.lookup place → Undisturbed path fs left place :=
    fun place same => (undisturbed place).of_keeps saves.keeps same
  have frame := fun place => (saves.lookup_cases place).imp_left (alone place)
  refine ⟨left, outcome, saved, frame, ?_, ?_⟩
  · rintro rfl
    obtain ⟨written, gone⟩ := saves.of_ok
    refine ⟨readText_eq_ok_iff.2 written, gone, fun only place temporary => ?_,
      fun nothing place => ?_⟩
    · rcases gone place temporary with target | none
      · exact .inl target
      · rcases only place with (same | ⟨nothing, -⟩) | ⟨-, target⟩
        · exact .inr (same.symm.trans none)
        · exact .inr nothing
        · exact .inl target
    · rcases frame place with alone | target | temporary
      · exact .inl alone
      · exact .inr target
      · rcases nothing place temporary with target | before
        · exact .inr ⟨rfl, target⟩
        · rcases gone place temporary with target | after
          · exact .inr ⟨rfl, target⟩
          · exact .inl (.inl (after.trans before.symm))
  · rintro error rfl
    refine ⟨fun place target => alone place (saves.target_of_error target),
      fun only place text temporary file => ?_, fun same place => ?_⟩
    · exact (only.lookup_eq_file_iff nofun).1 file
    · rcases frame place with alone | ⟨absurd, -⟩ | temporary
      · exact .inl alone
      · cases absurd
      · rcases saves.temporary_of_error temporary with before | file
        · exact .inl (alone place before)
        · exact .inl (.inl (file.trans (same place _ temporary file).symm))

/-- A file at the temporary path is gone when a configuration was saved beside it. Where a directory
stands at the path, the temporary file stays. -/
theorem save_touches_more :
    (∃ files left : FileSystem, files.readText "a.tmp" = .ok "notes" ∧
      initial.save files "a.json" = (left, .ok ()) ∧
      left.readText "a.tmp" = .error .notFound ∧
      ¬ TouchesOnlyTarget "a.json" files left (.ok ())) ∧
    ∃ files left : FileSystem, ∃ error text, files.readFile "d.tmp" = .error .notFound ∧
      initial.save files "d" = (left, .error error) ∧ left.readFile "d.tmp" = .ok text ∧
      ¬ TouchesOnlyTarget "d" files left (.error error) := by
  constructor
  · let files : FileSystem := FileSystem.empty.put ["a.tmp"] (.file "notes".toUTF8)
    have done : (initial.save files "a.json").2.toOption = some () := by decide +kernel
    refine ⟨files, (initial.save files "a.json").1, by decide +kernel,
      Prod.ext rfl (toOption_eq_some_iff.1 done), by decide +kernel, fun only => ?_⟩
    have stays := (only.lookup_eq_file_iff (by decide +kernel)).2
      (show files.lookup ["a.tmp"] = some (.file "notes".toUTF8) by decide +kernel)
    exact absurd stays (by decide +kernel)
  · let files : FileSystem := FileSystem.empty.put ["d"] .directory
    have failed : (initial.save files "d").2.toOption = none := by decide +kernel
    cases outcome : (initial.save files "d").2 with
    | ok done =>
      rw [outcome] at failed
      cases failed
    | error error =>
      have stays : (((initial.save files "d").1.readFile "d.tmp").toOption).isSome = true := by
        decide +kernel
      obtain ⟨text, found⟩ := Option.isSome_iff_exists.1 stays
      have read := toOption_eq_some_iff.1 found
      refine ⟨files, (initial.save files "d").1, error, text, by decide +kernel,
        Prod.ext rfl outcome, read, fun only => ?_⟩
      obtain ⟨place, located, file⟩ := readFile_eq_ok_iff.1 read
      have there : (initial.save files "d").1.locate "d.tmp" = .ok ["d.tmp"] := by decide +kernel
      obtain rfl := Except.ok.inj (located.symm.trans there)
      have nothing : files.lookup ["d.tmp"] = none := by decide +kernel
      have before := (only.lookup_eq_file_iff nofun).1 file
      rw [nothing] at before
      cases before

end Config

end MethodCorpus
