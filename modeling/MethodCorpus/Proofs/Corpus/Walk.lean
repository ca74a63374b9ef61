import Mathlib.Data.List.Sort
import MethodCorpus.Corpus.Walk
import MethodCorpus.Proofs.Corpus.Sources
import MethodCorpus.Proofs.FileSystem.Listing

/-!
# Which files are sources, and their order

A walk through a directory meets the files that are sources and no others, each one once. Since what
is below a directory is visited before the next name, the files are met in the order of their names,
name by name: the order within each directory makes the order of the whole. So the sources that are
listed are those a walk meets, as it meets them.

* `Meets`, `mem_walk_iff`: what a walk meets;
* `pairwise_walk`: the order in which it does;
* `IsSource`, `meets_iff_isSource`, `lists_iff_isSource`: which files are sources;
* `walk_eq_filter`: the files that are listed, as a walk meets them;
* `findAll_exact`: what is listed, and in which order;
* `findAll_of_long_path`: a file that is not listed since its directory cannot be opened.
-/

namespace MethodCorpus.Source

open FileSystem

variable {fs : FileSystem} {root extension : String} {exclude : List String}
  {top names route rest : Route} {name : String}

/-! ## One directory -/

/-- Whether a directory can be opened, given by the names that lead to it from the one that is
searched. -/
def Opens (root : String) (names : Route) : Prop :=
  (names.foldl Path.join root).utf8ByteSize ≤ maxPathBytes

/-- The sources at an entry of a directory. -/
def visit (fs : FileSystem) (root extension : String) (exclude : List String) (top names : Route) :
    String × Item → List Route
  | (name, item) =>
    if isHidden name then []
    else match item with
      | .directory => walk fs root extension exclude top (names ++ [name])
      | .file _ =>
        if isKept extension exclude ((names ++ [name]).foldl Path.join root) (names ++ [name])
        then [names ++ [name]] else []

theorem walk_eq (fs : FileSystem) (root extension : String) (exclude : List String)
    (top names : Route) :
    walk fs root extension exclude top names =
      if maxPathBytes < (names.foldl Path.join root).utf8ByteSize then []
      else (fs.sortedEntries (top ++ names)).flatMap (visit fs root extension exclude top names) := by
  rw [walk]
  refine if_congr Iff.rfl rfl ?_
  rw [List.flatMap_subtype (g := visit fs root extension exclude top names),
    List.unattach_attach]
  rintro ⟨name, _ | contents⟩ listed <;> rfl

theorem mem_visit_iff {item : Item} :
    route ∈ visit fs root extension exclude top names (name, item) ↔
      isHidden name = false ∧
        (item = .directory ∧ route ∈ walk fs root extension exclude top (names ++ [name]) ∨
          (∃ contents, item = .file contents) ∧
            isKept extension exclude ((names ++ [name]).foldl Path.join root) (names ++ [name]) =
              true ∧ route = names ++ [name]) := by
  cases hidden : isHidden name <;> cases item <;> simp [visit, hidden]

theorem mem_walk_iff_visit :
    route ∈ walk fs root extension exclude top names ↔
      Opens root names ∧ ∃ name item, (top ++ names ++ [name], item) ∈ fs.items ∧
        route ∈ visit fs root extension exclude top names (name, item) := by
  rw [walk_eq, List.mem_ite_nil_left, List.mem_flatMap, Nat.not_lt, Prod.exists]
  simp only [mem_sortedEntries_iff, Opens]

/-! ## A whole walk -/

/-- Whether a walk that starts in a directory meets a source, given by the names that lead from there
to the source. -/
structure Meets (fs : FileSystem) (root extension : String) (exclude : List String)
    (top names rest : Route) : Prop where
  file : ∃ contents, (top ++ (names ++ rest), .file contents) ∈ fs.items
  nonempty : rest ≠ []
  visible : ∀ name ∈ rest, isHidden name = false
  opened : ∀ n < rest.length, Opens root (names ++ rest.take n)
  kept : isKept extension exclude ((names ++ rest).foldl Path.join root) (names ++ rest) = true

theorem meets_singleton_iff :
    Meets fs root extension exclude top names [name] ↔
      Opens root names ∧ isHidden name = false ∧
        (∃ contents, (top ++ names ++ [name], .file contents) ∈ fs.items) ∧
        isKept extension exclude ((names ++ [name]).foldl Path.join root) (names ++ [name]) =
          true := by
  constructor
  · rintro ⟨file, -, visible, opened, kept⟩
    rw [← List.append_assoc] at file
    exact ⟨by simpa using opened 0 Nat.zero_lt_one, visible name (List.mem_singleton_self name),
      file, kept⟩
  · rintro ⟨opened, visible, file, kept⟩
    rw [List.append_assoc] at file
    refine ⟨file, List.cons_ne_nil _ _, by simpa using visible, fun n inside => ?_, kept⟩
    obtain rfl := Nat.lt_one_iff.1 inside
    simpa using opened

theorem meets_cons_iff (more : rest ≠ []) :
    Meets fs root extension exclude top names (name :: rest) ↔
      Opens root names ∧ isHidden name = false ∧
        Meets fs root extension exclude top (names ++ [name]) rest := by
  have whole : names ++ name :: rest = names ++ [name] ++ rest := by simp
  constructor
  · rintro ⟨file, -, visible, opened, kept⟩
    rw [whole] at file kept
    refine ⟨by simpa using opened 0 (Nat.zero_lt_succ _), visible name List.mem_cons_self, file,
      more, fun other mem => visible other (List.mem_cons_of_mem _ mem), fun n inside => ?_, kept⟩
    simpa using opened (n + 1) (Nat.succ_lt_succ inside)
  · rintro ⟨opened, visible, file, -, visible', opened', kept⟩
    rw [← whole] at file kept
    refine ⟨file, List.cons_ne_nil _ _, List.forall_mem_cons.2 ⟨visible, visible'⟩, ?_, kept⟩
    rintro (_ | n) inside
    · simpa using opened
    · simpa using opened' n (Nat.lt_of_succ_lt_succ inside)

/-- What stands before the last name that leads to a file is a directory. -/
theorem Meets.directory (wellFormed : fs.WellFormed) (more : rest ≠ [])
    (meets : Meets fs root extension exclude top names (name :: rest)) :
    (top ++ names ++ [name], .directory) ∈ fs.items := by
  obtain ⟨contents, file⟩ := meets.file
  have whole : top ++ (names ++ name :: rest) = top ++ names ++ [name] ++ rest := by simp
  rw [whole] at file
  have further : (top ++ names ++ [name]).length < (top ++ names ++ [name] ++ rest).length :=
    Nat.lt_of_lt_of_eq (Nat.lt_add_of_pos_right (List.length_pos_iff.2 more))
      List.length_append.symm
  have above := wellFormed.lookup_take file further
  rw [List.take_left] at above
  exact mem_items_of_lookup (by simp) above

/-- Directories are gone through from the top down, and each is deeper than the one before it. -/
theorem walkInduction (fs : FileSystem) (top : Route) {motive : Route → Prop}
    (step : ∀ names, (∀ name, (top ++ names ++ [name], .directory) ∈ fs.items →
      motive (names ++ [name])) → motive names) (names : Route) : motive names := by
  induction left : fs.depth - (top ++ names).length using Nat.strong_induction_on
    generalizing names with
  | _ left ih =>
    subst left
    refine step names fun name listed => ih _ ?_ _ rfl
    have inside := length_le_depth listed
    simp only [List.length_append, List.length_singleton] at inside ⊢
    omega

/-- A walk meets every source below a directory, and nothing else. -/
theorem mem_walk_iff (wellFormed : fs.WellFormed) :
    route ∈ walk fs root extension exclude top names ↔
      ∃ rest, route = names ++ rest ∧ Meets fs root extension exclude top names rest := by
  induction names using walkInduction fs top with
  | step names ih =>
    rw [mem_walk_iff_visit]
    constructor
    · rintro ⟨opened, name, item, listed, visited⟩
      rcases mem_visit_iff.1 visited with ⟨visible, ⟨rfl, below⟩ | ⟨⟨contents, rfl⟩, kept, rfl⟩⟩
      · obtain ⟨rest, rfl, meets⟩ := (ih name listed).1 below
        exact ⟨name :: rest, by simp, (meets_cons_iff meets.nonempty).2 ⟨opened, visible, meets⟩⟩
      · exact ⟨[name], rfl, meets_singleton_iff.2 ⟨opened, visible, ⟨contents, listed⟩, kept⟩⟩
    · rintro ⟨rest, rfl, meets⟩
      obtain ⟨name, rest, rfl⟩ := List.exists_cons_of_ne_nil meets.nonempty
      by_cases last : rest = []
      · subst last
        obtain ⟨opened, visible, ⟨contents, listed⟩, kept⟩ := meets_singleton_iff.1 meets
        exact ⟨opened, name, _, listed, mem_visit_iff.2
          ⟨visible, .inr ⟨⟨contents, rfl⟩, kept, rfl⟩⟩⟩
      · have listed := meets.directory wellFormed last
        obtain ⟨opened, visible, meets⟩ := (meets_cons_iff last).1 meets
        exact ⟨opened, name, _, listed, mem_visit_iff.2
          ⟨visible, .inl ⟨rfl, (ih name listed).2 ⟨rest, by simp, meets⟩⟩⟩⟩

/-- What is met at an entry starts with its name. -/
theorem exists_of_mem_visit (wellFormed : fs.WellFormed) {entry : String × Item}
    (h : route ∈ visit fs root extension exclude top names entry) :
    ∃ rest, route = names ++ entry.1 :: rest := by
  rcases mem_visit_iff.1 h with ⟨-, ⟨-, below⟩ | ⟨-, -, rfl⟩⟩
  · obtain ⟨rest, rfl, -⟩ := (mem_walk_iff wellFormed).1 below
    exact ⟨rest, by simp⟩
  · exact ⟨[], rfl⟩

/-- Since every directory is listed in the order of its names, a walk meets everything in order. -/
theorem pairwise_walk (wellFormed : fs.WellFormed) (names : Route) :
    (walk fs root extension exclude top names).Pairwise (· < ·) := by
  induction names using walkInduction fs top with
  | step names ih =>
    rw [walk_eq]
    split
    · exact List.Pairwise.nil
    · refine List.pairwise_flatMap.2 ⟨?_, ?_⟩
      · rintro ⟨name, _ | contents⟩ listed
        · rw [visit]
          split
          · exact List.Pairwise.nil
          · exact ih name (mem_sortedEntries_iff.1 listed)
        · rw [visit]
          split_ifs
          exacts [List.Pairwise.nil, List.pairwise_singleton _ _, List.Pairwise.nil]
      · refine (pairwise_sortedEntries fs (top ++ names)).imp fun before route mem route' mem' => ?_
        obtain ⟨rest, rfl⟩ := exists_of_mem_visit wellFormed mem
        obtain ⟨rest', rfl⟩ := exists_of_mem_visit wellFormed mem'
        exact append_lt_append_iff.2 (List.cons_lt_cons_iff.2 (.inl before))

/-! ## Sources -/

/-- Whether a file is a source, given by the names that lead to it from the directory that is
searched: its last name has the extension, no name is hidden, no pattern that keeps the rules matches,
and all directories on the way can be opened. -/
structure IsSource (fs : FileSystem) (root extension : String) (exclude : List String)
    (top names : Route) : Prop where
  file : ∃ contents, fs.lookup (top ++ names) = some (.file contents)
  ending : ∃ stem, names.getLast? = some (stem ++ "." ++ extension) ∧ stem ≠ "" ∧
    '.' ∉ extension.toList
  visible : ∀ name ∈ names, name.toList.head? ≠ some '.'
  kept : ∀ pattern ∈ exclude, ∀ tokens, Glob.tokens? true pattern.toList = some tokens →
    Glob.matchTokens tokens ("/".intercalate names).toList = false
  opened : ∀ n < names.length, Opens root (names.take n)

theorem IsSource.ne_nil (isSource : IsSource fs root extension exclude top names) : names ≠ [] := by
  rintro rfl
  obtain ⟨stem, none, -⟩ := isSource.ending
  cases none

theorem isHidden_eq_false_iff : isHidden name = false ↔ name.toList.head? ≠ some '.' :=
  beq_eq_false_iff_ne

theorem isExcluded_eq_false_iff {patterns : List String} {path : String} :
    Glob.isExcluded patterns path = false ↔
      ∀ pattern ∈ patterns, ∀ tokens, Glob.tokens? true pattern.toList = some tokens →
        Glob.matchTokens tokens path.toList = false := by
  rw [Glob.isExcluded, List.any_eq_false]
  refine forall₂_congr fun pattern _ => ?_
  rw [Glob.isMatch]
  cases Glob.tokens? true pattern.toList <;> simp

theorem extension?_eq_some_iff {path : String} (named : Path.fileName? path = names.getLast?) :
    Path.extension? path = some extension ↔
      ∃ stem, names.getLast? = some (stem ++ "." ++ extension) ∧ stem ≠ "" ∧
        '.' ∉ extension.toList := by
  rw [Path.extension?, named, Option.bind_eq_some_iff]
  constructor
  · rintro ⟨last, there, divided⟩
    obtain ⟨stem, some, undivided, rfl⟩ := Path.splitName_eq_some_iff.1 divided
    exact ⟨stem, there, some, undivided⟩
  · rintro ⟨stem, there, some, undivided⟩
    exact ⟨_, there, Path.splitName_eq_some_iff.2 ⟨stem, some, undivided, rfl⟩⟩

/-- What is asked of a file that is visited. -/
theorem isKept_iff {path : String} (named : Path.fileName? path = names.getLast?) :
    isKept extension exclude path names = true ↔
      (∃ stem, names.getLast? = some (stem ++ "." ++ extension) ∧ stem ≠ "" ∧
        '.' ∉ extension.toList) ∧
      ∀ pattern ∈ exclude, ∀ tokens, Glob.tokens? true pattern.toList = some tokens →
        Glob.matchTokens tokens ("/".intercalate names).toList = false := by
  rw [isKept, Bool.and_eq_true, beq_iff_eq, Bool.not_eq_true', isExcluded_eq_false_iff,
    extension?_eq_some_iff named]

/-- What is asked of a file that is listed: the same, and that the way to it is open. -/
theorem isWanted_iff (areNames : ∀ name ∈ names, Path.IsName name) :
    isWanted root extension exclude names = true ↔
      isReachable root names = true ∧ (∀ name ∈ names, name.toList.head? ≠ some '.') ∧
      (∃ stem, names.getLast? = some (stem ++ "." ++ extension) ∧ stem ≠ "" ∧
        '.' ∉ extension.toList) ∧
      ∀ pattern ∈ exclude, ∀ tokens, Glob.tokens? true pattern.toList = some tokens →
        Glob.matchTokens tokens ("/".intercalate names).toList = false := by
  have visible : (!names.any isHidden) = true ↔ ∀ name ∈ names, name.toList.head? ≠ some '.' := by
    simp only [Bool.not_eq_true', List.any_eq_false, Bool.not_eq_true, isHidden_eq_false_iff]
  rw [← isKept_iff (Path.fileName?_intercalate areNames), ← visible, isKept, isWanted]
  simp only [Bool.and_eq_true, and_assoc]

/-- If the directory of a file can be opened, so can all directories above it, since their paths are
shorter. -/
theorem isReachable_iff (areNames : ∀ name ∈ names, Path.IsName name) (nonempty : names ≠ []) :
    isReachable root names = true ↔ ∀ n < names.length, Opens root (names.take n) := by
  rw [isReachable, decide_eq_true_iff, List.dropLast_eq_take]
  constructor
  · intro opened n inside
    have above : (names.take (names.length - 1)).take n = names.take n := by
      rw [List.take_take, Nat.min_eq_left (by omega)]
    rw [← List.take_append_drop n (names.take (names.length - 1)), above,
      List.foldl_append] at opened
    exact Nat.le_trans (Path.le_utf8ByteSize_foldl_join fun name mem =>
      areNames name (List.mem_of_mem_take (List.mem_of_mem_drop mem))) opened
  · intro opened
    exact opened _ (Nat.sub_lt (List.length_pos_iff.2 nonempty) Nat.zero_lt_one)

theorem file_iff (nonempty : names ≠ []) :
    (∃ contents, (top ++ names, .file contents) ∈ fs.items) ↔
      ∃ contents, fs.lookup (top ++ names) = some (.file contents) := by
  have below : top ++ names ≠ [] := by simp [nonempty]
  exact exists_congr fun contents => ⟨lookup_eq_some_of_mem below, mem_items_of_lookup below⟩

theorem isName_of_file (wellFormed : fs.WellFormed)
    (file : ∃ contents, (top ++ names, .file contents) ∈ fs.items) :
    ∀ name ∈ names, Path.IsName name := by
  obtain ⟨contents, there⟩ := file
  exact fun name mem => wellFormed.named _ there name (List.mem_append_right top mem)

/-- A walk through the directory that is searched meets the sources. -/
theorem meets_iff_isSource (wellFormed : fs.WellFormed) (rooted : root ≠ "") :
    Meets fs root extension exclude top [] names ↔ IsSource fs root extension exclude top names := by
  constructor
  · rintro ⟨file, nonempty, visible, opened, kept⟩
    have named := Path.fileName?_foldl_join rooted nonempty (isName_of_file wellFormed file)
    obtain ⟨ending, kept⟩ := (isKept_iff named).1 kept
    exact ⟨(file_iff nonempty).1 file, ending,
      fun name mem => isHidden_eq_false_iff.1 (visible name mem), kept, opened⟩
  · intro isSource
    have nonempty := isSource.ne_nil
    have file := (file_iff nonempty).2 isSource.file
    have named := Path.fileName?_foldl_join rooted nonempty (isName_of_file wellFormed file)
    exact ⟨file, nonempty, fun name mem => isHidden_eq_false_iff.2 (isSource.visible name mem),
      isSource.opened, (isKept_iff named).2 ⟨isSource.ending, isSource.kept⟩⟩

/-- The files that are listed are the sources. -/
theorem lists_iff_isSource (wellFormed : fs.WellFormed) (found : fs.directory? root = some top) :
    Lists fs root extension exclude top names ↔ IsSource fs root extension exclude top names := by
  constructor
  · rintro ⟨-, listed, wanted⟩
    have file := mem_filesBelow_iff.1 listed
    have areNames := isName_of_file wellFormed file
    obtain ⟨reachable, visible, ending, kept⟩ := (isWanted_iff areNames).1 wanted
    have nonempty : names ≠ [] := by
      rintro rfl
      obtain ⟨stem, none, -⟩ := ending
      cases none
    exact ⟨(file_iff nonempty).1 file, ending, visible, kept,
      (isReachable_iff areNames nonempty).1 reachable⟩
  · intro isSource
    have nonempty := isSource.ne_nil
    have file := (file_iff nonempty).2 isSource.file
    have areNames := isName_of_file wellFormed file
    exact ⟨found, mem_filesBelow_iff.2 file, (isWanted_iff areNames).2
      ⟨(isReachable_iff areNames nonempty).2 isSource.opened, isSource.visible, isSource.ending,
        isSource.kept⟩⟩

/-- The sources that are listed are those a walk meets, as it meets them. -/
theorem walk_eq_filter (wellFormed : fs.WellFormed) (found : fs.directory? root = some top) :
    walk fs root extension exclude top [] =
      (fs.filesBelow top).filter (isWanted root extension exclude) := by
  have rooted : root ≠ "" := by
    rintro rfl
    cases found
  refine (pairwise_walk wellFormed []).eq_of_mem_iff
    ((pairwise_filesBelow fs top).filter _) fun names => ?_
  rw [mem_walk_iff wellFormed, mem_filter_filesBelow_iff found, lists_iff_isSource wellFormed found,
    ← meets_iff_isSource wellFormed rooted]
  simp

theorem findAll_eq_error_iff {error : Error} :
    findAll fs root extension exclude = .error error ↔
      fs.isDirectory root = false ∧ error = .file "input directory does not exist" root := by
  rw [findAll, isDirectory]
  cases fs.directory? root <;> simp [eq_comm]

/-- There is nothing to list only if there is no directory. Else what is listed are the sources and
nothing else, each one once and in the order of the bytes of their names, name by name; a walk meets
them in this order. -/
theorem findAll_exact (fs : FileSystem) (wellFormed : fs.WellFormed) (root extension : String)
    (exclude : List String) :
    (∀ error, findAll fs root extension exclude = .error error ↔
      fs.isDirectory root = false ∧ error = .file "input directory does not exist" root) ∧
    ∀ top, fs.directory? root = some top → ∃ found : List Route,
      findAll fs root extension exclude =
        .ok (found.map fun names => names.foldl Path.join root) ∧
      (∀ names, names ∈ found ↔ IsSource fs root extension exclude top names) ∧
      (found.map fun names => names.map nameBytes).Pairwise (· < ·) ∧
      (found.map fun names => names.foldl Path.join root).Nodup ∧
      found = walk fs root extension exclude top [] := by
  refine ⟨fun error => findAll_eq_error_iff, fun top there => ?_⟩
  have rooted : root ≠ "" := by
    rintro rfl
    cases there
  have isSource names : names ∈ walk fs root extension exclude top [] ↔
      IsSource fs root extension exclude top names := by
    rw [walk_eq_filter wellFormed there, mem_filter_filesBelow_iff there,
      lists_iff_isSource wellFormed there]
  have ordered : (walk fs root extension exclude top []).Pairwise (· < ·) :=
    pairwise_walk wellFormed []
  refine ⟨_, ?_, isSource, ?_, ?_, rfl⟩
  · exact findAll_eq_ok_iff.2 ⟨top, there, by rw [walk_eq_filter wellFormed there]⟩
  · exact List.pairwise_map.2 (ordered.imp map_nameBytes_lt)
  · refine List.Nodup.map_on (fun names mem others mem' same => ?_) ?_
    · have source := (isSource names).1 mem
      have source' := (isSource others).1 mem'
      exact Path.foldl_join_inj rooted source.ne_nil source'.ne_nil
        (isName_of_file wellFormed ((file_iff source.ne_nil).2 source.file))
        (isName_of_file wellFormed ((file_iff source'.ne_nil).2 source'.file)) same
    · exact ordered.imp fun before => by
        rintro rfl
        exact List.lt_irrefl _ before

namespace Sample

/-- A directory whose name goes on where another one ends, a hidden one, and a file of each kind. -/
def folders : FileSystem where
  items := [
    (["in"], .directory), (["in", ".git"], .directory), (["in", ".git", "x.java"], .file .empty),
    (["in", "a"], .directory), (["in", "a", "x.java"], .file .empty),
    (["in", "a-b"], .directory), (["in", "a-b", "x.java"], .file .empty),
    (["in", "a-b", "x.txt"], .file .empty),
    (["in", "gen"], .directory), (["in", "gen", "x.java"], .file .empty)]
  ordered := by unfold FileSystem.Ordered; decide

end Sample

/-- What is below a directory comes before a longer name, though a slash is no smaller than a hyphen.
-/
theorem findAll_folders :
    findAll Sample.folders "out" "java" [] =
      .error (.file "input directory does not exist" "out") ∧
    ∃ found : List Route,
      found.map (fun names => names.foldl Path.join "in") = ["in/a/x.java", "in/a-b/x.java"] ∧
      (∀ names, names ∈ found ↔
        IsSource Sample.folders "in" "java" ["gen/*", "a-b/***"] ["in"] names) ∧
      (found.map fun names => names.map nameBytes).Pairwise (· < ·) := by
  have wellFormed : Sample.folders.WellFormed := by decide +kernel
  have listed : findAll Sample.folders "in" "java" ["gen/*", "a-b/***"] =
      .ok ["in/a/x.java", "in/a-b/x.java"] := by decide +kernel
  obtain ⟨found, ok, sources, ordered, -, -⟩ := (findAll_exact Sample.folders wellFormed "in" "java"
    ["gen/*", "a-b/***"]).2 ["in"] (by decide +kernel)
  exact ⟨((findAll_exact Sample.folders wellFormed "out" "java" []).1 _).2
      ⟨by decide +kernel, rfl⟩,
    found, Except.ok.inj (ok.symm.trans listed), sources, ordered⟩

/-! ## Paths that are too long -/

/-- A path with slashes behind it. -/
def slashed (path : String) : Nat → String
  | 0 => path
  | count + 1 => slashed path count ++ "/"

theorem utf8ByteSize_slashed (path : String) (count : Nat) :
    (slashed path count).utf8ByteSize = path.utf8ByteSize + count := by
  induction count with
  | zero => rfl
  | succ count ih =>
    rw [slashed, String.utf8ByteSize_append, ih]
    rfl

theorem directory?_slashed (found : fs.directory? root = some top) {count : Nat}
    (short : root.utf8ByteSize + count ≤ maxPathBytes) :
    fs.directory? (slashed root count) = some top := by
  induction count with
  | zero => exact found
  | succ count ih =>
    refine directory?_append_slash (ih (Nat.le_of_succ_le short)) ?_
    rw [← slashed, utf8ByteSize_slashed]
    exact short

/-- Nothing is listed of a directory with a path that is too long. -/
theorem isWanted_eq_false_of_long {last : String} (isName : Path.IsName name)
    (long : maxPathBytes < root.utf8ByteSize + name.utf8ByteSize) :
    isWanted root extension exclude [name, last] = false := by
  have closed : isReachable root [name, last] = false :=
    decide_eq_false (Nat.not_le.2 (Nat.lt_of_lt_of_le long (Path.add_le_utf8ByteSize_join isName)))
  rw [isWanted, closed, Bool.false_and, Bool.false_and, Bool.false_and]

namespace Sample

/-- A long name. -/
def longName : String := String.ofList (List.replicate 60 'd')

/-- A file in a directory with a long name. -/
def deep : FileSystem where
  items := [(["in"], .directory), (["in", longName], .directory),
    (["in", longName, "x.java"], .file .empty)]
  ordered := by unfold FileSystem.Ordered; decide +kernel

end Sample

/-- A file that is neither hidden nor excluded is not listed if its directory cannot be opened. The
path of the directory that is searched is still short enough, that of the one below it is not. -/
theorem findAll_of_long_path :
    Sample.deep.WellFormed ∧ Sample.deep.directory? (slashed "in" 4040) = some ["in"] ∧
      Sample.deep.lookup (["in"] ++ [Sample.longName, "x.java"]) = some (.file .empty) ∧
      Path.extension? (Sample.longName ++ "/x.java") = some "java" ∧
      (∀ name ∈ [Sample.longName, "x.java"], isHidden name = false) ∧
      findAll Sample.deep (slashed "in" 4040) "java" [] = .ok [] := by
  have found : Sample.deep.directory? (slashed "in" 4040) = some ["in"] :=
    directory?_slashed (by decide +kernel) (by decide)
  have long : maxPathBytes < (slashed "in" 4040).utf8ByteSize + Sample.longName.utf8ByteSize := by
    rw [utf8ByteSize_slashed]
    decide +kernel
  have below : Sample.deep.filesBelow ["in"] = [[Sample.longName, "x.java"]] := by decide +kernel
  have unwanted : isWanted (slashed "in" 4040) "java" [] [Sample.longName, "x.java"] = false :=
    isWanted_eq_false_of_long (by decide +kernel) long
  refine ⟨by decide +kernel, found, by decide +kernel, by decide +kernel, by decide +kernel,
    findAll_eq_ok_iff.2 ⟨_, found, ?_⟩⟩
  rw [below, List.filter_cons_of_neg (Bool.not_eq_true _ ▸ unwanted)]
  rfl

end MethodCorpus.Source
