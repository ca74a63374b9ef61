import Mathlib.Data.List.Basic
import Mathlib.Data.List.Induction
import Mathlib.Data.List.TakeWhile
import MethodCorpus.Path

/-!
# Paths put together

Names do not hold slashes, so a name that is put behind a path is its last segment and its file
name.

* `IsName`: what can be the name of a file or a directory;
* `isName_of_mem_segments`: which segments are names;
* `exists_segments_join`, `foldl_join_inj`: names behind a path are its last segments;
* `fileName?_of_segments`, `fileName?_intercalate`: the last name of a path;
* `le_utf8ByteSize_foldl_join`: a path with names behind it is no shorter;
* `parent?_join_congr`: the path without its last name;
* `splitName_eq_some_iff`, `getLast?_of_extension?`: what the extension of a name is.
-/

namespace MethodCorpus.Path

/-! ## Names -/

/-- Whether a text can be the name of a file or a directory. -/
structure IsName (name : String) : Prop where
  notIdle : isIdle name = false
  notUp : name ≠ ".."
  undivided : separator ∉ name.toList

instance (name : String) : Decidable (IsName name) :=
  decidable_of_iff (isIdle name = false ∧ name ≠ ".." ∧ separator ∉ name.toList)
    ⟨fun h => ⟨h.1, h.2.1, h.2.2⟩, fun h => ⟨h.notIdle, h.notUp, h.undivided⟩⟩

theorem IsName.ne_empty {name : String} (isName : IsName name) : name ≠ "" := by
  rintro rfl
  exact absurd isName.notIdle (by decide)

/-- A name is still one with an ending behind it that is more than dots. -/
theorem IsName.append {name ending : String} (isName : IsName name)
    (more : ∃ c ∈ ending.toList, c ≠ '.') (undivided : separator ∉ ending.toList) :
    IsName (name ++ ending) := by
  obtain ⟨c, mem, differ⟩ := more
  have other : ∀ dots : String, (∀ d ∈ dots.toList, d = '.') → name ++ ending ≠ dots := by
    rintro dots only rfl
    rw [String.toList_append] at only
    exact differ (only c (List.mem_append_right _ mem))
  refine ⟨?_, other ".." (by simp), ?_⟩
  · rw [isIdle, Bool.or_eq_false_iff, beq_eq_false_iff_ne, beq_eq_false_iff_ne]
    exact ⟨other "" (by simp), other "." (by simp)⟩
  · rw [String.toList_append, List.mem_append]
    exact fun h => h.elim isName.undivided undivided

/-! ## Segments -/

theorem split_of_notMem {text : List Char} (undivided : separator ∉ text) :
    split text = [text] := by
  induction text with
  | nil => rfl
  | cons c rest ih =>
    rw [List.mem_cons, not_or] at undivided
    rw [split, if_neg (Ne.symm undivided.1), ih undivided.2]

theorem undivided_of_mem_split {text part : List Char} (mem : part ∈ split text) :
    separator ∉ part := by
  induction text generalizing part with
  | nil =>
    rw [List.mem_singleton.1 mem]
    exact List.not_mem_nil
  | cons c rest ih =>
    rw [split] at mem
    split at mem
    · rcases List.mem_cons.1 mem with rfl | mem
      · exact List.not_mem_nil
      · exact ih mem
    · next other =>
      cases parts : split rest with
      | nil => exact absurd parts (split_ne_nil rest)
      | cons first others =>
        rw [parts] at mem ih
        rcases List.mem_cons.1 mem with rfl | mem
        · rw [List.mem_cons, not_or]
          exact ⟨Ne.symm other, ih List.mem_cons_self⟩
        · exact ih (List.mem_cons_of_mem _ mem)

/-- A segment that says where to go and does not step up is a name. -/
theorem isName_of_mem_segments {path segment : String} (mem : segment ∈ segments path)
    (said : segment ≠ "") (other : segment ≠ ".") (notUp : segment ≠ "..") : IsName segment := by
  obtain ⟨part, divided, rfl⟩ := List.mem_map.1 mem
  refine ⟨by simp [isIdle, said, other], notUp, ?_⟩
  rw [String.toList_ofList]
  exact undivided_of_mem_split divided

theorem split_append_cons (front back : List Char) :
    split (front ++ separator :: back) = split front ++ split back := by
  induction front with
  | nil => rw [List.nil_append, split.eq_2, if_pos rfl]; rfl
  | cons c rest ih =>
    rw [List.cons_append, split, ih, split]
    split
    · rfl
    · cases parts : split rest with
      | nil => exact absurd parts (split_ne_nil rest)
      | cons part parts => rfl

/-- Texts that are put together are divided where they were put together, and within each text. -/
theorem split_intercalate {texts : List (List Char)} (nonempty : texts ≠ []) :
    split ([separator].intercalate texts) = texts.flatMap split := by
  induction texts with
  | nil => exact absurd rfl nonempty
  | cons first rest ih =>
    cases rest with
    | nil => rw [List.intercalate_singleton, List.flatMap_singleton]
    | cons second rest =>
      rw [List.intercalate_cons_cons, List.append_assoc, List.singleton_append, split_append_cons,
        ih (List.cons_ne_nil _ _), ← List.flatMap_cons]

theorem segments_append_slash (path : String) : segments (path ++ "/") = segments path ++ [""] := by
  have divided : (path ++ "/").toList = path.toList ++ separator :: [] := String.toList_append
  rw [segments, divided, split_append_cons, List.map_append]
  rfl

theorem segments_of_isName {name : String} (isName : IsName name) : segments name = [name] := by
  rw [segments, split_of_notMem isName.undivided, List.map_singleton, String.ofList_toList]

theorem join_of_isName {path name : String} (isName : IsName name) :
    join path name = if path.isEmpty || path.toList.getLast? == some separator then path ++ name
      else path ++ "/" ++ name := by
  have relative : isAbsolute name = false := by
    rw [isAbsolute, beq_eq_false_iff_ne]
    exact fun h => isName.undivided (List.mem_of_mem_head? h)
  rw [join, relative, if_neg Bool.false_ne_true]

/-- The segments of a path with a name behind it: those of the path and the name, or if the path
ends with a slash, the name in place of the empty segment behind the slash. -/
theorem exists_segments_join {path : String} (nonempty : path ≠ "") :
    ∃ before, (segments path = before ∨ segments path = before ++ [""]) ∧
      ∀ {name}, IsName name → segments (join path name) = before ++ [name] := by
  have joined : ∀ {name}, IsName name → join path name =
      if path.toList.getLast? == some separator then path ++ name else path ++ "/" ++ name := by
    intro name isName
    rw [join_of_isName isName, String.isEmpty_eq_false_iff.2 nonempty, Bool.false_or]
  by_cases slash : (path.toList.getLast? == some separator) = true
  · -- the path ends with a slash, so the name takes the place of what is behind it
    obtain ⟨before, whole⟩ := List.getLast?_eq_some_iff.1 (beq_iff_eq.1 slash)
    refine ⟨(split before).map String.ofList, .inr ?_, fun {name} isName => ?_⟩
    · rw [segments, whole, split_append_cons, List.map_append]
      rfl
    · have same := segments_of_isName isName
      rw [segments] at same
      rw [joined isName, if_pos slash, segments, String.toList_append, whole, List.append_assoc,
        List.singleton_append, split_append_cons, List.map_append, same]
  · refine ⟨segments path, .inl rfl, fun {name} isName => ?_⟩
    have same := segments_of_isName isName
    have divided : (path ++ "/" ++ name).toList =
        path.toList ++ separator :: name.toList := by
      rw [String.toList_append, String.toList_append, List.append_assoc]
      rfl
    rw [segments] at same
    rw [joined isName, if_neg slash, segments, divided, split_append_cons, List.map_append, same]
    rfl

theorem join_ne_empty {path name : String} (nonempty : name ≠ "") : join path name ≠ "" := by
  rw [join]
  split
  · exact nonempty
  · split <;> simp [nonempty]

/-- An ending goes to the last name. -/
theorem join_append {path name : String} (isName : IsName name) (ending : String) :
    join path name ++ ending = join path (name ++ ending) := by
  have first : isAbsolute (name ++ ending) = isAbsolute name := by
    obtain ⟨c, rest, whole⟩ := List.exists_cons_of_ne_nil
      (show name.toList ≠ [] by simpa using isName.ne_empty)
    rw [isAbsolute, isAbsolute, String.toList_append, whole, List.cons_append, List.head?_cons,
      List.head?_cons]
  rw [join, join, first]
  split
  · rfl
  · split <;> rw [String.append_assoc]

/-- A path with a name behind it is longer by that name at least. -/
theorem add_le_utf8ByteSize_join {path name : String} (isName : IsName name) :
    path.utf8ByteSize + name.utf8ByteSize ≤ (join path name).utf8ByteSize := by
  rw [join_of_isName isName]
  split <;> simp only [String.utf8ByteSize_append] <;> omega

theorem le_utf8ByteSize_foldl_join {path : String} {names : List String}
    (areNames : ∀ name ∈ names, IsName name) :
    path.utf8ByteSize ≤ (names.foldl join path).utf8ByteSize := by
  induction names generalizing path with
  | nil => exact Nat.le_refl _
  | cons name rest ih =>
    have longer := @add_le_utf8ByteSize_join path _ (areNames name List.mem_cons_self)
    exact Nat.le_trans (Nat.le_of_add_right_le longer)
      (ih fun other mem => areNames other (List.mem_cons_of_mem _ mem))

/-- Names that are put behind a path one after the other are its last segments. -/
theorem exists_segments_foldl_join {path : String} (nonempty : path ≠ "") :
    ∃ before, ∀ {names : List String}, names ≠ [] → (∀ name ∈ names, IsName name) →
      segments (names.foldl join path) = before ++ names := by
  obtain ⟨before, -, one⟩ := exists_segments_join nonempty
  refine ⟨before, fun {names} some areNames => ?_⟩
  induction names using List.reverseRecOn with
  | nil => exact absurd rfl some
  | append_singleton front last ih =>
    have isName := areNames last (by simp)
    rw [List.foldl_concat]
    rcases List.eq_nil_or_concat' front with rfl | ⟨front', last', rfl⟩
    · exact one isName
    · have isName' := areNames last' (by simp)
      have folded : (front' ++ [last']).foldl join path ≠ "" := by
        rw [List.foldl_concat]
        exact join_ne_empty isName'.ne_empty
      have inside := ih (by simp) fun name mem => areNames name (List.mem_append_left _ mem)
      obtain ⟨before', here | here, next⟩ := exists_segments_join folded
      · rw [next isName, ← here, inside, List.append_assoc]
      · -- the last name is not empty, so there is no slash at the end
        rw [inside, ← List.append_assoc] at here
        exact absurd (List.singleton_inj.1 (List.append_inj' here rfl).2) isName'.ne_empty

/-- Different names behind a path make different paths. -/
theorem foldl_join_inj {path : String} {names others : List String} (nonempty : path ≠ "")
    (some : names ≠ []) (some' : others ≠ []) (areNames : ∀ name ∈ names, IsName name)
    (areNames' : ∀ name ∈ others, IsName name)
    (same : names.foldl join path = others.foldl join path) : names = others := by
  obtain ⟨before, whole⟩ := exists_segments_foldl_join nonempty
  have segmented := whole some areNames
  rw [same, whole some' areNames'] at segmented
  exact (List.append_cancel_left segmented).symm

/-- The segments of texts that are put together are those of each text. -/
theorem segments_intercalate {texts : List String} (nonempty : texts ≠ []) :
    segments ("/".intercalate texts) = texts.flatMap segments := by
  have some : texts.map String.toList ≠ [] := by simpa using nonempty
  have divided := split_intercalate some
  rw [segments, String.toList_intercalate]
  show (split ([separator].intercalate _)).map String.ofList = texts.flatMap segments
  rw [divided, List.flatMap_map, List.map_flatMap]
  rfl

/-! ## File names -/

/-- Segments are all kept if the last one says something. -/
theorem trim_concat {front : List String} {last : String} (said : isIdle last = false) :
    trim (front ++ [last]) = front ++ [last] := by
  cases front with
  | nil => rfl
  | cons first front =>
    rw [List.cons_append, trim, List.reverse_concat,
      List.dropWhile_cons_of_neg (by simp [said]), List.reverse_cons, List.reverse_reverse]

/-- The file name is the last segment if that is a name. -/
theorem fileName?_of_segments {path last : String} {front : List String} (isName : IsName last)
    (whole : segments path = front ++ [last]) : fileName? path = some last := by
  rw [fileName?, whole, trim_concat isName.notIdle, List.getLast?_concat, Option.filter_some,
    if_pos]
  simp [isName.notIdle, isName.notUp]

/-- The file name of a path that is put together is the last name, whatever stands before it. -/
theorem fileName?_intercalate_concat {front : List String} {last : String} (isName : IsName last) :
    fileName? ("/".intercalate (front ++ [last])) = some last := by
  have whole : segments ("/".intercalate (front ++ [last])) = front.flatMap segments ++ [last] := by
    rw [segments_intercalate (by simp), List.flatMap_append, List.flatMap_singleton,
      segments_of_isName isName]
  exact fileName?_of_segments isName whole

theorem fileName?_intercalate {names : List String} (areNames : ∀ name ∈ names, IsName name) :
    fileName? ("/".intercalate names) = names.getLast? := by
  rcases List.eq_nil_or_concat' names with rfl | ⟨front, last, rfl⟩
  · decide
  · rw [fileName?_intercalate_concat (areNames last (by simp)), List.getLast?_concat]

/-- The file name of a path with names behind it is the last of them. -/
theorem fileName?_foldl_join {path : String} {names : List String} (nonempty : path ≠ "")
    (some : names ≠ []) (areNames : ∀ name ∈ names, IsName name) :
    fileName? (names.foldl join path) = names.getLast? := by
  obtain ⟨before, whole⟩ := exists_segments_foldl_join nonempty
  have segmented := whole some areNames
  obtain ⟨front, last, rfl⟩ := (List.eq_nil_or_concat' names).resolve_left some
  rw [← List.append_assoc] at segmented
  rw [fileName?_of_segments (areNames last (by simp)) segmented, List.getLast?_concat]

theorem fileName?_join {path name : String} (nonempty : path ≠ "") (isName : IsName name) :
    fileName? (join path name) = some name := by
  obtain ⟨before, -, joined⟩ := exists_segments_join nonempty
  exact fileName?_of_segments isName (joined isName)

/-- A file name is a name. -/
theorem isName_of_fileName? {path name : String} (h : fileName? path = some name) :
    IsName name := by
  obtain ⟨last, isName⟩ := Option.filter_eq_some_iff.1 h
  simp only [isIdle, Bool.and_eq_true, Bool.not_eq_true', Bool.or_eq_false_iff, bne_iff_ne,
    beq_eq_false_iff_ne] at isName
  have kept := List.mem_of_getLast? last
  have mem : name ∈ segments path := by
    cases whole : segments path with
    | nil => exact absurd (List.map_eq_nil_iff.1 whole) (split_ne_nil _)
    | cons first rest =>
      rw [whole, trim, List.mem_cons, List.mem_reverse] at kept
      exact List.mem_cons.2 (kept.imp_right fun kept =>
        List.mem_reverse.1 ((List.dropWhile_suffix _).subset kept))
  exact isName_of_mem_segments mem isName.1.1 isName.1.2 isName.2

/-- The path above is told without the last name. -/
theorem parent?_of_segments {path last : String} {front : List String} (isName : IsName last)
    (whole : segments path = front ++ [last]) :
    parent? path = if front = [] then some "" else some (ofSegments (trim front)) := by
  rw [parent?, whole, trim_concat isName.notIdle]
  cases front with
  | nil => simp [isName.ne_empty]
  | cons first front =>
    cases front with
    | nil => rfl
    | cons second front =>
      simp only [List.cons_append, reduceCtorEq, if_false]
      rw [← List.cons_append, ← List.cons_append, List.dropLast_concat]

/-- Files in one directory have the same path above. -/
theorem parent?_join_congr {path name other : String} (nonempty : path ≠ "")
    (isName : IsName name) (isName' : IsName other) :
    parent? (join path name) = parent? (join path other) := by
  obtain ⟨before, -, joined⟩ := exists_segments_join nonempty
  rw [parent?_of_segments isName (joined isName), parent?_of_segments isName' (joined isName')]

/-! ## Extensions -/

/-- An extension is what stands behind the last dot of a name, unless that dot comes first. -/
theorem splitName_eq_some_iff {name ending : String} :
    (splitName name).2 = some ending ↔
      ∃ stem, stem ≠ "" ∧ '.' ∉ ending.toList ∧ name = stem ++ "." ++ ending := by
  simp only [splitName]
  constructor
  · intro divided
    have parts := List.takeWhile_append_dropWhile (p := (· != '.')) (l := name.toList.reverse)
    split at divided
    · cases divided
    · cases divided
    · next dot before more behind =>
      obtain rfl := Option.some.inj divided
      have isDot : dot = '.' := by
        have head := List.head?_dropWhile_not (· != '.') name.toList.reverse
        rw [behind] at head
        simpa using head
      have whole := congrArg List.reverse parts
      rw [behind, isDot, List.reverse_reverse] at whole
      refine ⟨String.ofList before.reverse, ?_, ?_, String.toList_inj.1 ?_⟩
      · rw [Ne, String.ofList_eq_empty_iff, List.reverse_eq_nil_iff]
        exact more
      · rw [String.toList_ofList, List.mem_reverse]
        exact fun mem => absurd (List.mem_takeWhile_imp mem) (by decide)
      · simpa using whole.symm
  · rintro ⟨stem, some, undivided, rfl⟩
    have plain : ∀ c ∈ ending.toList.reverse, (c != '.') = true := fun c mem => by
      rw [bne_iff_ne]
      rintro rfl
      exact undivided (List.mem_reverse.1 mem)
    have whole : (stem ++ "." ++ ending).toList.reverse =
        ending.toList.reverse ++ '.' :: stem.toList.reverse := by simp
    rw [whole, List.takeWhile_append_of_pos plain, List.dropWhile_append_of_pos plain,
      List.dropWhile_cons_of_neg (by decide), List.takeWhile_cons_of_neg (by decide)]
    obtain ⟨c, rest, before⟩ := List.exists_cons_of_ne_nil
      (show stem.toList.reverse ≠ [] by simpa using some)
    rw [before]
    simp

/-- An extension that is not empty ends as the whole name does. -/
theorem getLast?_of_extension? {path extension : String} (h : extension? path = some extension)
    (nonempty : extension ≠ "") :
    ∃ name, fileName? path = some name ∧ name.toList.getLast? = extension.toList.getLast? := by
  obtain ⟨name, named, divided⟩ := Option.bind_eq_some_iff.1 h
  obtain ⟨stem, -, -, rfl⟩ := splitName_eq_some_iff.1 divided
  refine ⟨_, named, ?_⟩
  rw [String.toList_append, List.getLast?_append_of_ne_nil _ (by simpa using nonempty)]

end MethodCorpus.Path
