/-!
# Files and directories by value

A file system is a list of what stands where, in the order of the names that lead there from the
working directory. The working directory itself is always there and is not listed. Since the list is
in strict order, a place holds one thing at most, and two file systems with the same things at the
same places are equal.

* `lookup_put_self`, `lookup_put_of_ne`, `lookup_erase_self`, `lookup_erase_of_ne`: what an
  operation does to each place.
-/

namespace MethodCorpus

/-- The names that lead from the working directory to a place. -/
abbrev Route := List String

namespace FileSystem

/-- What stands at a place. -/
inductive Item where
  | directory
  | file (contents : ByteArray)

instance : DecidableEq Item
  | .directory, .directory => .isTrue rfl
  | .directory, .file _ => .isFalse nofun
  | .file _, .directory => .isFalse nofun
  | .file ⟨a⟩, .file ⟨b⟩ =>
    if same : a = b then .isTrue (by rw [same])
    else .isFalse fun h => same (congrArg ByteArray.data (Item.file.inj h))

/-- A list of items in the strict order of their places. -/
def Ordered (items : List (Route × Item)) : Prop := items.Pairwise fun a b => a.1 < b.1

/-- The item at a place. -/
def find? (place : Route) : List (Route × Item) → Option Item
  | [] => none
  | (route, item) :: rest => if route = place then some item else find? place rest

/-- The list with an item at a place, in place of the one it may hold there. -/
def insert (place : Route) (new : Item) : List (Route × Item) → List (Route × Item)
  | [] => [(place, new)]
  | (route, item) :: rest =>
    if place < route then (place, new) :: (route, item) :: rest
    else if route = place then (place, new) :: rest
    else (route, item) :: insert place new rest

/-- The list without the item at a place. -/
def remove (place : Route) (items : List (Route × Item)) : List (Route × Item) :=
  items.filter (·.1 ≠ place)

theorem eq_or_mem_of_mem_insert {place : Route} {new : Item} {entry : Route × Item}
    {items : List (Route × Item)} (h : entry ∈ insert place new items) :
    entry = (place, new) ∨ entry ∈ items := by
  induction items with
  | nil => exact .inl (List.mem_singleton.1 h)
  | cons first rest ih =>
    obtain ⟨route, item⟩ := first
    unfold insert at h
    split at h
    · exact List.mem_cons.1 h
    · split at h
      · exact (List.mem_cons.1 h).imp_right (List.mem_cons_of_mem _)
      · rcases List.mem_cons.1 h with rfl | h
        · exact .inr (List.mem_cons_self ..)
        · exact (ih h).imp_right (List.mem_cons_of_mem _)

theorem Ordered.insert {items : List (Route × Item)} (ordered : Ordered items) (place : Route)
    (new : Item) : Ordered (insert place new items) := by
  induction items with
  | nil => exact List.pairwise_singleton _ _
  | cons first rest ih =>
    obtain ⟨route, item⟩ := first
    have tail := List.pairwise_cons.1 ordered
    unfold FileSystem.insert
    split
    · next below =>
      refine List.pairwise_cons.2 ⟨fun entry mem => ?_, ordered⟩
      rcases List.mem_cons.1 mem with rfl | mem
      · exact below
      · exact List.lt_trans below (tail.1 entry mem)
    · next notBelow =>
      split
      · next same => exact List.pairwise_cons.2 ⟨fun entry mem => same ▸ tail.1 entry mem, tail.2⟩
      · next differ =>
        refine List.pairwise_cons.2 ⟨fun entry mem => ?_, ih tail.2⟩
        rcases eq_or_mem_of_mem_insert mem with rfl | mem
        · exact (Std.lt_trichotomy route place).resolve_right fun h =>
            h.elim differ notBelow
        · exact tail.1 entry mem

theorem Ordered.remove {items : List (Route × Item)} (ordered : Ordered items) (place : Route) :
    Ordered (remove place items) :=
  List.Pairwise.filter _ ordered

end FileSystem

/-- The files and directories below the working directory. -/
structure FileSystem where
  items : List (Route × FileSystem.Item)
  ordered : FileSystem.Ordered items
  deriving DecidableEq

namespace FileSystem

/-- The file system in which there is only the working directory. -/
def empty : FileSystem := ⟨[], List.Pairwise.nil⟩

/-- What stands at a place. -/
def lookup (fs : FileSystem) (place : Route) : Option Item :=
  if place = [] then some .directory else find? place fs.items

/-- Puts an item at a place, in place of what stands there. -/
def put (fs : FileSystem) (place : Route) (item : Item) : FileSystem :=
  ⟨insert place item fs.items, fs.ordered.insert place item⟩

/-- Takes away what stands at a place. -/
def erase (fs : FileSystem) (place : Route) : FileSystem :=
  ⟨remove place fs.items, fs.ordered.remove place⟩

theorem find?_insert_self (place : Route) (new : Item) (items : List (Route × Item)) :
    find? place (insert place new items) = some new := by
  induction items with
  | nil => simp [insert, find?]
  | cons first rest ih =>
    obtain ⟨route, item⟩ := first
    unfold insert
    split
    · simp [find?]
    · split
      · simp [find?]
      · next differ => simp [find?, differ, ih]

theorem find?_insert_of_ne {place other : Route} (differ : place ≠ other) (new : Item)
    (items : List (Route × Item)) :
    find? other (insert place new items) = find? other items := by
  induction items with
  | nil => simp [insert, find?, differ]
  | cons first rest ih =>
    obtain ⟨route, item⟩ := first
    unfold insert
    split
    · simp [find?, differ]
    · split
      · next same => simp [find?, differ, same]
      · simp [find?, ih]

theorem find?_remove (place other : Route) (items : List (Route × Item)) :
    find? other (remove place items) = if other = place then none else find? other items := by
  induction items with
  | nil => simp [remove, find?]
  | cons first rest ih =>
    obtain ⟨route, item⟩ := first
    simp only [remove, find?, List.filter_cons] at ih ⊢
    by_cases same : route = place <;> by_cases here : route = other <;>
      by_cases both : other = place <;> simp_all [find?]

theorem lookup_put_self {place : Route} (below : place ≠ []) (fs : FileSystem) (item : Item) :
    (fs.put place item).lookup place = some item := by
  rw [lookup, if_neg below]
  exact find?_insert_self place item fs.items

theorem lookup_put_of_ne {place other : Route} (differ : place ≠ other) (fs : FileSystem)
    (item : Item) : (fs.put place item).lookup other = fs.lookup other := by
  unfold lookup put
  split
  · rfl
  · exact find?_insert_of_ne differ item fs.items

theorem lookup_erase_self {place : Route} (below : place ≠ []) (fs : FileSystem) :
    (fs.erase place).lookup place = none := by
  rw [lookup, if_neg below]
  exact (find?_remove place place fs.items).trans (if_pos rfl)

theorem lookup_erase_of_ne {place other : Route} (differ : place ≠ other) (fs : FileSystem) :
    (fs.erase place).lookup other = fs.lookup other := by
  unfold lookup erase
  split
  · rfl
  · exact (find?_remove place other fs.items).trans (if_neg differ.symm)

/-- The files below a place in the order of their names, each by the names that lead to it from
there. -/
def filesBelow (fs : FileSystem) (place : Route) : List Route :=
  fs.items.filterMap fun (route, item) =>
    match item with
    | .directory => none
    | .file _ => if place.isPrefixOf route then some (route.drop place.length) else none

/-- What differs between two file systems. -/
structure Changes where
  /-- What is new or has other contents. -/
  written : List (Route × Item)
  /-- What is gone. -/
  removed : List Route

/-- What has to be written and removed to get from one file system to another. -/
def changes (before after : FileSystem) : Changes where
  written := after.items.filter fun (route, item) => before.lookup route ≠ some item
  removed := (before.items.map Prod.fst).filter fun route => after.lookup route = none

end FileSystem

end MethodCorpus
