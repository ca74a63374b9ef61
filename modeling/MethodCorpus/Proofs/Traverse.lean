import Mathlib.Data.List.Forall2

/-!
# Lists that are read all or nothing

A list is read by reading its items in order; the first one that cannot be read is what the whole
reading fails with.

* `bind_eq_ok_iff`, `map_eq_ok_iff`: two readings in a row, and a reading whose value is changed;
* `mapM_eq_ok_iff`: a list that was read has one value for each item, in order;
* `mapM_eq_error_iff`: a list that was not read fails as its first bad item does;
* `mapM_eq_some_map`: the same for readings that do not say why they fail;
* `forall₂_of_map_eq_filterMap`: what is made of the items that give something, item by item.
-/

namespace MethodCorpus

variable {ε α β : Type} {read : α → Except ε β} {item : α} {rest : List α}

theorem toOption_eq_some_iff {outcome : Except ε β} {value : β} :
    outcome.toOption = some value ↔ outcome = .ok value := by
  cases outcome <;> simp [Except.toOption]

/-- Two readings in a row succeed exactly if both do. -/
theorem bind_eq_ok_iff {outcome : Except ε α} {next : α → Except ε β} {value : β} :
    outcome >>= next = .ok value ↔ ∃ first, outcome = .ok first ∧ next first = .ok value := by
  cases outcome <;> simp [bind, Except.bind]

/-- What a reading gives is changed exactly if it gives something. -/
theorem map_eq_ok_iff {outcome : Except ε α} {change : α → β} {value : β} :
    outcome.map change = .ok value ↔ ∃ first, outcome = .ok first ∧ change first = value := by
  cases outcome <;> simp [Except.map]

theorem mapM_cons_of_error {error : ε} (h : read item = .error error) :
    (item :: rest).mapM read = .error error := by
  rw [List.mapM_cons, h]
  rfl

theorem mapM_cons_of_ok {value : β} (h : read item = .ok value) :
    (item :: rest).mapM read = (rest.mapM read).map (value :: ·) := by
  rw [List.mapM_cons, h]
  cases rest.mapM read <;> rfl

theorem mapM_congr {read' : α → Except ε β} {items : List α}
    (h : ∀ item ∈ items, read item = read' item) : items.mapM read = items.mapM read' := by
  induction items with
  | nil => rfl
  | cons item rest ih =>
    rw [List.mapM_cons, List.mapM_cons, h item List.mem_cons_self,
      ih fun other mem => h other (List.mem_cons_of_mem _ mem)]

theorem mapM_eq_ok_iff {items : List α} {values : List β} :
    items.mapM read = .ok values ↔
      List.Forall₂ (fun item value => read item = .ok value) items values := by
  induction items generalizing values with
  | nil =>
    rw [List.forall₂_nil_left_iff]
    exact ⟨fun h => (Except.ok.inj h).symm, fun h => h ▸ rfl⟩
  | cons item rest ih =>
    rw [List.forall₂_cons_left_iff]
    simp only [← ih]
    cases found : read item with
    | error error => simp [mapM_cons_of_error found]
    | ok value =>
      rw [mapM_cons_of_ok found]
      cases rest.mapM read <;> simp [Except.map, eq_comm]

theorem mapM_eq_ok_map {items : List α} {value : α → β}
    (h : ∀ item ∈ items, read item = .ok (value item)) :
    items.mapM read = .ok (items.map value) := by
  rw [mapM_eq_ok_iff, List.forall₂_map_right_iff, List.forall₂_same]
  exact h

theorem exists_of_mapM_eq_ok {items : List α} {values : List β} (h : items.mapM read = .ok values)
    (mem : item ∈ items) : ∃ value, read item = .ok value := by
  have each := mapM_eq_ok_iff.1 h
  clear h
  induction each with
  | nil => simp at mem
  | cons first _ ih =>
    rcases List.mem_cons.1 mem with rfl | mem
    · exact ⟨_, first⟩
    · exact ih mem

theorem exists_of_mem_values {items : List α} {values : List β} (h : items.mapM read = .ok values)
    {value : β} (mem : value ∈ values) : ∃ item ∈ items, read item = .ok value := by
  have each := mapM_eq_ok_iff.1 h
  clear h
  induction each with
  | nil => simp at mem
  | cons first _ ih =>
    rcases List.mem_cons.1 mem with rfl | mem
    · exact ⟨_, List.mem_cons_self, first⟩
    · obtain ⟨item, listed, found⟩ := ih mem
      exact ⟨item, List.mem_cons_of_mem _ listed, found⟩

theorem mapM_eq_error_iff {items : List α} {error : ε} :
    items.mapM read = .error error ↔
      ∃ before item after, items = before ++ item :: after ∧
        (∀ other ∈ before, ∃ value, read other = .ok value) ∧ read item = .error error := by
  constructor
  · intro h
    induction items with
    | nil => simp [pure, Except.pure] at h
    | cons first rest ih =>
      cases found : read first with
      | error error' =>
        rw [mapM_cons_of_error found] at h
        exact ⟨[], first, rest, rfl, by simp, found.trans (congrArg _ (Except.error.inj h))⟩
      | ok value =>
        have below : rest.mapM read = .error error := by
          rw [mapM_cons_of_ok found] at h
          cases others : rest.mapM read <;> simp_all [Except.map]
        obtain ⟨before, item, after, rfl, good, bad⟩ := ih below
        refine ⟨first :: before, item, after, rfl, fun other mem => ?_, bad⟩
        rcases List.mem_cons.1 mem with rfl | mem
        · exact ⟨value, found⟩
        · exact good other mem
  · rintro ⟨before, item, after, rfl, good, bad⟩
    induction before with
    | nil => exact mapM_cons_of_error bad
    | cons first before ih =>
      obtain ⟨value, found⟩ := good first List.mem_cons_self
      rw [List.cons_append, mapM_cons_of_ok found,
        ih fun other mem => good other (List.mem_cons_of_mem _ mem)]
      rfl

/-- A list is read if each item is, also where a reading does not say why it fails. -/
theorem mapM_eq_some_map {read : α → Option β} {value : α → β} {items : List α}
    (h : ∀ item ∈ items, read item = some (value item)) :
    items.mapM read = some (items.map value) := by
  induction items with
  | nil => rfl
  | cons item rest ih =>
    rw [List.mapM_cons, h item List.mem_cons_self,
      ih fun other mem => h other (List.mem_cons_of_mem _ mem)]
    rfl

/-- If the values are what is made of the items that give something, then each such item has its
value, in order. -/
theorem forall₂_of_map_eq_filterMap {γ δ : Type} {found : α → Option γ} {made : α → γ → δ}
    {view : β → δ} {items : List α} {values : List β}
    (h : values.map view = items.filterMap fun item => (found item).map (made item)) :
    List.Forall₂ (fun item value => ∃ given, found item = some given ∧ view value = made item given)
      (items.filter fun item => (found item).isSome) values := by
  induction items generalizing values with
  | nil =>
    obtain rfl := List.map_eq_nil_iff.1 h
    exact .nil
  | cons item rest ih =>
    cases gives : found item with
    | none =>
      rw [List.filterMap_cons_none (by rw [gives]; rfl)] at h
      rw [List.filter_cons_of_neg (by rw [gives]; exact Bool.false_ne_true)]
      exact ih h
    | some given =>
      rw [List.filterMap_cons_some (by rw [gives]; rfl)] at h
      obtain ⟨value, others, rfl, first, below⟩ := List.map_eq_cons_iff.1 h
      rw [List.filter_cons_of_pos (by rw [gives]; rfl)]
      exact .cons ⟨given, gives, first⟩ (ih below)

end MethodCorpus
