import MethodCorpus.Proofs.Tree.Order

/-!
# Tables built by calls

A table is built by calls in any order: rows are pushed under parents that may or may not be there,
and tokens are set. The calls change one array of rows in place. Whatever the calls, the links of
the rows agree after each of them, because a push that is refused changes nothing and a push that is
accepted puts its row behind the parent.

* `pushRow`, `rowsAfter`: the calls on an array of rows, done in place;
* `pushRow_cases`: when a push is refused, and what is done by one that is not;
* `Linked.apply`, `linked_rowsAfter`: the links agree after one call, and after all;
* `linked_and_inOrder`: what that means for the walks of the finished tree.
-/

namespace MethodCorpus.Tree

/-- A call on a table under construction. -/
inductive Call where
  | push (parent : Option Nat) (label : String) (token : Option String)
  | setToken (place : Nat) (token : String)

/-- Whether a parent can be given to a new row: the first row has none, any other one has a parent
that is there already. -/
def Fits (rows : Array Entry) : Option Nat → Prop
  | none => rows.size = 0
  | some parent => parent < rows.size

/-- Adds a row in place and tells where it is. The parent takes the new row in before the row itself
is put at the end. -/
def pushRow (parent : Option Nat) (label : String) (token : Option String) (rows : Array Entry) :
    Except Fault Nat × Array Entry :=
  let place := rows.size
  match parent with
  | none =>
    if place ≠ 0 then (.error (.secondRoot label), rows)
    else (.ok place, rows.push ⟨label, token, none, []⟩)
  | some parent =>
    if place ≤ parent then (.error (.noSuchParent parent label), rows)
    else
      let rows := rows.modify parent (·.adopt place)
      (.ok place, rows.push ⟨label, token, some parent, []⟩)

namespace Call

/-- The rows that a call leaves. -/
def apply (rows : Array Entry) : Call → Array Entry
  | push parent label token => (pushRow parent label token rows).2
  | setToken place token => rows.modify place (·.withToken token)

end Call

/-- The rows after some calls on an empty table. -/
def rowsAfter (calls : List Call) : Array Entry := calls.foldl Call.apply #[]

namespace Builder

/-- The builder after a call. A push that is refused gives no new one, so the old one stays. -/
def apply (builder : Builder) : Call → Builder
  | .push parent label token =>
    match builder.push parent label token with
    | .error _ => builder
    | .ok (_, next) => next
  | .setToken place token => builder.setToken place token

/-- The builder after some calls on an empty one. -/
def after (calls : List Call) : Builder := calls.foldl apply empty

end Builder

/-! ## One call -/

section Push

variable {rows : Array Entry} {parent : Option Nat} {label : String} {token : Option String}

theorem pushRow_of_not_fits (refused : ¬ Fits rows parent) :
    ∃ fault, pushRow parent label token rows = (.error fault, rows) := by
  cases parent with
  | none => exact ⟨.secondRoot label, if_pos refused⟩
  | some parent => exact ⟨.noSuchParent parent label, if_pos (Nat.le_of_not_lt refused)⟩

/-- A push that is accepted makes one new row, at the end. -/
theorem pushRow_of_fits (fits : Fits rows parent) :
    ∃ next, pushRow parent label token rows = (.ok rows.size, next) ∧
      next.size = rows.size + 1 ∧ next[rows.size]? = some ⟨label, token, parent, []⟩ := by
  cases parent with
  | none =>
    refine ⟨_, if_neg (not_not.2 fits), Array.size_push _, ?_⟩
    rw [Array.getElem?_push_size]
  | some parent =>
    refine ⟨_, if_neg (Nat.not_le.2 fits), ?_, ?_⟩
    · rw [Array.size_push, Array.size_modify]
    · rw [Array.getElem?_push, Array.size_modify, if_pos rfl]

/-- The rows of a builder are pushed to in the same way. -/
theorem pushRow_entries (builder : Builder) :
    pushRow parent label token builder.entries =
      match builder.push parent label token with
      | .error fault => (.error fault, builder.entries)
      | .ok (place, next) => (.ok place, next.entries) := by
  obtain ⟨rows, linked⟩ := builder
  cases parent with
  | none =>
    by_cases empty : rows.size = 0
    · obtain rfl := Array.eq_empty_of_size_eq_zero empty
      rfl
    · simp only [pushRow, Builder.push, if_neg empty, if_pos (show rows.size ≠ 0 from empty)]
  | some parent =>
    by_cases present : parent < rows.size
    · simp only [pushRow, Builder.push, dif_pos present, if_neg (Nat.not_le.2 present)]
    · simp only [pushRow, Builder.push, dif_neg present, if_pos (Nat.le_of_not_lt present)]

/-- A push to a builder does to its rows what it does to them in place: nothing if it is refused,
and if it is accepted one row more at the end. -/
theorem push_cases (builder : Builder) (parent : Option Nat) (label : String)
    (token : Option String) :
    (¬ Fits builder.entries parent ∧ ∃ fault,
      builder.push parent label token = .error fault ∧
      pushRow parent label token builder.entries = (.error fault, builder.entries)) ∨
    (Fits builder.entries parent ∧ ∃ next,
      builder.push parent label token = .ok (builder.entries.size, next) ∧
      pushRow parent label token builder.entries = (.ok builder.entries.size, next.entries) ∧
      next.entries.size = builder.entries.size + 1 ∧
      next.entries[builder.entries.size]? = some ⟨label, token, parent, []⟩) := by
  have same := @pushRow_entries parent label token builder
  by_cases fits : Fits builder.entries parent
  · obtain ⟨rows, done, size, last⟩ := @pushRow_of_fits _ _ label token fits
    refine .inr ⟨fits, ?_⟩
    cases pushed : builder.push parent label token with
    | error fault =>
      rw [pushed, done] at same
      cases same
    | ok answer =>
      obtain ⟨place, next⟩ := answer
      rw [pushed, done] at same
      obtain ⟨here, rfl⟩ := Prod.mk.inj same
      obtain rfl := Except.ok.inj here
      exact ⟨next, rfl, done, size, last⟩
  · obtain ⟨fault, refused⟩ := @pushRow_of_not_fits _ _ label token fits
    refine .inl ⟨fits, fault, ?_, refused⟩
    cases pushed : builder.push parent label token with
    | error other =>
      rw [pushed, refused] at same
      rw [Except.error.inj (Prod.mk.inj same).1]
    | ok answer =>
      rw [pushed, refused] at same
      cases same

end Push

/-- After a call the links agree if they did before it. -/
theorem Linked.apply {rows : Array Entry} (linked : Linked rows) (call : Call) :
    Linked (call.apply rows) := by
  cases call with
  | push parent label token =>
    cases parent with
    | none =>
      show Linked (pushRow none label token rows).2
      by_cases empty : rows.size = 0
      · obtain rfl := Array.eq_empty_of_size_eq_zero empty
        exact .root label token
      · rw [pushRow, if_pos empty]
        exact linked
    | some parent =>
      show Linked (pushRow (some parent) label token rows).2
      by_cases present : parent < rows.size
      · rw [pushRow, if_neg (Nat.not_le.2 present)]
        exact linked.push present label token
      · rw [pushRow, if_pos (Nat.le_of_not_lt present)]
        exact linked
  | setToken place token => exact linked.withToken place token

theorem entries_apply (builder : Builder) (call : Call) :
    (builder.apply call).entries = call.apply builder.entries := by
  cases call with
  | push parent label token =>
    rw [Call.apply, pushRow_entries, Builder.apply]
    cases builder.push parent label token <;> rfl
  | setToken place token => rfl

/-! ## All calls -/

/-- Whatever the calls, the links agree. -/
theorem linked_rowsAfter (calls : List Call) : Linked (rowsAfter calls) :=
  List.foldlRecOn calls Call.apply .empty fun _ linked call _ => linked.apply call

theorem entries_after (calls : List Call) : (Builder.after calls).entries = rowsAfter calls :=
  (List.foldl_hom Builder.entries fun builder call => (entries_apply builder call).symm).symm

theorem entries_of_finish {builder : Builder} {tree : Tree} (h : builder.finish = .ok tree) :
    tree.entries = builder.entries := by
  unfold Builder.finish at h
  split at h
  · split at h
    · cases h
    · obtain rfl := Except.ok.inj h
      rfl
  · cases h

/-- Whatever the calls on an empty table, a push that does not fit changes nothing, one that fits
adds its row, and the links agree. If the table is then finished, every walk in its tree is in
order, and the one from the root meets every node. -/
theorem linked_and_inOrder (calls : List Call) :
    (Builder.after calls).entries = rowsAfter calls ∧
    (∀ parent label token,
      (¬ Fits (rowsAfter calls) parent ∧ ∃ fault,
        (Builder.after calls).push parent label token = .error fault ∧
        pushRow parent label token (rowsAfter calls) = (.error fault, rowsAfter calls)) ∨
      (Fits (rowsAfter calls) parent ∧ ∃ next,
        (Builder.after calls).push parent label token = .ok ((rowsAfter calls).size, next) ∧
        pushRow parent label token (rowsAfter calls) = (.ok (rowsAfter calls).size, next.entries) ∧
        next.entries.size = (rowsAfter calls).size + 1 ∧
        next.entries[(rowsAfter calls).size]? = some ⟨label, token, parent, []⟩)) ∧
    Linked (rowsAfter calls) ∧
    ∀ tree, (Builder.after calls).finish = .ok tree →
      tree.entries = rowsAfter calls ∧ (∀ node : Node tree, node.InOrder) ∧
        tree.root.size = tree.size := by
  have entries := entries_after calls
  refine ⟨entries, fun parent label token => ?_, linked_rowsAfter calls, fun tree finished => ?_⟩
  · rw [← entries]
    exact push_cases (Builder.after calls) parent label token
  · exact ⟨(entries_of_finish finished).trans entries, Node.inOrder, Node.size_root tree⟩

/-- Two methods' names, pushed after both methods, with pushes between them that are refused. -/
def scatteredCalls : List Call :=
  [.push (some 0) "block" none, .push none "unit" none, .push (some 0) "function" none,
    .push (some 0) "function" none, .push (some 3) "block" none, .push (some 2) "name" (some "g"),
    .push none "unit" none, .push (some 1) "name" none, .setToken 4 "f", .setToken 9 "h"]

theorem inOrder_of_scatteredCalls :
    ∃ tree, (Builder.after scatteredCalls).finish = .ok tree ∧
      (∀ node : Node tree, node.InOrder) ∧ tree.root.size = 5 := by
  have finished : (Builder.after scatteredCalls).finish.toOption.isSome = true := by decide
  obtain ⟨-, -, -, walks⟩ := linked_and_inOrder scatteredCalls
  cases made : (Builder.after scatteredCalls).finish with
  | error fault =>
    rw [made] at finished
    cases finished
  | ok tree =>
    obtain ⟨entries, inOrder, size⟩ := walks tree made
    refine ⟨tree, rfl, inOrder, size.trans ?_⟩
    rw [Tree.size, entries]
    decide

end MethodCorpus.Tree
