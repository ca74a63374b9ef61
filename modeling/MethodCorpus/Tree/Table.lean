import MethodCorpus.Error

/-!
# Node tables

A parse tree is kept as a table of nodes in the order in which they were made. Every node knows its
parent and its children by their places in the table, so going up is as cheap as going down. A
table is built row by row: a new row names its parent, which must be there already. That alone makes
the links agree (`Linked`): each node but the first has one parent, with a smaller place, and is
listed among that parent's children exactly once.

A finished table is a `Tree`: it has a root, and exactly the leaves carry a token.

* `Builder.push`, `Builder.setToken`: the two ways to change a table, both of which keep the links.
* `Builder.finish`: the check, which reports the first row that breaks the token rule.
-/

namespace MethodCorpus.Tree

/-- One row of a node table. -/
structure Entry where
  label : String
  token : Option String
  /-- The place of the parent; none for the root. -/
  parent : Option Nat
  /-- The places of the children, in source order. -/
  children : List Nat
  deriving DecidableEq

namespace Entry

/-- A row with one more child at the end. -/
def adopt (entry : Entry) (child : Nat) : Entry :=
  { entry with children := entry.children ++ [child] }

/-- A row with a token in place of the one it had. -/
def withToken (entry : Entry) (token : String) : Entry :=
  { entry with token := some token }

end Entry

/-- The links of a table agree: one root at the front, parents before their children, and a child
list that holds exactly the rows that name its owner as their parent, in the order of the table. -/
structure Linked (entries : Array Entry) : Prop where
  parent_eq_none_iff : ∀ {i : Nat} {e : Entry}, entries[i]? = some e → (e.parent = none ↔ i = 0)
  parent_lt : ∀ {i : Nat} {e : Entry} {p : Nat}, entries[i]? = some e → e.parent = some p → p < i
  mem_children_iff : ∀ {p : Nat} {e : Entry} {c : Nat}, entries[p]? = some e →
    (c ∈ e.children ↔ ∃ d : Entry, entries[c]? = some d ∧ d.parent = some p)
  children_sorted : ∀ {p : Nat} {e : Entry}, entries[p]? = some e → e.children.Pairwise (· < ·)

namespace Linked

/-- A table without rows has no links that could disagree. -/
theorem empty : Linked #[] where
  parent_eq_none_iff h := by simp at h
  parent_lt h := by simp at h
  mem_children_iff h := by simp at h
  children_sorted h := by simp at h

/-- A first row without a parent. -/
theorem root (label : String) (token : Option String) : Linked #[⟨label, token, none, []⟩] := by
  have only : ∀ {i : Nat} {e : Entry}, #[(⟨label, token, none, []⟩ : Entry)][i]? = some e →
      i = 0 ∧ e = ⟨label, token, none, []⟩ := by
    intro i e h
    cases i with
    | zero => exact ⟨rfl, by simpa using h.symm⟩
    | succ i => simp at h
  refine ⟨fun h => ?_, fun h hp => ?_, fun {p e c} h => ?_, fun h => ?_⟩
  · obtain ⟨rfl, rfl⟩ := only h
    simp
  · obtain ⟨rfl, rfl⟩ := only h
    simp at hp
  · obtain ⟨rfl, rfl⟩ := only h
    refine ⟨fun hc => by simp at hc, ?_⟩
    rintro ⟨d, hd, hparent⟩
    obtain ⟨rfl, rfl⟩ := only hd
    simp at hparent
  · obtain ⟨rfl, rfl⟩ := only h
    exact List.Pairwise.nil

/-- A change of tokens alone keeps the links. -/
theorem withToken {entries : Array Entry} (linked : Linked entries) (place : Nat) (token : String) :
    Linked (entries.modify place (·.withToken token)) := by
  have old : ∀ {i : Nat} {e : Entry}, (entries.modify place (·.withToken token))[i]? = some e →
      ∃ e' : Entry, entries[i]? = some e' ∧ e.parent = e'.parent ∧ e.children = e'.children := by
    intro i e h
    rw [Array.getElem?_modify] at h
    split at h
    · obtain ⟨e', he', rfl⟩ := Option.map_eq_some_iff.1 h
      exact ⟨e', he', rfl, rfl⟩
    · exact ⟨e, h, rfl, rfl⟩
  have new : ∀ {i : Nat} {e : Entry}, entries[i]? = some e →
      ∃ e', (entries.modify place (·.withToken token))[i]? = some e' ∧ e'.parent = e.parent := by
    intro i e h
    rw [Array.getElem?_modify]
    split
    · exact ⟨e.withToken token, by rw [h]; rfl, rfl⟩
    · exact ⟨e, h, rfl⟩
  refine ⟨fun h => ?_, fun h hp => ?_, fun {p e c} h => ?_, fun h => ?_⟩
  · obtain ⟨e', he', hparent, -⟩ := old h
    rw [hparent]
    exact linked.parent_eq_none_iff he'
  · obtain ⟨e', he', hparent, -⟩ := old h
    exact linked.parent_lt he' (hparent ▸ hp)
  · obtain ⟨e', he', -, hchildren⟩ := old h
    rw [hchildren, linked.mem_children_iff he']
    constructor
    · rintro ⟨d, hd, hparent⟩
      obtain ⟨d', hd', hsame⟩ := new hd
      exact ⟨d', hd', hsame.trans hparent⟩
    · rintro ⟨d, hd, hparent⟩
      obtain ⟨d', hd', hsame, -⟩ := old hd
      exact ⟨d', hd', hsame ▸ hparent⟩
  · obtain ⟨e', he', -, hchildren⟩ := old h
    exact hchildren ▸ linked.children_sorted he'

/-- A new row at the end, under a row that is there already. -/
theorem push {entries : Array Entry} (linked : Linked entries) {parent : Nat}
    (present : parent < entries.size) (label : String) (token : Option String) :
    Linked ((entries.modify parent (·.adopt entries.size)).push ⟨label, token, some parent, []⟩) := by
  have positive : entries.size ≠ 0 := Nat.ne_zero_of_lt present
  have cases_row : ∀ {i : Nat} {e : Entry},
      ((entries.modify parent (·.adopt entries.size)).push
        ⟨label, token, some parent, []⟩)[i]? = some e →
      (i = entries.size ∧ e = ⟨label, token, some parent, []⟩) ∨
      (i < entries.size ∧ ∃ e' : Entry, entries[i]? = some e' ∧ e.parent = e'.parent ∧
        e.children = if parent = i then e'.children ++ [entries.size] else e'.children) := by
    intro i e h
    rw [Array.getElem?_push, Array.size_modify] at h
    split at h
    · next hi => exact .inl ⟨hi, by simpa using h.symm⟩
    · rw [Array.getElem?_modify] at h
      split at h
      · next hp =>
        obtain ⟨e', he', rfl⟩ := Option.map_eq_some_iff.1 h
        exact .inr ⟨(Array.getElem?_eq_some_iff.1 he').1, e', he', rfl, by simp [hp, Entry.adopt]⟩
      · next hp =>
        exact .inr ⟨(Array.getElem?_eq_some_iff.1 h).1, e, h, rfl, by simp [hp]⟩
  have new : ∀ {i : Nat} {e : Entry}, entries[i]? = some e →
      ∃ e', ((entries.modify parent (·.adopt entries.size)).push
        ⟨label, token, some parent, []⟩)[i]? = some e' ∧ e'.parent = e.parent := by
    intro i e h
    have hi : i ≠ entries.size := Nat.ne_of_lt (Array.getElem?_eq_some_iff.1 h).1
    rw [Array.getElem?_push, Array.size_modify, if_neg hi, Array.getElem?_modify]
    split
    · exact ⟨e.adopt entries.size, by rw [h]; rfl, rfl⟩
    · exact ⟨e, h, rfl⟩
  have last : ((entries.modify parent (·.adopt entries.size)).push
      ⟨label, token, some parent, []⟩)[entries.size]? = some ⟨label, token, some parent, []⟩ := by
    rw [Array.getElem?_push, Array.size_modify, if_pos rfl]
  have children_lt : ∀ {p : Nat} {e : Entry} {c : Nat}, entries[p]? = some e → c ∈ e.children → c < entries.size := by
    intro p e c h hc
    obtain ⟨d, hd, -⟩ := (linked.mem_children_iff h).1 hc
    exact (Array.getElem?_eq_some_iff.1 hd).1
  refine ⟨fun {i e} h => ?_, fun {i e p} h hp => ?_, fun {p e c} h => ?_, fun {p e} h => ?_⟩
  · rcases cases_row h with ⟨rfl, rfl⟩ | ⟨-, e', he', hparent, -⟩
    · simp [positive]
    · rw [hparent]
      exact linked.parent_eq_none_iff he'
  · rcases cases_row h with ⟨rfl, rfl⟩ | ⟨-, e', he', hparent, -⟩
    · simp only [Option.some.injEq] at hp
      exact hp ▸ present
    · exact linked.parent_lt he' (hparent ▸ hp)
  · have back : (∃ d, entries[c]? = some d ∧ d.parent = some p) →
        ∃ d, ((entries.modify parent (·.adopt entries.size)).push
          ⟨label, token, some parent, []⟩)[c]? = some d ∧ d.parent = some p := by
      rintro ⟨d, hd, hparent⟩
      obtain ⟨d', hd', hsame⟩ := new hd
      exact ⟨d', hd', hsame.trans hparent⟩
    have forth : (∃ d, ((entries.modify parent (·.adopt entries.size)).push
          ⟨label, token, some parent, []⟩)[c]? = some d ∧ d.parent = some p) →
        (c = entries.size ∧ parent = p) ∨ ∃ d, entries[c]? = some d ∧ d.parent = some p := by
      rintro ⟨d, hd, hparent⟩
      rcases cases_row hd with ⟨rfl, rfl⟩ | ⟨-, d', hd', hsame, -⟩
      · exact .inl ⟨rfl, by simpa using hparent⟩
      · exact .inr ⟨d', hd', hsame ▸ hparent⟩
    rcases cases_row h with ⟨rfl, rfl⟩ | ⟨-, e', he', -, hchildren⟩
    · refine ⟨fun hc => by simp at hc, fun hd => ?_⟩
      rcases forth hd with ⟨-, rfl⟩ | ⟨d, hd', hparent⟩
      · exact absurd present (Nat.lt_irrefl _)
      · exact absurd (Nat.lt_trans (linked.parent_lt hd' hparent)
          (Array.getElem?_eq_some_iff.1 hd').1) (Nat.lt_irrefl _)
    · rw [hchildren]
      split
      · next same =>
        subst same
        rw [List.mem_append, List.mem_singleton, linked.mem_children_iff he']
        constructor
        · rintro (hd | rfl)
          · exact back hd
          · exact ⟨_, last, rfl⟩
        · intro hd
          rcases forth hd with ⟨rfl, -⟩ | hd'
          · exact .inr rfl
          · exact .inl hd'
      · next differ =>
        rw [linked.mem_children_iff he']
        exact ⟨back, fun hd => (forth hd).resolve_left fun both => differ both.2⟩
  · rcases cases_row h with ⟨rfl, rfl⟩ | ⟨-, e', he', -, hchildren⟩
    · exact List.Pairwise.nil
    · rw [hchildren]
      split
      · rw [List.pairwise_append]
        refine ⟨linked.children_sorted he', List.pairwise_singleton _ _, fun c hc d hd => ?_⟩
        rw [List.mem_singleton] at hd
        exact hd ▸ children_lt he' hc
      · exact linked.children_sorted he'

end Linked

/-- Why a table is no tree, or a row does not fit into it. -/
inductive Fault where
  /-- A second row without a parent. -/
  | secondRoot (label : String)
  /-- A row under a parent that is not there. -/
  | noSuchParent (parent : Nat) (label : String)
  /-- A table without rows. -/
  | noNodes
  /-- A leaf that carries no token. -/
  | bareLeaf (label : String)
  /-- An inner node that carries a token. -/
  | innerToken (label : String)
  deriving DecidableEq

namespace Fault

/-- What the fault is. -/
def message : Fault → String
  | secondRoot _ => "tree already has a root"
  | noSuchParent parent _ => s!"parent index {parent} does not exist"
  | noNodes => "tree has no nodes"
  | bareLeaf _ => "leaf without a token"
  | innerToken _ => "inner node carries a token"

/-- The label of the row at fault. -/
def label : Fault → String
  | secondRoot label | noSuchParent _ label | bareLeaf label | innerToken label => label
  | noNodes => ""

/-- The fault as an error. -/
def error (fault : Fault) : Error :=
  .malformedTree fault.message fault.label

end Fault

/-- A table under construction. -/
structure Builder where
  entries : Array Entry
  linked : Linked entries

namespace Builder

/-- The table without rows. -/
def empty : Builder := ⟨#[], .empty⟩

instance : Inhabited Builder := ⟨empty⟩

/-- Adds a row and returns its place. Only the first row may lack a parent, and a parent must be
there already. -/
def push (builder : Builder) (parent : Option Nat) (label : String) (token : Option String) :
    Except Fault (Nat × Builder) :=
  match parent with
  | none =>
    if builder.entries.size = 0 then
      .ok (0, ⟨#[⟨label, token, none, []⟩], .root label token⟩)
    else
      .error (.secondRoot label)
  | some p =>
    if present : p < builder.entries.size then
      let place := builder.entries.size
      .ok (place, ⟨(builder.entries.modify p (·.adopt place)).push ⟨label, token, some p, []⟩,
        builder.linked.push present label token⟩)
    else
      .error (.noSuchParent p label)

/-- Gives the row at a place a token, in place of the one it may have; a place beyond the table is
passed over. -/
def setToken (builder : Builder) (place : Nat) (token : String) : Builder :=
  ⟨builder.entries.modify place (·.withToken token), builder.linked.withToken place token⟩

/-- Whether the row at a place has children; a place beyond the table has none. -/
def hasChildren (builder : Builder) (place : Nat) : Bool :=
  match builder.entries[place]? with
  | some entry => !entry.children.isEmpty
  | none => false

end Builder

/-- The fault of a row that breaks the rule that exactly the leaves carry a token. -/
def Entry.fault? (entry : Entry) : Option Fault :=
  match entry.children, entry.token with
  | [], none => some (.bareLeaf entry.label)
  | _ :: _, some _ => some (.innerToken entry.label)
  | _, _ => none

/-- A row without a fault is a leaf exactly if it carries a token. -/
theorem Entry.isSome_token_of_fault?_eq_none {entry : Entry} (sound : entry.fault? = none) :
    entry.token.isSome = true ↔ entry.children = [] := by
  obtain ⟨label, token, parent, children⟩ := entry
  cases children <;> cases token <;> simp_all [Entry.fault?]

end Tree

/-- A finished parse tree: a linked table with a root, in which exactly the leaves carry a token. -/
structure Tree where
  entries : Array Tree.Entry
  linked : Tree.Linked entries
  size_pos : 0 < entries.size
  isSome_token_iff : ∀ {i : Nat} {e : Tree.Entry},
    entries[i]? = some e → (e.token.isSome = true ↔ e.children = [])

namespace Tree

/-- The finished tree, or the fault of the first row that breaks the token rule. -/
def Builder.finish (builder : Builder) : Except Fault Tree :=
  if positive : 0 < builder.entries.size then
    match sound : builder.entries.toList.findSome? Entry.fault? with
    | some fault => .error fault
    | none =>
      .ok ⟨builder.entries, builder.linked, positive, fun {i e} h => by
        have mem : e ∈ builder.entries.toList := by
          rw [Array.mem_toList_iff]
          exact Array.mem_of_getElem? h
        exact Entry.isSome_token_of_fault?_eq_none (List.findSome?_eq_none_iff.1 sound e mem)⟩
  else
    .error .noNodes

/-- The number of nodes. -/
def size (tree : Tree) : Nat := tree.entries.size

end Tree

end MethodCorpus
