import Mathlib.Data.List.ReduceOption
import MethodCorpus.Proofs.Signature.Parameters
import MethodCorpus.Signature.Collecting

/-!
# Reading a function fails as a whole or not at all

A function is read entry by entry, and each entry that is left out is noted right away. Still a
reading that fails leaves no notes: the type is looked for before anything else, and once it is
there no later step can fail. So reading on the way comes to the same as putting the signature
together from whole lists.

* `Collecting.outcome_bind`: two steps in a row;
* `collectTexts_eq`, `collectParameters_eq`, `collect_eq`: what each step gives and notes;
* `Untyped`, `declaredType_cases`: when there is no type;
* `rendered_ne_empty`, `hasTexts_of_read`: what is read of a function is never empty;
* `collect_exact_and_atomic`: when reading fails, and what it leaves in the list.
-/

namespace MethodCorpus

namespace Signature.Srcml

open MethodCorpus.Tree

variable {tree : Tree} {α β : Type} {diagnostics : List Diagnostic}

/-! ## Steps -/

namespace Collecting

@[simp] theorem outcome_pure (value : α) :
    outcome (pure value) diagnostics = (.ok value, diagnostics) := rfl

@[simp] theorem outcome_throw (error : Error) :
    outcome (throw error : Collecting α) diagnostics = (.error error, diagnostics) := rfl

@[simp] theorem outcome_lift (result : Except Error α) :
    outcome (ExceptT.mk (pure result)) diagnostics = (result, diagnostics) := rfl

@[simp] theorem outcome_addNote (note : Diagnostic) :
    outcome (addNote note) diagnostics = (.ok (), diagnostics ++ [note]) := rfl

/-- A step that fails ends the reading, and the list stays as the step left it. -/
theorem outcome_bind (step : Collecting α) (next : α → Collecting β) :
    outcome (step >>= next) diagnostics = match outcome step diagnostics with
      | (.ok value, after) => outcome (next value) after
      | (.error error, after) => (.error error, after) := by
  show (ExceptT.bindCont next (outcome step diagnostics).1).run (outcome step diagnostics).2 = _
  rcases outcome step diagnostics with ⟨error | value, after⟩ <;> rfl

end Collecting

open Collecting

/-- The texts that are there are kept, and there is a note for each one that is not. -/
theorem collectTexts_eq (note : Diagnostic) (text? : Node tree → Option String)
    (nodes : List (Node tree)) (diagnostics : List Diagnostic) :
    (collectTexts note text? nodes).outcome diagnostics =
      (.ok (nodes.map text?).reduceOption, diagnostics ++ notesOn note (nodes.map text?)) := by
  induction nodes generalizing diagnostics with
  | nil => simp [collectTexts, notesOn, List.reduceOption]
  | cons node rest ih =>
    rw [collectTexts]
    cases found : text? node with
    | some text =>
      simp only [outcome_bind, ih, outcome_pure, List.map_cons, found, List.reduceOption_cons_of_some,
        notesOn, List.countP_cons, Option.isNone_some, Bool.false_eq_true, if_false, Nat.add_zero]
    | none =>
      simp only [outcome_bind, ih, outcome_addNote, List.map_cons, found,
        List.reduceOption_cons_of_none, notesOn, List.countP_cons, Option.isNone_none, if_true,
        List.replicate_succ, List.append_assoc, List.singleton_append]

theorem collectModifiers_eq {function : Node tree} {returnType : String}
    (typed : declaredType function = .ok returnType) (note : Diagnostic) :
    (collectModifiers note function).outcome diagnostics =
      (.ok (modifierTexts function).reduceOption,
        diagnostics ++ notesOn note (modifierTexts function)) := by
  rw [collectModifiers, modifierTexts]
  cases found : function.child? SrcmlElement.type with
  | none =>
    rw [declaredType, found] at typed
    cases typed
  | some type => exact collectTexts_eq ..

theorem collectAnnotations_eq (function : Node tree) (note : Diagnostic) :
    (collectAnnotations note function).outcome diagnostics =
      (.ok (annotationNames function).reduceOption,
        diagnostics ++ notesOn note (annotationNames function)) :=
  collectTexts_eq ..

/-- Nodes that are no slots are passed over, and the slots are read all or nothing. -/
theorem collectParameters_eq (note : Error → Diagnostic) (function : Node tree)
    (nodes : List (Node tree)) :
    (collectParameters note function nodes).outcome diagnostics =
      match (nodes.filter fun node => node.kind? SrcmlElement = some .parameter &&
          owner? node = some function).mapM parameter with
      | .ok list => (.ok (some list), diagnostics)
      | .error error => (.ok none, diagnostics ++ [note error]) := by
  induction nodes with
  | nil => rfl
  | cons node rest ih =>
    rw [collectParameters, List.filter_cons]
    split
    · cases read : parameter node with
      | error error => simp only [mapM_cons_of_error read, outcome_bind, outcome_addNote, outcome_pure]
      | ok first =>
        rw [mapM_cons_of_ok read, outcome_bind, ih]
        cases (rest.filter fun node => node.kind? SrcmlElement = some .parameter &&
          owner? node = some function).mapM parameter <;> rfl
    · exact ih

/-- Reading a function entry by entry gives what is put together from whole lists, and adds the same
notes. -/
theorem collect_eq (function : Node tree) (filePath : String) (diagnostics : List Diagnostic) :
    (collect function filePath).outcome diagnostics =
      ((read function filePath).result, diagnostics ++ (read function filePath).notes) := by
  simp only [collect, outcome_bind, outcome_lift]
  cases typed : declaredType function with
  | error error => simp only [read_of_error typed, List.append_nil]
  | ok returnType =>
    simp only [collectModifiers_eq typed, collectParameters_eq, read_of_ok typed, listNotes]
    rw [← slots, ← parameters]
    cases parameters function with
    | ok list =>
      simp only [collectAnnotations_eq, outcome_pure, List.append_nil, List.append_assoc]
      rfl
    | error error =>
      simp only [collectAnnotations_eq, outcome_pure, List.append_assoc]
      rfl

/-! ## Without a type -/

/-- What a node lacks that has no type: the type itself, the name below it, or some of its text. An
index stands for its own text, whatever is below it. Where there are several nodes of a label, the
first one counts. -/
inductive Untyped (node : Node tree) : Prop
  | type : node.child? SrcmlElement.type = none → Untyped node
  | name {type : Node tree} : node.child? SrcmlElement.type = some type →
      type.child? SrcmlElement.name = none → Untyped node
  | text {type name leaf : Node tree} : node.child? SrcmlElement.type = some type →
      type.child? SrcmlElement.name = some name → leaf ∈ name.preOrder → leaf.token? = some "" →
      leaf.hasLastLabel SrcmlElement.index = false →
      (∀ above ∈ leaf.ancestors, above ∈ name.preOrder →
        above.hasLastLabel SrcmlElement.index = false) → Untyped node

/-- A name is without text exactly if some empty leaf is not an index and not below one. -/
theorem not_hasText_iff {name : Node tree} :
    ¬ HasText name ↔ ∃ leaf ∈ name.preOrder, leaf.token? = some "" ∧
      leaf.hasLastLabel SrcmlElement.index = false ∧
      ∀ above ∈ leaf.ancestors, above ∈ name.preOrder →
        above.hasLastLabel SrcmlElement.index = false := by
  simp only [HasText, not_forall, not_exists, not_and, exists_prop]
  refine exists_congr fun leaf => and_congr_right fun inside => and_congr_right fun _ => ?_
  constructor
  · intro outside
    have plain : ∀ index ∈ name.preOrder, leaf ∈ index.preOrder →
        index.hasLastLabel SrcmlElement.index = false := fun index mem below =>
      Bool.eq_false_iff.2 fun isIndex => outside index mem isIndex below
    exact ⟨plain leaf inside leaf.self_mem_preOrder,
      fun above upper mem => plain above mem (Node.mem_preOrder_iff.2 (.inr upper))⟩
  · rintro ⟨own, plain⟩ index mem isIndex below
    rcases Node.mem_preOrder_iff.1 below with rfl | upper
    · rw [own] at isIndex
      cases isIndex
    · rw [plain index upper mem] at isIndex
      cases isIndex

/-- A node has a type with text, or it has none and is refused for it. -/
theorem declaredType_cases (node : Node tree) :
    (∃ type name, node.child? SrcmlElement.type = some type ∧
        type.child? SrcmlElement.name = some name ∧ HasText name ∧
        declaredType node = .ok name.toRaw.rendered ∧ ¬ Untyped node) ∨
      ∃ message, declaredType node = .error (.missingTypeToken message) ∧ Untyped node := by
  rw [declaredType]
  cases typed : node.child? SrcmlElement.type with
  | none => exact .inr ⟨_, rfl, .type typed⟩
  | some type =>
    rw [Option.bind_some]
    cases named : type.child? SrcmlElement.name with
    | none => exact .inr ⟨_, rfl, .name typed named⟩
    | some name =>
      rcases typeText_cases name with ⟨full, ok⟩ | ⟨bare, leaf, -, -, failed⟩
      · refine .inl ⟨type, name, rfl, named, full, ok, fun untyped => ?_⟩
        cases untyped with
        | type none =>
          rw [typed] at none
          cases none
        | name typed' none =>
          obtain rfl := Option.some.inj (typed.symm.trans typed')
          rw [named] at none
          cases none
        | text typed' named' inside empty own plain =>
          obtain rfl := Option.some.inj (typed.symm.trans typed')
          obtain rfl := Option.some.inj (named.symm.trans named')
          exact not_hasText_iff.2 ⟨_, inside, empty, own, plain⟩ full
      · obtain ⟨leaf, inside, empty, own, plain⟩ := not_hasText_iff.1 bare
        exact .inr ⟨_, failed, .text typed named inside empty own plain⟩

/-! ## Texts -/

/-- A type with text is not rendered as nothing: an inner node has a child, and so there is a leaf or
an index below it. -/
theorem rendered_ne_empty {name : Node tree} (full : HasText name) :
    name.toRaw.rendered ≠ "" := by
  induction name using Node.childInduction with
  | step name ih =>
    rw [RawTree.rendered_eq, Node.toRaw_hasLastLabel, ← Node.token?_eq, Node.toRaw_children]
    rcases hasText_iff.1 full with index | ⟨own, below⟩
    · rw [if_pos index]
      decide
    split
    · decide
    cases found : name.token? with
    | some token =>
      rw [found] at own
      have said : token ≠ "" := fun empty => own (congrArg some empty)
      simp [said]
    | none =>
      have inner : name.children ≠ [] := by
        rw [Ne, ← Node.isLeaf_iff, ← Node.isSome_token?_iff, found]
        exact Bool.false_ne_true
      obtain ⟨child, rest, children⟩ := List.exists_cons_of_ne_nil inner
      have mem : child ∈ name.children := by rw [children]; exact List.mem_cons_self
      simp [children, String.join_cons, ih child mem (below child mem)]

theorem nonempty?_ne {text : Option String} : nonempty? text ≠ some "" := by
  simp [nonempty?, Option.filter_eq_some_iff]

theorem empty_notMem_modifierTexts (function : Node tree) :
    "" ∉ (modifierTexts function).reduceOption := by
  rw [List.reduceOption_mem_iff, modifierTexts]
  cases function.child? SrcmlElement.type with
  | none => exact List.not_mem_nil
  | some type =>
    intro mem
    obtain ⟨keyword, -, kept⟩ := List.mem_map.1 mem
    exact nonempty?_ne kept

theorem empty_notMem_annotationNames (function : Node tree) :
    "" ∉ (annotationNames function).reduceOption := by
  rw [List.reduceOption_mem_iff, annotationNames]
  intro mem
  obtain ⟨mark, -, kept⟩ := List.mem_map.1 mem
  exact nonempty?_ne kept

end Signature.Srcml

/-- Whether whatever was read of a method as a text is not empty. -/
structure Signature.HasTexts {tree : Tree} (signature : Signature tree) : Prop where
  returnType : ∃ type, signature.returnType = some type ∧ type ≠ ""
  parameters : ∀ list, signature.parameters = some list → ∀ parameter ∈ list,
    ∃ type, parameter.type = some type ∧ type ≠ ""
  modifiers : ∃ list, signature.modifiers = some list ∧ "" ∉ list
  annotations : ∃ list, signature.annotations = some list ∧ "" ∉ list

namespace Signature.Srcml

open MethodCorpus.Tree

variable {tree : Tree}

/-- Whatever is read of a function as a text is not empty. -/
theorem hasTexts_of_read {function : Node tree} {filePath : String} {signature : Signature tree}
    (h : (read function filePath).result = .ok signature) : signature.HasTexts := by
  rcases declaredType_cases function with ⟨type, name, -, -, full, typed, -⟩ | ⟨message, failed, -⟩
  · rw [read_of_ok typed] at h
    obtain rfl := Except.ok.inj h
    refine ⟨⟨_, rfl, rendered_ne_empty full⟩, fun list listed entry mem => ?_,
      ⟨_, rfl, empty_notMem_modifierTexts function⟩,
      ⟨_, rfl, empty_notMem_annotationNames function⟩⟩
    obtain ⟨slot, -, read⟩ := exists_of_mem_values (toOption_eq_some_iff.1 listed) mem
    obtain ⟨decl, entryName, type', name', -, -, -, -, -, full', typed'⟩ :=
      declares_of_parameter read
    exact ⟨_, typed', rendered_ne_empty full'⟩
  · rw [read_of_error failed] at h
    cases h

/-- Reading a function after any diagnostics fails exactly if it has no type. It fails for that
reason only, and then the list is as it was; else what is noted stands behind it, and whatever was
read as a text is not empty. It comes to the same as putting the signature together from whole
lists. -/
theorem collect_exact_and_atomic (tree : Tree) (node : Node tree) (filePath : String)
    (diagnostics : List Diagnostic) :
    ((∃ message, Untyped node ∧
        (collect node filePath).outcome diagnostics =
          (.error (.missingTypeToken message), diagnostics)) ∨
      ∃ signature notes, ¬ Untyped node ∧
        (collect node filePath).outcome diagnostics = (.ok signature, diagnostics ++ notes) ∧
        signature.HasTexts) ∧
    (collect node filePath).outcome diagnostics =
      ((read node filePath).result, diagnostics ++ (read node filePath).notes) := by
  refine ⟨?_, collect_eq node filePath diagnostics⟩
  rw [collect_eq]
  rcases declaredType_cases node with ⟨type, name, -, -, -, typed, not⟩ | ⟨message, failed, untyped⟩
  · obtain ⟨signature, result⟩ : ∃ signature, (read node filePath).result = .ok signature := by
      rw [read_of_ok typed]
      exact ⟨_, rfl⟩
    exact .inr ⟨signature, _, not, Prod.ext result rfl, hasTexts_of_read result⟩
  · rw [read_of_error failed, List.append_nil]
    exact .inl ⟨message, untyped, rfl⟩

end Signature.Srcml

end MethodCorpus
