import MethodCorpus.Proofs.Signature.Reading

/-!
# Parameter lists

A parameter list is read all or nothing. It is there exactly if each slot of the function declares a
parameter, and then it tells what they declare, in source order; else the first slot that does not
is reported.

* `Resolved`, `Declares`: what a slot has to look like, and the parameter it then declares;
* `Refusal`: what a slot lacks, and the error that says so;
* `parameter_cases`: a slot declares a parameter or is refused;
* `declares_of_parameters`, `refusal_of_parameters`: a list that is there, and one that is not.
-/

namespace MethodCorpus.Signature.Srcml

open MethodCorpus.Tree

variable {tree : Tree}

/-! ## One slot -/

/-- Whether the declaration in a slot has a name that is a leaf and a type with text. Where there
are several nodes of a label, the first one counts. -/
def Resolved (slot : Node tree) : Prop :=
  ∃ decl name type typeName, slot.child? SrcmlElement.decl = some decl ∧
    decl.child? SrcmlElement.name = some name ∧ name.isLeaf = true ∧
    decl.child? SrcmlElement.type = some type ∧ type.child? SrcmlElement.name = some typeName ∧
    HasText typeName

/-- Whether a parameter has the name and the type that are declared in a slot. -/
def Declares (slot : Node tree) (parameter : Parameter) : Prop :=
  ∃ decl name type typeName, slot.child? SrcmlElement.decl = some decl ∧
    decl.child? SrcmlElement.name = some name ∧ name.token? = some parameter.name ∧
    decl.child? SrcmlElement.type = some type ∧ type.child? SrcmlElement.name = some typeName ∧
    HasText typeName ∧ parameter.type = some typeName.toRaw.rendered

/-- What a slot lacks that declares no parameter. -/
inductive Refusal (slot : Node tree) : Error → Prop
  | declaration : slot.child? SrcmlElement.decl = none →
      Refusal slot (.missingNode SrcmlElement.decl.text slot.label)
  | name {decl : Node tree} : slot.child? SrcmlElement.decl = some decl →
      (∀ name, decl.child? SrcmlElement.name = some name → name.isLeaf = false) →
      Refusal slot (.missingParameterName slot.label)
  | type {decl : Node tree} : slot.child? SrcmlElement.decl = some decl →
      (∀ type, decl.child? SrcmlElement.type = some type → type.child? SrcmlElement.name = none) →
      Refusal slot (.missingTypeToken s!"no type found under '{decl.label}'")
  | text {decl type typeName leaf : Node tree} : slot.child? SrcmlElement.decl = some decl →
      decl.child? SrcmlElement.type = some type → type.child? SrcmlElement.name = some typeName →
      ¬ HasText typeName → leaf ∈ typeName.preOrder → leaf.token? = some "" →
      Refusal slot (.missingTypeToken s!"'{leaf.label}' node has no text")

theorem resolved_iff {slot : Node tree} : Resolved slot ↔ ∃ parameter, Declares slot parameter := by
  constructor
  · rintro ⟨decl, name, type, typeName, hasDecl, hasName, isLeaf, hasType, hasTypeName, full⟩
    obtain ⟨token, found⟩ := Option.isSome_iff_exists.1 (name.isSome_token?_iff.2 isLeaf)
    exact ⟨⟨token, some typeName.toRaw.rendered⟩, decl, name, type, typeName, hasDecl, hasName,
      found, hasType, hasTypeName, full, rfl⟩
  · rintro ⟨parameter, decl, name, type, typeName, hasDecl, hasName, found, hasType, hasTypeName,
      full, -⟩
    refine ⟨decl, name, type, typeName, hasDecl, hasName, ?_, hasType, hasTypeName, full⟩
    rw [← Node.isSome_token?_iff, found]
    rfl

/-- A slot without something it needs does not have it. -/
theorem Refusal.not_resolved {slot : Node tree} {error : Error} (refusal : Refusal slot error) :
    ¬ Resolved slot := by
  rintro ⟨decl, name, type, typeName, hasDecl, hasName, isLeaf, hasType, hasTypeName, full⟩
  cases refusal with
  | declaration none =>
    rw [none] at hasDecl
    cases hasDecl
  | name hasDecl' inner =>
    obtain rfl := Option.some.inj (hasDecl.symm.trans hasDecl')
    rw [inner name hasName] at isLeaf
    cases isLeaf
  | type hasDecl' none =>
    obtain rfl := Option.some.inj (hasDecl.symm.trans hasDecl')
    rw [none type hasType] at hasTypeName
    cases hasTypeName
  | text hasDecl' hasType' hasTypeName' bare _ _ =>
    obtain rfl := Option.some.inj (hasDecl.symm.trans hasDecl')
    obtain rfl := Option.some.inj (hasType.symm.trans hasType')
    obtain rfl := Option.some.inj (hasTypeName.symm.trans hasTypeName')
    exact bare full

/-- A slot is read as the parameter it declares or is refused. -/
theorem parameter_cases (slot : Node tree) :
    (∃ parameter, Declares slot parameter ∧ Srcml.parameter slot = .ok parameter) ∨
      ∃ error, Refusal slot error ∧ Srcml.parameter slot = .error error := by
  unfold Srcml.parameter
  cases hasDecl : slot.child? SrcmlElement.decl with
  | none => exact .inr ⟨_, .declaration hasDecl, rfl⟩
  | some decl =>
    dsimp only
    cases found : (decl.child? SrcmlElement.name).bind Node.token? with
    | none =>
      refine .inr ⟨_, .name hasDecl fun name hasName => ?_, rfl⟩
      rw [hasName, Option.bind_some] at found
      rw [← Bool.not_eq_true, ← Node.isSome_token?_iff, found]
      simp
    | some token =>
      obtain ⟨name, hasName, named⟩ := Option.bind_eq_some_iff.1 found
      cases typed : (decl.child? SrcmlElement.type).bind (·.child? SrcmlElement.name) with
      | none =>
        refine .inr ⟨_, .type hasDecl fun type hasType => ?_, ?_⟩
        · rwa [hasType] at typed
        · simp only [declaredType, typed]
          rfl
      | some typeName =>
        obtain ⟨type, hasType, hasTypeName⟩ := Option.bind_eq_some_iff.1 typed
        simp only [declaredType, typed]
        rcases typeText_cases typeName with ⟨full, ok⟩ | ⟨bare, leaf, below, empty, failed⟩
        · rw [ok]
          exact .inl ⟨⟨token, some typeName.toRaw.rendered⟩, ⟨decl, name, type, typeName, hasDecl,
            hasName, named, hasType, hasTypeName, full, rfl⟩, rfl⟩
        · rw [failed]
          exact .inr ⟨_, .text hasDecl hasType hasTypeName bare below empty, rfl⟩

theorem declares_of_parameter {slot : Node tree} {parameter : Parameter}
    (h : Srcml.parameter slot = .ok parameter) : Declares slot parameter := by
  rcases parameter_cases slot with ⟨other, declares, ok⟩ | ⟨error, -, failed⟩
  · obtain rfl := Except.ok.inj (h.symm.trans ok)
    exact declares
  · rw [failed] at h
    cases h

theorem refusal_of_parameter {slot : Node tree} {error : Error}
    (h : Srcml.parameter slot = .error error) : Refusal slot error := by
  rcases parameter_cases slot with ⟨parameter, -, ok⟩ | ⟨other, refusal, failed⟩
  · rw [ok] at h
    cases h
  · obtain rfl := Except.error.inj (h.symm.trans failed)
    exact refusal

/-! ## The list -/

/-- A list that was read has the parameter of each slot, in order. -/
theorem declares_of_parameters {function : Node tree} {list : List Parameter}
    (isFunction : function.hasLastLabel SrcmlElement.function = true)
    (h : parameters function = .ok list) : List.Forall₂ Declares (ownSlots function) list := by
  rw [parameters, slots_eq isFunction] at h
  exact (mapM_eq_ok_iff.1 h).imp fun slot parameter => declares_of_parameter

/-- A list that was not read has a slot that is refused, and all before it are in order. -/
theorem refusal_of_parameters {function : Node tree} {error : Error}
    (isFunction : function.hasLastLabel SrcmlElement.function = true)
    (h : parameters function = .error error) :
    ∃ before slot after, ownSlots function = before ++ slot :: after ∧
      (∀ other ∈ before, Resolved other) ∧ ¬ Resolved slot ∧ Refusal slot error := by
  rw [parameters, slots_eq isFunction] at h
  obtain ⟨before, slot, after, whole, good, bad⟩ := mapM_eq_error_iff.1 h
  have refusal := refusal_of_parameter bad
  refine ⟨before, slot, after, whole, fun other mem => ?_, refusal.not_resolved, refusal⟩
  obtain ⟨parameter, ok⟩ := good other mem
  exact resolved_iff.2 ⟨parameter, declares_of_parameter ok⟩

theorem resolved_of_declares {slots : List (Node tree)} {list : List Parameter}
    (each : List.Forall₂ Declares slots list) : ∀ slot ∈ slots, Resolved slot := by
  induction each with
  | nil => simp
  | cons first _ ih =>
    intro slot mem
    rcases List.mem_cons.1 mem with rfl | mem
    · exact resolved_iff.2 ⟨_, first⟩
    · exact ih slot mem

/-- The parameters of a function that is read are there exactly if all its slots are resolved. Then
there is one for each slot, in source order, and no note on them; else there is one note, on the
first slot that is not resolved. A parameter below a function is a slot of exactly one. -/
theorem parameters_allOrNothing (tree : Tree) (filePath : String) :
    (∀ (function : Node tree) (signature : Signature tree),
      function.hasLastLabel SrcmlElement.function = true →
      (read function filePath).result = .ok signature →
      (signature.parameters.isSome = true ↔ ∀ slot ∈ ownSlots function, Resolved slot) ∧
      ∃ (modifiers annotations : Nat) (dropped : List Diagnostic),
        (read function filePath).notes =
          List.replicate modifiers
            (noteOn function filePath .missingModifierText "modifier has no text") ++ dropped ++
          List.replicate annotations
            (noteOn function filePath .missingAnnotationName "annotation has no name") ∧
        (∀ list, signature.parameters = some list →
          List.Forall₂ Declares (ownSlots function) list ∧ dropped = []) ∧
        (signature.parameters = none →
          ∃ before slot after error, ownSlots function = before ++ slot :: after ∧
            (∀ other ∈ before, Resolved other) ∧ ¬ Resolved slot ∧ Refusal slot error ∧
            dropped = [listNote function filePath error])) ∧
    ∀ node : Node tree, node.hasLastLabel SrcmlElement.parameter = true →
      (∃ above ∈ node.ancestors, above.hasLastLabel SrcmlElement.function = true) →
      ∃! function, function.hasLastLabel SrcmlElement.function = true ∧
        node ∈ ownSlots function := by
  refine ⟨fun function signature isFunction h => ?_, fun node => existsUnique_slots⟩
  obtain ⟨returnType, typed⟩ := exists_type_of_ok h
  rw [read_of_ok typed] at h ⊢
  obtain rfl := Except.ok.inj h
  dsimp only
  cases found : parameters function with
  | ok list =>
    have each := declares_of_parameters isFunction found
    refine ⟨iff_of_true rfl (resolved_of_declares each), _, _, listNotes function filePath, rfl,
      fun list' same => ?_, fun none => by cases none⟩
    obtain rfl := Option.some.inj same
    exact ⟨each, by rw [listNotes, found]⟩
  | error error =>
    obtain ⟨before, slot, after, whole, good, bad, refusal⟩ :=
      refusal_of_parameters isFunction found
    have unresolved : ¬ ∀ slot ∈ ownSlots function, Resolved slot := fun all =>
      bad (all slot (by rw [whole]; simp))
    refine ⟨iff_of_false (by simp [Except.toOption]) unresolved, _, _, listNotes function filePath,
      rfl, fun list same => (by cases same), fun _ => ?_⟩
    exact ⟨before, slot, after, error, whole, good, bad, refusal, by rw [listNotes, found]⟩

/-- A method of no result with one parameter, in a tree by value. -/
def runMethod (declarations : List RawTree) : RawTree :=
  .inner "function"
    [.inner "type" [.leaf "name" "void"], .leaf "name" "run",
      .inner "parameter_list" [.inner "parameter" declarations]]

/-- The declaration of `a`, with a type that has the given names. -/
def declarationOf (typeNames : List String) : RawTree :=
  .inner "decl" [.inner "type" (typeNames.map (.leaf "name")), .leaf "name" "a"]

/-- A method with one parameter, whose list is there and has the parameter. -/
theorem parameters_of_runMethod :
    ∃ (tree : Tree) (signature : Signature tree),
      ofRaw (runMethod [declarationOf ["int"]]) = .ok tree ∧
      (read tree.root "Foo.java").result = .ok signature ∧
      signature.parameters = some [⟨"a", some "int"⟩] ∧
      (∀ slot ∈ ownSlots tree.root, Resolved slot) ∧
      ∀ slot ∈ ownSlots tree.root, ∃! function,
        function.hasLastLabel SrcmlElement.function = true ∧ slot ∈ ownSlots function := by
  obtain ⟨tree, signature, made, -, isFunction, result, alone⟩ :=
    @exists_signature (runMethod [declarationOf ["int"]]) (by decide) (by decide) "Foo.java" _ rfl
  have list : signature.parameters = some [⟨"a", some "int"⟩] := congrArg Summary.parameters alone
  have law := parameters_allOrNothing tree "Foo.java"
  refine ⟨tree, signature, made, result, list, ?_, fun slot mem => ?_⟩
  · exact (law.1 tree.root signature isFunction result).1.1 (by rw [list]; rfl)
  · obtain ⟨isParameter, owned⟩ := mem_ownSlots_iff.1 mem
    exact law.2 slot isParameter ⟨tree.root, owned.1, isFunction⟩

/-! ## The first declaration counts -/

/-- Whether some declaration in a slot has a name that is a leaf and a type with some name that has
text, be it the first one or not. -/
def ResolvedSomehow (slot : Node tree) : Prop :=
  ∃ decl ∈ slot.childrenOf SrcmlElement.decl,
    (∃ name, decl.child? SrcmlElement.name = some name ∧ name.isLeaf = true) ∧
    ∃ type, decl.child? SrcmlElement.type = some type ∧
      ∃ typeName ∈ type.childrenOf SrcmlElement.name, HasText typeName

theorem resolvedSomehow_of_toRaw {slot : Node tree}
    (h : ∃ decl ∈ slot.toRaw.childrenOf SrcmlElement.decl,
      decl.child? SrcmlElement.name = some (.leaf "name" "a") ∧
      ∃ type, decl.child? SrcmlElement.type = some type ∧
        .leaf "name" "int" ∈ type.childrenOf SrcmlElement.name) :
    ResolvedSomehow slot := by
  obtain ⟨_, mem, named, _, typed, inside⟩ := h
  obtain ⟨decl, listed, rfl⟩ := Node.exists_mem_childrenOf_of_toRaw mem
  obtain ⟨name, hasName, nameCopy⟩ := Node.exists_child?_of_toRaw named
  obtain ⟨type, hasType, rfl⟩ := Node.exists_child?_of_toRaw typed
  obtain ⟨typeName, typeNamed, typeNameCopy⟩ := Node.exists_mem_childrenOf_of_toRaw inside
  refine ⟨decl, listed, ⟨name, hasName, ?_⟩, type, hasType, typeName, typeNamed, ?_⟩
  · rw [← Node.isSome_token?_iff, Node.token?_eq, nameCopy]
    rfl
  · rw [hasText_iff_exists, typeNameCopy]
    exact ⟨"int", rfl⟩

/-- Whether a method with the given declarations in its slot is read without its parameters, though
all its slots are resolved somehow. -/
def Overlooked (declarations : List RawTree) : Prop :=
  ∃ (tree : Tree) (signature : Signature tree), ofRaw (runMethod declarations) = .ok tree ∧
    tree.root.hasLastLabel SrcmlElement.function = true ∧
    (read tree.root "Foo.java").result = .ok signature ∧
    (∀ slot ∈ ownSlots tree.root, ResolvedSomehow slot) ∧ signature.parameters = none

theorem overlooked_of_reading {declarations : List RawTree} {summary : Summary}
    (sound : (runMethod declarations).Sound)
    (h : ((runMethod declarations).parts.reading "Foo.java").result = .ok summary)
    (dropped : summary.parameters = none)
    (other : ∀ slot ∈ (runMethod declarations).slots,
      ∃ decl ∈ slot.childrenOf SrcmlElement.decl,
        decl.child? SrcmlElement.name = some (.leaf "name" "a") ∧
        ∃ type, decl.child? SrcmlElement.type = some type ∧
          .leaf "name" "int" ∈ type.childrenOf SrcmlElement.name) :
    Overlooked declarations := by
  have labelled : (runMethod declarations).hasLastLabel SrcmlElement.function = true := by
    show (Label.lastSegment "function" == "function") = true
    decide
  obtain ⟨tree, signature, made, copy, isFunction, result, alone⟩ :=
    exists_signature sound labelled h
  refine ⟨tree, signature, made, isFunction, result, fun slot mem => ?_,
    (congrArg Summary.parameters alone).trans dropped⟩
  apply resolvedSomehow_of_toRaw
  apply other
  rw [← copy, ← map_toRaw_slots isFunction, slots_eq isFunction]
  exact List.mem_map_of_mem mem

/-- It is the first declaration of a slot that counts, and the first name of its type. Another one
that has all it needs does not bring the list back. -/
theorem parameters_eq_none_of_first :
    Overlooked [.inner "decl" [.inner "type" [.leaf "name" "int"]], declarationOf ["int"]] ∧
    Overlooked [declarationOf ["", "int"]] := by
  constructor
  · refine overlooked_of_reading (by decide) rfl rfl fun slot mem => ?_
    obtain rfl := List.mem_singleton.1 mem
    exact ⟨declarationOf ["int"], by decide, rfl, _, rfl, by decide⟩
  · refine overlooked_of_reading (by decide) rfl rfl fun slot mem => ?_
    obtain rfl := List.mem_singleton.1 mem
    exact ⟨declarationOf ["", "int"], by decide, rfl, _, rfl, by decide⟩

end MethodCorpus.Signature.Srcml
