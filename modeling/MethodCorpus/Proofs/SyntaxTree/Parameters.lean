import MethodCorpus.Proofs.SyntaxTree.Placement

/-!
# Parameter lists of a source

A parameter of a method has its type and its name as children, and a parameter that stands for any
number of arguments has a declarator with the name. The list of a method is read all or nothing, and
nothing but its own parameters goes into it, whatever stands in its body.

* `Complete`, `Declares`: what a parameter has to look like, and what it then declares;
* `Lacks`: what is missing in any other parameter, and the error that says so;
* `parameter_cases`: a parameter declares something or lacks something;
* `parameters_srcmlTree`: the list of every method that becomes a signature, and the notes on it.
-/

namespace MethodCorpus.SyntaxTree

open MethodCorpus.Tree
open Signature.Srcml (Parts notesOn)

/-! ## One parameter -/

/-- Whether a parameter has a name and a type. -/
def Complete (slot : SyntaxTree) : Prop :=
  if slot.isSpread then
    (∃ declarator name, slot.spreadDeclarator? = some declarator ∧
        declarator.child? .name = some name) ∧
      ∃ child ∈ slot.namedChildren, child.kind ≠ "modifiers" ∧ child.kind ≠ "variable_declarator"
  else
    (∃ name, slot.child? .name = some name) ∧
      ∃ type, slot.child? .type = some type ∧ type.elementType.text ≠ ""

/-- The parameter that is declared. The brackets of a type stand at the type or at the name. -/
inductive Declares (slot : SyntaxTree) : Parameter → Prop
  | formal {name type : SyntaxTree} : slot.isSpread = false → slot.child? .name = some name →
      slot.child? .type = some type → type.elementType.text ≠ "" →
      Declares slot ⟨name.text, some (type.elementType.text ++
        String.join (List.replicate (typeBrackets type slot) "[]"))⟩
  | spread {declarator name type : SyntaxTree} : slot.isSpread = true →
      slot.spreadDeclarator? = some declarator → declarator.child? .name = some name →
      slot.spreadType? = some type → Declares slot ⟨name.text, some (type.text ++ "...")⟩

/-- What a parameter lacks that declares nothing. -/
inductive Lacks (slot : SyntaxTree) : Error → Prop
  | name : slot.parameterName? = none → Lacks slot (.missingParameterName "parameter")
  | type : slot.isSpread = false → slot.child? .type = none →
      Lacks slot (.missingTypeToken "no type found under 'decl'")
  | text {type : SyntaxTree} : slot.isSpread = false → slot.child? .type = some type →
      type.elementType.text = "" → Lacks slot (.missingTypeToken "'name' node has no text")
  | spreadType : slot.isSpread = true → slot.spreadType? = none →
      Lacks slot (.missingTypeToken "no type found under 'decl'")

theorem exists_spreadType?_iff {slot : SyntaxTree} :
    (∃ type, slot.spreadType? = some type) ↔
      ∃ child ∈ slot.namedChildren, child.kind ≠ "modifiers" ∧
        child.kind ≠ "variable_declarator" := by
  rw [← Option.isSome_iff_exists, spreadType?, List.find?_isSome]
  simp only [Bool.and_eq_true, bne_iff_ne]

/-- What is declared is all that a complete parameter has. -/
theorem complete_iff {slot : SyntaxTree} :
    slot.Complete ↔ ∃ parameter, slot.Declares parameter := by
  rw [Complete, ← exists_spreadType?_iff]
  constructor
  · intro complete
    split at complete
    · next spread =>
      obtain ⟨⟨declarator, name, declared, named⟩, type, typed⟩ := complete
      exact ⟨_, .spread spread declared named typed⟩
    · next formal =>
      obtain ⟨⟨name, named⟩, type, typed, text⟩ := complete
      exact ⟨_, .formal (Bool.eq_false_iff.2 formal) named typed text⟩
  · rintro ⟨parameter, declares⟩
    cases declares with
    | formal formal named typed text =>
      rw [if_neg (Bool.eq_false_iff.1 formal)]
      exact ⟨⟨_, named⟩, _, typed, text⟩
    | spread spread declared named typed =>
      rw [if_pos spread]
      exact ⟨⟨_, _, declared, named⟩, _, typed⟩

/-- A parameter that lacks something does not have it. -/
theorem Lacks.not_complete {slot : SyntaxTree} {error : Error} (lacks : slot.Lacks error) :
    ¬ slot.Complete := by
  rw [complete_iff]
  rintro ⟨parameter, declares⟩
  cases declares with
  | formal formal named typed text =>
    cases lacks with
    | name none =>
      rw [parameterName?, if_neg (Bool.eq_false_iff.1 formal), named] at none
      cases none
    | type _ none =>
      rw [typed] at none
      cases none
    | text _ typed' empty =>
      obtain rfl := Option.some.inj (typed.symm.trans typed')
      exact text empty
    | spreadType spread _ =>
      rw [formal] at spread
      cases spread
  | spread spread declared named typed =>
    cases lacks with
    | name none =>
      rw [parameterName?, if_pos spread, declared, Option.bind_some, named] at none
      cases none
    | type formal _ =>
      rw [formal] at spread
      cases spread
    | text formal _ _ =>
      rw [formal] at spread
      cases spread
    | spreadType _ none =>
      rw [typed] at none
      cases none

/-- A parameter is read as what it declares, or it fails for what it lacks. -/
theorem parameter_cases (slot : SyntaxTree) :
    (∃ parameter, slot.Declares parameter ∧ slot.parameter = .ok parameter) ∨
      ∃ error, slot.Lacks error ∧ slot.parameter = .error error := by
  rw [SyntaxTree.parameter]
  cases named : slot.parameterName? with
  | none => exact .inr ⟨_, .name named, rfl⟩
  | some name =>
    dsimp only
    rw [parameterName?] at named
    rw [parameterType]
    by_cases spread : slot.isSpread = true
    · rw [if_pos spread] at named ⊢
      obtain ⟨declarator, declared, named⟩ := Option.bind_eq_some_iff.1 named
      cases typed : slot.spreadType? with
      | none => exact .inr ⟨_, .spreadType spread typed, rfl⟩
      | some type => exact .inl ⟨_, .spread spread declared named typed, rfl⟩
    · have formal : slot.isSpread = false := Bool.eq_false_iff.2 spread
      rw [if_neg spread] at named ⊢
      rw [declaredType, typeText?, missingType]
      cases typed : slot.child? .type with
      | none => exact .inr ⟨_, .type formal typed, rfl⟩
      | some type =>
        rw [Option.bind_some]
        by_cases text : type.elementType.text = ""
        · rw [if_pos text]
          exact .inr ⟨_, .text formal typed text, rfl⟩
        · rw [if_neg text]
          exact .inl ⟨_, .formal formal named typed text, rfl⟩

theorem declares_of_parameter {slot : SyntaxTree} {parameter : Parameter}
    (h : slot.parameter = .ok parameter) : slot.Declares parameter := by
  rcases parameter_cases slot with ⟨other, declares, ok⟩ | ⟨error, -, failed⟩
  · obtain rfl := Except.ok.inj (h.symm.trans ok)
    exact declares
  · rw [failed] at h
    cases h

theorem lacks_of_parameter {slot : SyntaxTree} {error : Error} (h : slot.parameter = .error error) :
    slot.Lacks error := by
  rcases parameter_cases slot with ⟨parameter, -, ok⟩ | ⟨other, lacks, failed⟩
  · rw [ok] at h
    cases h
  · obtain rfl := Except.error.inj (h.symm.trans failed)
    exact lacks

/-! ## The list -/

/-- A list that was read has what each parameter declares, in order, and all are complete. -/
theorem declares_of_parts {method : SyntaxTree} {list : List Parameter}
    (h : method.parts.parameters = .ok list) :
    List.Forall₂ Declares method.formalParameters list ∧
      ∀ slot ∈ method.formalParameters, slot.Complete := by
  refine ⟨(mapM_eq_ok_iff.1 h).imp fun slot parameter => declares_of_parameter, ?_⟩
  intro slot mem
  obtain ⟨parameter, ok⟩ := exists_of_mapM_eq_ok h mem
  exact complete_iff.2 ⟨parameter, declares_of_parameter ok⟩

/-- A list that was not read has a parameter that lacks something, and all before are complete. -/
theorem lacks_of_parts {method : SyntaxTree} {error : Error}
    (h : method.parts.parameters = .error error) :
    ∃ before slot after, method.formalParameters = before ++ slot :: after ∧
      (∀ other ∈ before, other.Complete) ∧ slot.Lacks error := by
  obtain ⟨before, slot, after, whole, good, bad⟩ := mapM_eq_error_iff.1 h
  refine ⟨before, slot, after, whole, fun other mem => ?_, lacks_of_parameter bad⟩
  obtain ⟨parameter, ok⟩ := good other mem
  exact complete_iff.2 ⟨parameter, declares_of_parameter ok⟩

theorem not_complete_of_parts {method : SyntaxTree} {error : Error}
    (h : method.parts.parameters = .error error) :
    ¬ ∀ slot ∈ method.formalParameters, slot.Complete := by
  obtain ⟨before, slot, after, whole, -, lacks⟩ := lacks_of_parts h
  intro all
  refine lacks.not_complete (all slot ?_)
  rw [whole]
  exact List.mem_append_right before List.mem_cons_self

/-- The note on a parameter list that was left out. -/
def droppedNote (filePath : String) (method : SyntaxTree) (error : Error) : Diagnostic :=
  method.parts.note filePath (Diagnostic.kindOf error) s!"parameter list dropped: {error.text}"

/-- What is noted of the list of a method: nothing if it is complete, and else the first parameter
that is not. -/
theorem listNotes_cases (filePath : String) (method : SyntaxTree) :
    ((∀ slot ∈ method.formalParameters, slot.Complete) ∧
        method.parts.listNotes filePath = []) ∨
      ∃ before slot after error, method.formalParameters = before ++ slot :: after ∧
        (∀ other ∈ before, other.Complete) ∧ ¬ slot.Complete ∧ slot.Lacks error ∧
        method.parts.listNotes filePath = [method.droppedNote filePath error] := by
  rw [Parts.listNotes]
  cases read : method.parts.parameters with
  | ok list => exact .inl ⟨(declares_of_parts read).2, rfl⟩
  | error error =>
    obtain ⟨before, slot, after, whole, good, lacks⟩ := lacks_of_parts read
    exact .inr ⟨before, slot, after, error, whole, good, lacks.not_complete, lacks, rfl⟩

theorem Placed.ReadAs.parameters {tree : Tree} {filePath : String} {placed : Placed}
    {signature : Signature tree} (h : placed.ReadAs filePath signature) :
    signature.parameters = placed.method.parts.parameters.toOption := by
  obtain ⟨-, type, -, summary⟩ := h
  exact congrArg Summary.parameters summary

/-- Every method with a type becomes a signature, whose parameters are there exactly if all
parameters in the list of the method are complete. Then there is one for each of them, in order, as
it is declared, and no note on them; else there is one note, on the first that is not complete. -/
theorem parameters_srcmlTree (parser : String → SyntaxTree) (text filePath : String) :
    ∃ tree, Source.srcmlTree parser text = .ok tree ∧
      List.Forall₂ (fun method signature =>
          signature.root.toRaw = method.methodMarkup ∧
          (signature.parameters.isSome = true ↔ ∀ slot ∈ method.formalParameters, slot.Complete) ∧
          ∀ list, signature.parameters = some list →
            List.Forall₂ Declares method.formalParameters list)
        ((parser text).allMethods.filter (·.typeText?.isSome))
        (Split.ofNode .srcml filePath tree.root).signatures ∧
      (Split.ofNode .srcml filePath tree.root).diagnostics =
        (parser text).allMethods.flatMap (diagnostics filePath) ∧
      ∀ method ∈ (parser text).allMethods.filter (·.typeText?.isSome),
        ∃ dropped,
          method.diagnostics filePath =
            notesOn (method.parts.note filePath .missingModifierText "modifier has no text")
              method.parts.modifiers ++ dropped ++
            notesOn (method.parts.note filePath .missingAnnotationName "annotation has no name")
              method.parts.annotations ∧
          (((∀ slot ∈ method.formalParameters, slot.Complete) ∧ dropped = []) ∨
            ∃ before slot after error, method.formalParameters = before ++ slot :: after ∧
              (∀ other ∈ before, other.Complete) ∧ ¬ slot.Complete ∧ slot.Lacks error ∧
              dropped = [method.droppedNote filePath error]) := by
  obtain ⟨tree, made, -, signatures, reports⟩ := exists_split parser text filePath
  refine ⟨tree, made, ?_, reports, fun method mem => ?_⟩
  · rw [← map_method_typedPlaced, List.forall₂_map_left_iff]
    refine signatures.imp fun placed signature read => ⟨read.1, ?_, fun list found => ?_⟩
    · rw [read.parameters]
      cases outcome : placed.method.parts.parameters with
      | ok list => exact iff_of_true rfl (declares_of_parts outcome).2
      | error error => exact iff_of_false Bool.false_ne_true (not_complete_of_parts outcome)
    · rw [read.parameters, toOption_eq_some_iff] at found
      exact (declares_of_parts found).1
  · obtain ⟨type, typed⟩ := Option.isSome_iff_exists.1 (List.mem_filter.1 mem).2
    refine ⟨method.parts.listNotes filePath, ?_, listNotes_cases filePath method⟩
    rw [diagnostics, typed]
    rfl

end MethodCorpus.SyntaxTree
