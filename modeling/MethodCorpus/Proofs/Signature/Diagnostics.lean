import MethodCorpus.Proofs.Signature.AntlrParameters
import MethodCorpus.Proofs.Signature.Parameters
import MethodCorpus.Proofs.Signature.Split

/-!
# What is noted of a method

A method fails to be read, or is read with something left out, for reasons that lie inside of it. So
every diagnostic that the reading of a method leaves is of a kind of its own, never of the one that
stands for a file that was not read; and it names the method, if the method has a name.

* `kindOf_of_declaredType`, `kindOf_mem_of_parameters`: why a srcML function is not read, or its
  parameters are not;
* `Dialect.kindOf_mem_of_read`: why a method is not read, in either dialect;
* `Split.isAbout_of_mem`: every diagnostic of a tree is about one of its methods.
-/

namespace MethodCorpus

open MethodCorpus.Tree

/-- The kinds of what is left out inside of a file that was read. -/
def DiagnosticKind.inside : List DiagnosticKind :=
  [missingParameterName, missingTypeToken, missingNode, notALeaf, missingAnnotationName,
    missingModifierText]

/-- A kind is one of those inside of a file, or the one that stands for a whole file. -/
theorem DiagnosticKind.mem_inside_iff {kind : DiagnosticKind} :
    kind ∈ inside ↔ kind ≠ .unreadableFile := by
  cases kind <;> decide

/-- Whether a diagnostic is about a method of the file at a path. -/
structure Diagnostic.IsAbout {tree : Tree} (dialect : Dialect) (path : String)
    (method : Node tree) (diagnostic : Diagnostic) : Prop where
  kind : diagnostic.kind ∈ DiagnosticKind.inside
  filePath : diagnostic.filePath = path
  function : diagnostic.function = dialect.methodName? method

variable {tree : Tree} {path : String} {error : Error}

/-! ## srcML functions -/

namespace Signature.Srcml

variable {function : Node tree} {diagnostic : Diagnostic}

/-- A type that is not rendered has no text, be it that it is missing or that a leaf is empty. -/
theorem kindOf_of_declaredType (h : declaredType function = .error error) :
    Diagnostic.kindOf error = .missingTypeToken := by
  rw [declaredType] at h
  split at h
  · obtain rfl := Except.error.inj h
    rfl
  · next name _ =>
    rcases typeText_cases name with ⟨-, ok⟩ | ⟨-, leaf, -, -, failed⟩
    · rw [ok] at h
      cases h
    · obtain rfl := Except.error.inj (h.symm.trans failed)
      rfl

theorem Refusal.kindOf_mem {slot : Node tree} (refusal : Refusal slot error) :
    Diagnostic.kindOf error ∈ DiagnosticKind.inside := by
  cases refusal <;> simp [Diagnostic.kindOf, DiagnosticKind.inside]

/-- A parameter list is not read because one of its slots is refused. -/
theorem kindOf_mem_of_parameters (h : parameters function = .error error) :
    Diagnostic.kindOf error ∈ DiagnosticKind.inside := by
  obtain ⟨before, slot, after, -, -, failed⟩ := mapM_eq_error_iff.1 h
  exact (refusal_of_parameter failed).kindOf_mem

theorem isAbout_noteOn {kind : DiagnosticKind} (inside : kind ∈ DiagnosticKind.inside)
    (message : String) : (noteOn function path kind message).IsAbout .srcml path function :=
  ⟨inside, rfl, rfl⟩

/-- Every note on a function that was read is about it. -/
theorem isAbout_of_mem_notes (mem : diagnostic ∈ (read function path).notes) :
    diagnostic.IsAbout .srcml path function := by
  cases typed : declaredType function with
  | error error =>
    rw [read_of_error typed] at mem
    exact absurd mem List.not_mem_nil
  | ok returnType =>
    rw [read_of_ok typed, List.mem_append, List.mem_append] at mem
    rcases mem with (mem | mem) | mem
    · rw [(List.mem_replicate.1 mem).2]
      exact isAbout_noteOn (by decide) _
    · rw [listNotes] at mem
      split at mem
      · exact absurd mem List.not_mem_nil
      · next failed =>
        rw [List.mem_singleton.1 mem]
        exact isAbout_noteOn (kindOf_mem_of_parameters failed) _
    · rw [(List.mem_replicate.1 mem).2]
      exact isAbout_noteOn (by decide) _

end Signature.Srcml

/-! ## Either dialect -/

/-- A parameter of an ANTLR tree is not read because its name is missing or is no leaf. -/
theorem Signature.Antlr.kindOf_mem_of_parameter {slot : Node tree}
    (h : parameter slot = .error error) : Diagnostic.kindOf error ∈ DiagnosticKind.inside := by
  rcases parameter_cases slot with ⟨declared, -, -, ok⟩ | ⟨other, -, refusal, failed⟩
  · rw [ok] at h
    cases h
  · obtain rfl := Except.error.inj (failed.symm.trans h)
    cases refusal <;> simp [Diagnostic.kindOf, DiagnosticKind.inside]

/-- A method is not read for a reason that lies inside of it. -/
theorem Dialect.kindOf_mem_of_read {dialect : Dialect} {method : Node tree}
    (h : (dialect.read method path).result = .error error) :
    Diagnostic.kindOf error ∈ DiagnosticKind.inside := by
  cases dialect with
  | antlr =>
    simp only [read, Signature.Antlr.read] at h
    split at h
    · next failed =>
      obtain rfl := Except.error.inj h
      obtain ⟨before, slot, after, -, -, failed⟩ := mapM_eq_error_iff.1 failed
      exact Signature.Antlr.kindOf_mem_of_parameter failed
    · cases h
  | srcml =>
    cases typed : Signature.Srcml.declaredType method with
    | error error' =>
      rw [read, Signature.Srcml.read_of_error typed] at h
      obtain rfl := Except.error.inj h
      rw [Signature.Srcml.kindOf_of_declaredType typed]
      decide
    | ok returnType =>
      rw [read, Signature.Srcml.read_of_ok typed] at h
      cases h

/-- What the reading of a method adds to the diagnostics is about that method. -/
theorem Split.isAbout_of_mem_diagnosticsOf {dialect : Dialect} {method : Node tree}
    {diagnostic : Diagnostic} (mem : diagnostic ∈ diagnosticsOf dialect path method) :
    diagnostic.IsAbout dialect path method := by
  rw [diagnosticsOf, List.mem_append] at mem
  rcases mem with mem | mem
  · cases dialect with
    | antlr => exact absurd mem List.not_mem_nil
    | srcml => exact Signature.Srcml.isAbout_of_mem_notes mem
  · split at mem
    · exact absurd mem List.not_mem_nil
    · next failed =>
      rw [List.mem_singleton.1 mem]
      exact ⟨Dialect.kindOf_mem_of_read failed, rfl, rfl⟩

/-- Every diagnostic of a tree is about one of its methods. -/
theorem Split.isAbout_of_mem {dialect : Dialect} {node : Node tree} {diagnostic : Diagnostic}
    (mem : diagnostic ∈ (ofNode dialect path node).diagnostics) :
    ∃ method ∈ dialect.methods node, diagnostic.IsAbout dialect path method := by
  obtain ⟨method, listed, mem⟩ := List.mem_flatMap.1 mem
  exact ⟨method, listed, isAbout_of_mem_diagnosticsOf mem⟩

end MethodCorpus
