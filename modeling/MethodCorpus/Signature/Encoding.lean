import MethodCorpus.Json.Basic
import MethodCorpus.Signature.Basic

/-!
# Signatures as JSON values

Only the summary of a signature is written, since places of a tree mean nothing without the tree.
What is not known of a method is null.
-/

namespace MethodCorpus

/-- The parameter as a JSON value. -/
def Parameter.toJson (parameter : Parameter) : Json :=
  .ofMembers [("name", .ofText parameter.name),
    ("param_type", .ofOption .ofText parameter.type)]

/-- The kind's name. -/
def EnclosingKind.name : EnclosingKind → String
  | classDeclaration => "Class"
  | enumDeclaration => "Enum"

/-- The summary as a JSON value. -/
def Summary.toJson (summary : Summary) : Json :=
  .ofMembers [
    ("name", .ofOption .ofText summary.name),
    ("file_path", .ofText summary.filePath),
    ("return_type", .ofOption .ofText summary.returnType),
    ("parameters", .ofOption (.ofList Parameter.toJson) summary.parameters),
    ("enclosing_kind", .ofOption (fun kind => .ofText kind.name) summary.enclosingKind),
    ("enclosing_name", .ofOption .ofText summary.enclosingName),
    ("annotations", .ofOption (.ofList .ofText) summary.annotations),
    ("modifiers", .ofOption (.ofList .ofText) summary.modifiers),
    ("is_constructor", .bool summary.isConstructor),
    ("has_body", .bool summary.hasBody)]

end MethodCorpus
