import MethodCorpus.Label.Vocabulary
import MethodCorpus.SyntaxTree.Basic
import MethodCorpus.Tree.Raw

/-!
# srcML markup of a syntax tree

The methods of a Java source are read from a srcML tree, which keeps of the concrete syntax tree
just the declarations and the parts of their signatures. Declarations of classes, records,
enumerations, interfaces and constructors become nodes with a name and a block; a method becomes a
`function` with its annotations, type, name, parameters and block. Everything else is passed through
to whatever declarations stand inside it.

A node that got no children becomes a leaf that carries the text it covers (`sealed`), so the markup
of any syntax tree, however broken, gives a token to every leaf and to nothing else.
-/

namespace MethodCorpus

/-- A node that is a leaf with the given token if it has no children. -/
def RawTree.sealed (label token : String) (children : List RawTree) : RawTree :=
  if children.isEmpty then .leaf label token else .inner label children

namespace SyntaxTree

/-- A leaf of a srcML element. -/
def elementLeaf (element : SrcmlElement) (token : String) : RawTree := .leaf element.text token

/-- The name of a declaration, if it has one. -/
def nameMarkup (node : Option SyntaxTree) : List RawTree :=
  node.toList.map fun name => elementLeaf .name name.text

/-- The modifiers of a method or parameter. -/
def modifiers? (node : SyntaxTree) : Option SyntaxTree :=
  node.children.find? (·.kind == "modifiers")

/-- A specifier for every keyword among the modifiers. -/
def specifierMarkup (modifiers : Option SyntaxTree) : List RawTree :=
  modifiers.toList.flatMap fun modifiers =>
    (modifiers.children.filter (!·.named)).map fun keyword => elementLeaf .specifier keyword.text

/-- An annotation for every annotation among the modifiers. -/
def annotationMarkup (modifiers : Option SyntaxTree) : List RawTree :=
  modifiers.toList.flatMap fun modifiers =>
    (modifiers.namedChildren.filter fun child =>
      child.kind == "marker_annotation" || child.kind == "annotation").map fun mark =>
        .sealed SrcmlElement.annotation.text mark.text (nameMarkup (mark.child? .name))

/-- The number of pairs of brackets behind a node. -/
def bracketCount (node : SyntaxTree) : Nat :=
  match node.child? .dimensions with
  | none => 0
  | some dimensions => dimensions.children.countP (·.kind == "[")

/-- The part of a type that its brackets stand behind. -/
def elementType (type : SyntaxTree) : SyntaxTree :=
  if type.kind == "array_type" then (type.child? .element).getD type else type

/-- The number of pairs of brackets of a type and of the declaration it stands in. -/
def typeBrackets (type declaration : SyntaxTree) : Nat :=
  (if type.kind == "array_type" then type.bracketCount else 0) + declaration.bracketCount

/-- The name of a type, with an index for each pair of brackets. -/
def typeName (elementText : String) (brackets : Nat) : RawTree :=
  let name := elementLeaf .name elementText
  if brackets = 0 then name
  else .inner SrcmlElement.name.text (name :: List.replicate brackets (elementLeaf .index "[]"))

/-- The name of the type of a declaration, if it has a type. -/
def typeMarkup (declaration : SyntaxTree) : List RawTree :=
  (declaration.child? .type).toList.map fun type =>
    typeName type.elementType.text (typeBrackets type declaration)

/-- The type of a variable parameter list: its first named part that is neither modifiers nor a
declarator. -/
def spreadType? (node : SyntaxTree) : Option SyntaxTree :=
  node.namedChildren.find? fun child =>
    child.kind != "modifiers" && child.kind != "variable_declarator"

/-- The declarator of a variable parameter list. -/
def spreadDeclarator? (node : SyntaxTree) : Option SyntaxTree :=
  (node.namedChildren.filter (·.kind == "variable_declarator")).getLast?

/-- A parameter: a declaration of a type and a name. -/
def parameterMarkup (node : SyntaxTree) : RawTree :=
  let spread := node.kind == "spread_parameter"
  let typeNames :=
    if spread then
      node.spreadType?.toList.map fun type => elementLeaf .name (type.text ++ "...")
    else node.typeMarkup
  let name := if spread then node.spreadDeclarator?.bind (·.child? .name) else node.child? .name
  let type := RawTree.sealed SrcmlElement.type.text "" (specifierMarkup node.modifiers? ++ typeNames)
  .inner SrcmlElement.parameter.text [.inner SrcmlElement.decl.text (type :: nameMarkup name)]

/-- Whether a node among the parameters is one. -/
def isParameter (node : SyntaxTree) : Bool :=
  node.kind == "formal_parameter" || node.kind == "spread_parameter"

/-- The parameter list of a method, if it has one. -/
def parameterListMarkup (method : SyntaxTree) : List RawTree :=
  (method.child? .parameters).toList.map fun parameters =>
    .sealed "parameter_list" parameters.text
      ((parameters.namedChildren.filter isParameter).map parameterMarkup)

/-- The parts of a method in front of its body. -/
def signatureMarkup (method : SyntaxTree) : List RawTree :=
  annotationMarkup method.modifiers? ++
  .sealed SrcmlElement.type.text "" (specifierMarkup method.modifiers? ++ method.typeMarkup) ::
  (nameMarkup (method.child? .name) ++ method.parameterListMarkup)

/-- The label of a declaration that is not a method. -/
def declarationLabel? (kind : String) : Option String :=
  if kind == "class_declaration" || kind == "record_declaration" then some SrcmlElement.classElement.text
  else if kind == "enum_declaration" then some SrcmlElement.enumElement.text
  else if kind == "interface_declaration" then some "interface"
  else if kind == "constructor_declaration" then some "constructor"
  else none

mutual

/-- The markup of the declarations at and below a node. A class body that no declaration accounts
for belongs to an anonymous class or to a constant of an enumeration. -/
def markup : SyntaxTree → List RawTree
  | ⟨kind, named, field, text, children⟩ =>
    let node : SyntaxTree := ⟨kind, named, field, text, children⟩
    if kind == "method_declaration" then
      [.inner SrcmlElement.function.text
        (node.signatureMarkup ++ bodyMarkup (· == "block") children)]
    else match declarationLabel? kind with
      | some label =>
        [.sealed label text (nameMarkup (node.child? .name) ++ bodyMarkup (fun _ => true) children)]
      | none =>
        if kind == "class_body" then
          [.inner SrcmlElement.classElement.text
            [.sealed SrcmlElement.block.text text (forestMarkup children)]]
        else forestMarkup children

/-- The markup of the named nodes of a list. -/
def forestMarkup : List SyntaxTree → List RawTree
  | [] => []
  | node :: rest => (if node.named then node.markup else []) ++ forestMarkup rest

/-- The block of the body among the children of a declaration, if it is of an accepted kind. -/
def bodyMarkup (accepted : String → Bool) : List SyntaxTree → List RawTree
  | [] => []
  | node :: rest =>
    if node.field = some .body then
      if accepted node.kind then [blockMarkup node] else []
    else bodyMarkup accepted rest

/-- The block of a body. -/
def blockMarkup : SyntaxTree → RawTree
  | ⟨_, _, _, text, children⟩ => .sealed SrcmlElement.block.text text (forestMarkup children)

end

/-- The markup of a whole source. -/
def unitMarkup (root : SyntaxTree) : RawTree := .sealed "unit" "" (forestMarkup root.children)

end SyntaxTree

end MethodCorpus
