import MethodCorpus.Label.Segment

/-!
# Label vocabularies

A dialect of trees fixes which labels its readers look for. Such a closed set of labels is a
vocabulary: a finite type whose members carry the label text that the trees use. Trees may hold any
other label as well; a reader passes over those.

* `Vocabulary.ofText?_text`: no two members share a label, so a label names its member.
-/

namespace MethodCorpus

/-- A finite set of labels, each with the text it has in a tree. -/
class Vocabulary (α : Type) where
  /-- Every member, in a fixed order. -/
  all : List α
  /-- The label that stands in a tree for a member. -/
  text : α → String

/-- The member of a vocabulary that a label names. -/
def Vocabulary.ofText? (α : Type) [Vocabulary α] (label : String) : Option α :=
  (all : List α).find? (text · == label)

/-- Rule names that matter in a tree of the ANTLR grammar for Java. -/
inductive AntlrRule where
  | methodDeclaration
  | methodBody
  | identifier
  | typeTypeOrVoid
  | classDeclaration
  | formalParameters
  | formalParameterList
  | formalParameter
  | lastFormalParameter
  | typeType
  | variableDeclaratorId
  deriving DecidableEq

/-- Token kinds are written in capitals, rules as they stand in the grammar. -/
def AntlrRule.text : AntlrRule → String
  | methodDeclaration => "methodDeclaration"
  | methodBody => "methodBody"
  | identifier => "IDENTIFIER"
  | typeTypeOrVoid => "typeTypeOrVoid"
  | classDeclaration => "classDeclaration"
  | formalParameters => "formalParameters"
  | formalParameterList => "formalParameterList"
  | formalParameter => "formalParameter"
  | lastFormalParameter => "lastFormalParameter"
  | typeType => "typeType"
  | variableDeclaratorId => "variableDeclaratorId"

instance : Vocabulary AntlrRule where
  all := [.methodDeclaration, .methodBody, .identifier, .typeTypeOrVoid, .classDeclaration,
    .formalParameters, .formalParameterList, .formalParameter, .lastFormalParameter, .typeType,
    .variableDeclaratorId]
  text := AntlrRule.text

/-- Element names that matter in a srcML tree of a Java source. -/
inductive SrcmlElement where
  | function
  | name
  | type
  | parameter
  | decl
  | index
  | annotation
  | specifier
  | block
  | classElement
  | enumElement
  deriving DecidableEq

/-- The element's name. -/
def SrcmlElement.text : SrcmlElement → String
  | function => "function"
  | name => "name"
  | type => "type"
  | parameter => "parameter"
  | decl => "decl"
  | index => "index"
  | annotation => "annotation"
  | specifier => "specifier"
  | block => "block"
  | classElement => "class"
  | enumElement => "enum"

instance : Vocabulary SrcmlElement where
  all := [.function, .name, .type, .parameter, .decl, .index,
    SrcmlElement.annotation, .specifier, .block, .classElement, .enumElement]
  text := SrcmlElement.text

/-- The text of an ANTLR rule names that rule. -/
theorem AntlrRule.ofText?_text (rule : AntlrRule) :
    Vocabulary.ofText? AntlrRule rule.text = some rule := by
  cases rule <;> decide

/-- The name of a srcML element names that element. -/
theorem SrcmlElement.ofText?_text (element : SrcmlElement) :
    Vocabulary.ofText? SrcmlElement element.text = some element := by
  cases element <;> decide

/-- A label names a srcML element exactly if it is the element's name. -/
theorem SrcmlElement.ofText?_eq_some_iff {label : String} {element : SrcmlElement} :
    Vocabulary.ofText? SrcmlElement label = some element ↔ label = element.text := by
  constructor
  · intro h
    rw [Vocabulary.ofText?] at h
    have same := List.find?_some h
    exact (eq_of_beq same).symm
  · rintro rfl
    exact SrcmlElement.ofText?_text element

end MethodCorpus
