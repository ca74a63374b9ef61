import MethodCorpus.SyntaxTree.Markup
import MethodCorpus.Tree.Table

/-!
# Entering markup on the walk

The markup of a source need not be made by value first. On the walk down the syntax tree a row is
added for each node of the markup as it is met: first the row without a token, then whatever stands
below it, and if nothing does the row is sealed with a token at last. All rows go to the end of one
table, so a row that is sealed may stand far in front of the last one.

A row can be refused, and so can the whole table at the end; `convert` would then fail.
-/

namespace MethodCorpus

namespace Tree

/-- What adds rows to a table. -/
abbrev Entering := Builder → Except Fault Builder

namespace Builder

/-- Adds a row with a token under a row. -/
def pushLeaf (parent : Nat) (label token : String) : Entering := fun builder =>
  (builder.push (some parent) label (some token)).map Prod.snd

/-- Adds a row without a token under a row, and then what stands below it. -/
def pushInner (parent : Nat) (label : String) (inside : Nat → Entering) : Entering := fun builder =>
  match builder.push (some parent) label none with
  | .error fault => .error fault
  | .ok (place, builder) => inside place builder

/-- Gives the row at a place a token unless it has children. -/
def sealRow (place : Nat) (token : String) (builder : Builder) : Builder :=
  if builder.hasChildren place then builder else builder.setToken place token

/-- Adds a row under a row, then what stands below it, and seals the row. -/
def pushSealed (parent : Nat) (label token : String) (inside : Nat → Entering) : Entering :=
  pushInner parent label fun place => inside place >=> fun builder =>
    .ok (builder.sealRow place token)

end Builder

end Tree

namespace SyntaxTree

open MethodCorpus.Tree (Builder Entering Fault)
open MethodCorpus.Tree.Builder (pushLeaf pushInner pushSealed sealRow)

/-! ## Signatures -/

/-- Enters the name of a declaration, if it has one. -/
def enterName (name : Option SyntaxTree) (parent : Nat) : Entering :=
  match name with
  | none => .ok
  | some name => pushLeaf parent SrcmlElement.name.text name.text

/-- Enters a specifier for every keyword among the modifiers. -/
def enterSpecifiers (modifiers : Option SyntaxTree) (parent : Nat) : Entering :=
  match modifiers with
  | none => .ok
  | some modifiers => modifiers.children.foldlM fun builder child =>
    if !child.named then pushLeaf parent SrcmlElement.specifier.text child.text builder
    else .ok builder

/-- Enters an annotation. -/
def enterAnnotation (mark : SyntaxTree) (parent : Nat) : Entering :=
  pushSealed parent SrcmlElement.annotation.text mark.text (enterName (mark.child? .name))

/-- Enters an annotation for every annotation among the modifiers. -/
def enterAnnotations (modifiers : Option SyntaxTree) (parent : Nat) : Entering :=
  match modifiers with
  | none => .ok
  | some modifiers => modifiers.namedChildren.foldlM fun builder child =>
    if child.kind == "marker_annotation" || child.kind == "annotation" then
      enterAnnotation child parent builder
    else .ok builder

/-- Enters the name of a type, with an index for each pair of brackets. -/
def enterTypeName (elementText : String) (brackets parent : Nat) : Entering :=
  if brackets = 0 then pushLeaf parent SrcmlElement.name.text elementText
  else pushInner parent SrcmlElement.name.text fun name =>
    pushLeaf name SrcmlElement.name.text elementText >=>
      (List.range brackets).foldlM fun builder _ =>
        pushLeaf name SrcmlElement.index.text "[]" builder

/-- Enters the name of the type of a declaration, if it has a type. -/
def enterDeclaredType (declaration : SyntaxTree) (parent : Nat) : Entering :=
  match declaration.child? .type with
  | none => .ok
  | some type => enterTypeName type.elementType.text (typeBrackets type declaration) parent

/-- Goes through the parts of a variable parameter list. The first part that is neither modifiers
nor a declarator is entered as the type; the last declarator tells the name. -/
def enterSpread (type : Nat) : List SyntaxTree → Option SyntaxTree → Bool → Builder →
    Except Fault (Option SyntaxTree × Builder)
  | [], name, _, builder => .ok (name, builder)
  | part :: rest, name, typed, builder =>
    if part.kind == "modifiers" then enterSpread type rest name typed builder
    else if part.kind == "variable_declarator" then
      enterSpread type rest (part.child? .name) typed builder
    else if typed then enterSpread type rest name typed builder
    else
      match pushLeaf type SrcmlElement.name.text (part.text ++ "...") builder with
      | .error fault => .error fault
      | .ok builder => enterSpread type rest name true builder

/-- Enters the name of the type of a parameter, and tells the name of the parameter. -/
def enterParameterType (slot : SyntaxTree) (type : Nat) (builder : Builder) :
    Except Fault (Option SyntaxTree × Builder) :=
  if slot.kind == "spread_parameter" then enterSpread type slot.namedChildren none false builder
  else (slot.enterDeclaredType type builder).map (slot.child? .name, ·)

/-- Enters the declaration of a parameter. -/
def enterDeclaration (slot : SyntaxTree) (decl : Nat) : Entering := fun builder => do
  let (type, builder) ← builder.push (some decl) SrcmlElement.type.text none
  let builder ← enterSpecifiers slot.modifiers? type builder
  let (name, builder) ← slot.enterParameterType type builder
  enterName name decl (builder.sealRow type "")

/-- Enters a parameter. -/
def enterParameter (slot : SyntaxTree) (list : Nat) : Entering :=
  pushInner list SrcmlElement.parameter.text fun parameter =>
    pushInner parameter SrcmlElement.decl.text slot.enterDeclaration

/-- Enters the parameters of a list. -/
def enterParameters (parameters : SyntaxTree) (list : Nat) : Entering :=
  parameters.namedChildren.foldlM fun builder child =>
    if child.isParameter then child.enterParameter list builder else .ok builder

/-- Enters the parameter list of a method, if it has one. -/
def enterParameterList (method : SyntaxTree) (function : Nat) : Entering :=
  match method.child? .parameters with
  | none => .ok
  | some parameters =>
    pushSealed function "parameter_list" parameters.text parameters.enterParameters

/-- Enters the parts of a method in front of its body. -/
def enterSignature (method : SyntaxTree) (function : Nat) : Entering :=
  enterAnnotations method.modifiers? function >=>
    pushSealed function SrcmlElement.type.text "" (fun type =>
      enterSpecifiers method.modifiers? type >=> method.enterDeclaredType type) >=>
    enterName (method.child? .name) function >=>
    method.enterParameterList function

/-! ## Declarations -/

mutual

/-- Enters the declarations at and below a node. -/
def enter : SyntaxTree → Nat → Entering
  | ⟨kind, named, field, text, children⟩, parent =>
    let node : SyntaxTree := ⟨kind, named, field, text, children⟩
    if kind == "method_declaration" then
      pushInner parent SrcmlElement.function.text fun function =>
        node.enterSignature function >=> enterBody (· == "block") .ok children function
    else match declarationLabel? kind with
      | some label =>
        pushInner parent label fun place =>
          enterName (node.child? .name) place >=>
            enterBody (fun _ => true) (fun builder => .ok (builder.sealRow place text)) children
              place
      | none =>
        if kind == "class_body" then
          pushInner parent SrcmlElement.classElement.text fun place =>
            pushSealed place SrcmlElement.block.text text (enterForest children)
        else enterForest children parent

/-- Enters the named nodes of a list. -/
def enterForest : List SyntaxTree → Nat → Entering
  | [], _ => .ok
  | node :: rest, parent =>
    (if node.named then node.enter parent else .ok) >=> enterForest rest parent

/-- Enters the block of the body among the children of a declaration, if it is of an accepted kind.
Without a body, what is to be done instead is done. -/
def enterBody (accepted : String → Bool) (absent : Entering) : List SyntaxTree → Nat → Entering
  | [], _ => absent
  | node :: rest, parent =>
    if node.field = some .body then
      if accepted node.kind then enterBlock node parent else .ok
    else enterBody accepted absent rest parent

/-- Enters the block of a body. -/
def enterBlock : SyntaxTree → Nat → Entering
  | ⟨_, _, _, text, children⟩, parent =>
    pushSealed parent SrcmlElement.block.text text (enterForest children)

end

/-- The table of a whole source, built on the walk. -/
def convert (root : SyntaxTree) : Except Fault Tree := do
  let (unit, builder) ← Builder.empty.push none "unit" none
  let builder ← enterForest root.children unit builder
  (builder.sealRow unit "").finish

end SyntaxTree

end MethodCorpus
