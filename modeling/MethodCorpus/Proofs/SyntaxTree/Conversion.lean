import MethodCorpus.Corpus.Source
import MethodCorpus.Proofs.SyntaxTree.Signatures
import MethodCorpus.Proofs.Tree.Numbering
import MethodCorpus.SyntaxTree.Conversion

/-!
# The walk enters the markup

Every step of the conversion adds some trees under one row: the row gets their roots as further
children, and their rows go to the end of the table. Steps of this sort can be put one behind the
other and one inside the other, and none of them is ever refused. So the table of a source is that
of its markup, in which every row that stayed without children was sealed.

* `Builder.Enters`: a step adds given trees under a row;
* `Builder.enters_inner`, `Builder.enters_sealed`: a row around what a step adds;
* `SyntaxTree.enters_enter`: a node of the syntax tree adds its markup;
* `SyntaxTree.convert_eq`: the table built on the walk is that of the markup by value;
* `Source.srcmlTree_wellFormed`: it is finished, numbered in pre-order, and comes back from its
  copy.
-/

namespace MethodCorpus

namespace Tree

open RawTree (places rows forestRows)

/-! ## Steps that add trees -/

namespace Builder

/-- Whether a step adds some trees under a row that is there, and is never refused. -/
def Enters (parent : Nat) (trees : List RawTree) (step : Entering) : Prop :=
  ∀ builder : Builder, parent < builder.entries.size → ∃ next : Builder, step builder = .ok next ∧
    next.entries.toList =
      builder.entries.toList.modify parent (·.adoptAll (places builder.entries.size trees)) ++
        forestRows parent builder.entries.size trees

theorem length_forestRows (parent place : Nat) (trees : List RawTree) :
    (forestRows parent place trees).length = RawTree.sizes trees := by
  induction trees generalizing place with
  | nil => rfl
  | cons tree rest ih =>
    rw [forestRows, RawTree.sizes, List.length_append, RawTree.length_rows, ih]

theorem places_append (place : Nat) (trees rest : List RawTree) :
    places place (trees ++ rest) =
      places place trees ++ places (place + RawTree.sizes trees) rest := by
  induction trees generalizing place with
  | nil => rfl
  | cons tree trees ih =>
    rw [List.cons_append, places, places, ih, RawTree.sizes, List.cons_append, Nat.add_assoc]

theorem forestRows_append (parent place : Nat) (trees rest : List RawTree) :
    forestRows parent place (trees ++ rest) =
      forestRows parent place trees ++ forestRows parent (place + RawTree.sizes trees) rest := by
  induction trees generalizing place with
  | nil => rfl
  | cons tree trees ih =>
    rw [List.cons_append, forestRows, forestRows, ih, RawTree.sizes, List.append_assoc,
      Nat.add_assoc]

theorem enters_nil (parent : Nat) : Enters parent [] .ok := by
  intro builder _
  refine ⟨builder, rfl, ?_⟩
  have same : (fun row : Entry => row.adoptAll []) = id := by
    funext row
    rw [Entry.adoptAll, List.append_nil, id]
  rw [places, forestRows, List.append_nil, same, List.modify_id]

/-- Two steps under one row, one behind the other. -/
theorem Enters.comp {parent : Nat} {trees rest : List RawTree} {first second : Entering}
    (enters : Enters parent trees first) (enters' : Enters parent rest second) :
    Enters parent (trees ++ rest) (first >=> second) := by
  intro builder present
  obtain ⟨next, done, table⟩ := enters builder present
  have grown : next.entries.size = builder.entries.size + RawTree.sizes trees := by
    have count := congrArg List.length table
    rwa [List.length_append, List.length_modify, length_forestRows, Array.length_toList,
      Array.length_toList] at count
  obtain ⟨last, done', table'⟩ := enters' next (by omega)
  refine ⟨last, ?_, ?_⟩
  · show (first builder).bind second = _
    rw [done, Except.bind, done']
  · have both : (fun row : Entry => row.adoptAll (places next.entries.size rest)) ∘
        (fun row : Entry => row.adoptAll (places builder.entries.size trees)) =
          fun row : Entry => row.adoptAll (places builder.entries.size (trees ++ rest)) := by
      funext row
      rw [places_append, ← grown]
      simp only [Function.comp_apply, Entry.adoptAll, List.append_assoc]
    rw [table', table, modify_append_left (by rwa [List.length_modify, Array.length_toList]),
      List.modify_modify_eq, both, forestRows_append, grown, List.append_assoc]

/-- Steps for the items of a list, one behind the other. -/
theorem enters_foldlM {α : Type} {parent : Nat} {trees : α → List RawTree}
    {step : Builder → α → Except Fault Builder} {items : List α}
    (each : ∀ item ∈ items, Enters parent (trees item) (step · item)) :
    Enters parent (items.flatMap trees) (items.foldlM step) := by
  induction items with
  | nil => exact enters_nil parent
  | cons item rest ih =>
    have whole : ((item :: rest).foldlM step : Entering) = (step · item) >=> rest.foldlM step := by
      funext builder
      exact List.foldlM_cons
    rw [whole, List.flatMap_cons]
    exact (each item List.mem_cons_self).comp
      (ih fun other h => each other (List.mem_cons_of_mem _ h))

/-- A step for each item of a list that passes a test. -/
theorem enters_filter {α : Type} {parent : Nat} {keep : α → Bool} {tree : α → RawTree}
    {step : α → Entering} {items : List α}
    (each : ∀ item ∈ items, keep item = true → Enters parent [tree item] (step item)) :
    Enters parent ((items.filter keep).map tree)
      (items.foldlM fun builder item => if keep item then step item builder else .ok builder) := by
  have kept : (items.filter keep).map tree =
      items.flatMap fun item => if keep item then [tree item] else [] := by
    clear each
    induction items with
    | nil => rfl
    | cons item rest ih =>
      rw [List.filter_cons, List.flatMap_cons, ← ih]
      split <;> rfl
  rw [kept]
  refine enters_foldlM fun item mem => ?_
  cases passes : keep item with
  | true => exact each item mem passes
  | false => exact enters_nil parent

/-- A row under a row that is there is never refused; it stands at the end. -/
theorem exists_push {builder : Builder} {parent : Nat} (present : parent < builder.entries.size)
    (label : String) (token : Option String) :
    ∃ next : Builder, builder.push (some parent) label token = .ok (builder.entries.size, next) ∧
      next.entries.toList =
        builder.entries.toList.modify parent (·.adopt builder.entries.size) ++
          [⟨label, token, some parent, []⟩] := by
  refine ⟨_, by rw [push, dif_pos present], ?_⟩
  rw [Array.toList_push, Array.toList_modify]

theorem enters_leaf (parent : Nat) (label token : String) :
    Enters parent [.leaf label token] (pushLeaf parent label token) := by
  intro builder present
  obtain ⟨next, pushed, table⟩ := exists_push present label (some token)
  exact ⟨next, by rw [pushLeaf, pushed]; rfl, table⟩

/-! ## Rows around what a step adds -/

/-- What is added under the last row of a table makes that row and what follows the rows of a
tree. -/
theorem Enters.below_last {trees : List RawTree} {step : Entering} {builder : Builder}
    {old : List Entry} {label : String} {parent : Option Nat}
    (enters : Enters old.length trees step)
    (table : builder.entries.toList = old ++ [⟨label, none, parent, []⟩]) :
    ∃ next : Builder, step builder = .ok next ∧
      next.entries.toList = old ++ (RawTree.inner label trees).rows parent old.length := by
  have size : builder.entries.size = old.length + 1 := by
    have count := congrArg List.length table
    rwa [List.length_append, List.length_singleton, Array.length_toList] at count
  obtain ⟨next, done, table'⟩ := enters builder (by omega)
  refine ⟨next, done, ?_⟩
  rw [table', table, size, modify_append_last, RawTree.inner, rows, List.append_assoc]
  rfl

theorem hasChildren_eq {builder : Builder} {old rest : List Entry} {row : Entry}
    (table : builder.entries.toList = old ++ row :: rest) :
    builder.hasChildren old.length = !row.children.isEmpty := by
  have found : builder.entries[old.length]? = some row := by
    rw [← Array.getElem?_toList, table, List.getElem?_append_right (Nat.le_refl _), Nat.sub_self,
      List.getElem?_cons_zero]
  rw [hasChildren, found]

/-- A tree whose root is sealed has a token at its root exactly if that has no children. -/
theorem toList_sealRow {builder : Builder} {old : List Entry} {label token : String}
    {parent : Option Nat} {trees : List RawTree}
    (table : builder.entries.toList = old ++ (RawTree.inner label trees).rows parent old.length) :
    (builder.sealRow old.length token).entries.toList =
      old ++ (RawTree.sealed label token trees).rows parent old.length := by
  have children := hasChildren_eq table
  rw [sealRow, children]
  cases trees with
  | nil =>
    show (builder.entries.modify old.length (·.withToken token)).toList = _
    rw [Array.toList_modify, table]
    exact modify_append_last old _ _
  | cons tree rest => exact table

theorem enters_inner {label : String} {trees : List RawTree} {inside : Nat → Entering}
    (below : ∀ place, Enters place trees (inside place)) (parent : Nat) :
    Enters parent [.inner label trees] (pushInner parent label inside) := by
  intro builder present
  obtain ⟨middle, pushed, table⟩ := exists_push present label none
  have old : (builder.entries.toList.modify parent (·.adopt builder.entries.size)).length =
      builder.entries.size := by
    rw [List.length_modify, Array.length_toList]
  obtain ⟨next, done, table'⟩ := (below _).below_last table
  rw [old] at done table'
  refine ⟨next, by rw [pushInner, pushed]; exact done, ?_⟩
  rw [table', forestRows, forestRows, List.append_nil]
  rfl

theorem enters_sealed {label token : String} {trees : List RawTree} {inside : Nat → Entering}
    (below : ∀ place, Enters place trees (inside place)) (parent : Nat) :
    Enters parent [.sealed label token trees] (pushSealed parent label token inside) := by
  intro builder present
  obtain ⟨middle, pushed, table⟩ := exists_push present label none
  have old : (builder.entries.toList.modify parent (·.adopt builder.entries.size)).length =
      builder.entries.size := by
    rw [List.length_modify, Array.length_toList]
  obtain ⟨next, done, table'⟩ := (below _).below_last table
  have sealed : (next.sealRow _ token).entries.toList = _ := toList_sealRow table'
  rw [old] at done sealed
  refine ⟨next.sealRow builder.entries.size token, ?_, ?_⟩
  · rw [pushSealed, pushInner, pushed]
    show (inside _ middle).bind _ = _
    rw [done, Except.bind]
  · rw [sealed, forestRows, forestRows, List.append_nil]
    rfl

end Builder

end Tree

/-! ## Signatures -/

namespace SyntaxTree

open MethodCorpus.Tree (Builder Entering Fault)
open MethodCorpus.Tree.Builder

theorem enters_name (name : Option SyntaxTree) (parent : Nat) :
    Enters parent (nameMarkup name) (enterName name parent) := by
  cases name with
  | none => exact enters_nil parent
  | some name => exact enters_leaf parent _ _

theorem enters_specifiers (modifiers : Option SyntaxTree) (parent : Nat) :
    Enters parent (specifierMarkup modifiers) (enterSpecifiers modifiers parent) := by
  cases modifiers with
  | none => exact enters_nil parent
  | some modifiers =>
    rw [specifierMarkup, Option.toList_some, List.flatMap_singleton]
    exact enters_filter fun child _ _ => enters_leaf parent _ _

theorem enters_annotations (modifiers : Option SyntaxTree) (parent : Nat) :
    Enters parent (annotationMarkup modifiers) (enterAnnotations modifiers parent) := by
  cases modifiers with
  | none => exact enters_nil parent
  | some modifiers =>
    rw [annotationMarkup, Option.toList_some, List.flatMap_singleton]
    exact enters_filter fun mark _ _ => enters_sealed (enters_name (mark.child? .name)) parent

theorem enters_typeName (elementText : String) (brackets parent : Nat) :
    Enters parent [typeName elementText brackets] (enterTypeName elementText brackets parent) := by
  rw [typeName, enterTypeName]
  split
  · exact enters_leaf parent _ _
  · refine enters_inner (fun name => ?_) parent
    have indexes : List.replicate brackets (elementLeaf .index "[]") =
        (List.range brackets).flatMap fun _ => [elementLeaf .index "[]"] := by
      rw [← List.map_eq_flatMap, List.map_const', List.length_range]
    rw [indexes]
    exact (enters_leaf name _ _).comp (enters_foldlM fun _ _ => enters_leaf name _ _)

theorem enters_declaredType (declaration : SyntaxTree) (parent : Nat) :
    Enters parent declaration.typeMarkup (declaration.enterDeclaredType parent) := by
  rw [typeMarkup]
  unfold enterDeclaredType
  cases declaration.child? .type with
  | none => exact enters_nil parent
  | some type => exact enters_typeName _ _ parent

/-! ## Parameters -/

/-- Enters the type of a variable parameter list. -/
def enterSpreadType (type : Option SyntaxTree) (parent : Nat) : Entering :=
  match type with
  | none => .ok
  | some type => pushLeaf parent SrcmlElement.name.text (type.text ++ "...")

/-- The name that is told by the last declarator among some parts, or else the one told before. -/
def lastName (name : Option SyntaxTree) (parts : List SyntaxTree) : Option SyntaxTree :=
  ((parts.filter (·.kind == "variable_declarator")).getLast?.map (·.child? .name)).getD name

theorem lastName_declarator {part : SyntaxTree} (declarator : part.kind = "variable_declarator")
    (name : Option SyntaxTree) (rest : List SyntaxTree) :
    lastName name (part :: rest) = lastName (part.child? .name) rest := by
  rw [lastName, List.filter_cons_of_pos (by simpa using declarator), List.getLast?_cons, lastName]
  cases (rest.filter (·.kind == "variable_declarator")).getLast? <;> rfl

theorem lastName_other {part : SyntaxTree} (other : part.kind ≠ "variable_declarator")
    (name : Option SyntaxTree) (rest : List SyntaxTree) :
    lastName name (part :: rest) = lastName name rest := by
  rw [lastName, List.filter_cons_of_neg (by simpa using other), lastName]

/-- Whether a part of a variable parameter list is its type. -/
def isSpreadType (part : SyntaxTree) : Bool :=
  part.kind != "modifiers" && part.kind != "variable_declarator"

/-- Going through the parts of a variable parameter list enters the first type, unless there was one
before, and tells the name of the last declarator. -/
theorem enterSpread_eq (type : Nat) (parts : List SyntaxTree) (name : Option SyntaxTree)
    (typed : Bool) (builder : Builder) :
    enterSpread type parts name typed builder =
      (enterSpreadType (if typed then none else parts.find? isSpreadType) type builder).map
        (lastName name parts, ·) := by
  induction parts generalizing name typed builder with
  | nil => cases typed <;> rfl
  | cons part rest ih =>
    rw [enterSpread, List.find?_cons]
    by_cases modifiers : part.kind = "modifiers"
    · have other : part.kind ≠ "variable_declarator" := by
        rw [modifiers]
        decide
      have noType : isSpreadType part = false := by simp [isSpreadType, modifiers]
      rw [if_pos (by simpa using modifiers), ih, noType, lastName_other other]
    rw [if_neg (by simpa using modifiers)]
    by_cases declarator : part.kind = "variable_declarator"
    · have noType : isSpreadType part = false := by simp [isSpreadType, declarator]
      rw [if_pos (by simpa using declarator), ih, noType, lastName_declarator declarator]
    have isType : isSpreadType part = true := by simp [isSpreadType, modifiers, declarator]
    rw [if_neg (by simpa using declarator), isType, lastName_other declarator]
    cases typed with
    | true => exact ih name true builder
    | false =>
      rw [if_neg Bool.false_ne_true]
      show _ = (pushLeaf type _ _ builder).map _
      cases pushLeaf type SrcmlElement.name.text (part.text ++ "...") builder with
      | error fault => rfl
      | ok next => exact ih name true next

/-- Enters the name of the type of a parameter. -/
def enterSlotType (slot : SyntaxTree) (type : Nat) : Entering :=
  if slot.isSpread then enterSpreadType slot.spreadType? type else slot.enterDeclaredType type

theorem enters_slotType (slot : SyntaxTree) (parent : Nat) :
    Enters parent slot.parameterTypeNames (slot.enterSlotType parent) := by
  rw [parameterTypeNames, enterSlotType]
  split
  · cases slot.spreadType? with
    | none => exact enters_nil parent
    | some type => exact enters_leaf parent _ _
  · exact enters_declaredType slot parent

theorem enterParameterType_eq (slot : SyntaxTree) (type : Nat) (builder : Builder) :
    slot.enterParameterType type builder =
      (slot.enterSlotType type builder).map (slot.parameterName?, ·) := by
  rw [enterParameterType, enterSlotType, parameterName?, isSpread]
  split
  · rw [enterSpread_eq, if_neg Bool.false_ne_true]
    have name : lastName none slot.namedChildren =
        slot.spreadDeclarator?.bind (·.child? .name) := by
      rw [lastName, spreadDeclarator?]
      cases (slot.namedChildren.filter (·.kind == "variable_declarator")).getLast? <;> rfl
    rw [name]
    rfl
  · rfl

/-- The declaration of a parameter is entered as a type and a name. -/
theorem enterDeclaration_eq (slot : SyntaxTree) (decl : Nat) :
    slot.enterDeclaration decl =
      pushSealed decl SrcmlElement.type.text "" (fun type =>
        enterSpecifiers slot.modifiers? type >=> slot.enterSlotType type) >=>
      enterName slot.parameterName? decl := by
  funext builder
  show slot.enterDeclaration decl builder = (pushSealed _ _ _ _ builder).bind _
  rw [enterDeclaration, pushSealed, pushInner]
  cases builder.push (some decl) SrcmlElement.type.text none with
  | error fault => rfl
  | ok pushed =>
    obtain ⟨type, builder⟩ := pushed
    show (enterSpecifiers slot.modifiers? type builder).bind _ =
      (((enterSpecifiers slot.modifiers? type builder).bind _).bind _).bind _
    cases enterSpecifiers slot.modifiers? type builder with
    | error fault => rfl
    | ok builder =>
      show (slot.enterParameterType type builder).bind _ =
        ((slot.enterSlotType type builder).bind _).bind _
      rw [enterParameterType_eq]
      cases slot.enterSlotType type builder <;> rfl

theorem enters_parameter (slot : SyntaxTree) (parent : Nat) :
    Enters parent [slot.parameterMarkup] (slot.enterParameter parent) := by
  rw [parameterMarkup_eq]
  refine enters_inner (fun parameter => enters_inner (fun decl => ?_) parameter) parent
  rw [enterDeclaration_eq]
  have type (place : Nat) := (enters_specifiers slot.modifiers? place).comp
    (enters_slotType slot place)
  exact (enters_sealed type decl).comp (enters_name slot.parameterName? decl)

theorem enters_parameterList (method : SyntaxTree) (parent : Nat) :
    Enters parent method.parameterListMarkup (method.enterParameterList parent) := by
  rw [parameterListMarkup]
  unfold enterParameterList
  cases method.child? .parameters with
  | none => exact enters_nil parent
  | some parameters =>
    exact enters_sealed
      (fun list => enters_filter fun slot _ _ => enters_parameter slot list) parent

theorem enters_signature (method : SyntaxTree) (parent : Nat) :
    Enters parent method.signatureMarkup (method.enterSignature parent) := by
  have annotations := enters_annotations method.modifiers? parent
  have type (place : Nat) := (enters_specifiers method.modifiers? place).comp
    (enters_declaredType method place)
  have name := enters_name (method.child? .name) parent
  exact annotations.comp ((enters_sealed type parent).comp
    (name.comp (enters_parameterList method parent)))

/-! ## Declarations -/

theorem enters_forest {nodes : List SyntaxTree}
    (each : ∀ node ∈ nodes.filter (·.named), ∀ parent,
      Enters parent node.markup (node.enter parent)) (parent : Nat) :
    Enters parent (forestMarkup nodes) (enterForest nodes parent) := by
  induction nodes with
  | nil =>
    rw [forestMarkup]
    exact enters_nil parent
  | cons node rest ih =>
    rw [forestMarkup, enterForest]
    rw [List.filter_cons] at each
    split
    · next named =>
      rw [if_pos named] at each
      exact (each node List.mem_cons_self parent).comp
        (ih fun other mem => each other (List.mem_cons_of_mem _ mem))
    · next unnamed =>
      rw [if_neg unnamed] at each
      exact (enters_nil parent).comp (ih each)

theorem enters_block {node : SyntaxTree}
    (each : ∀ child ∈ node.namedChildren, ∀ parent,
      Enters parent child.markup (child.enter parent)) (parent : Nat) :
    Enters parent [blockMarkup node] (enterBlock node parent) := by
  obtain ⟨kind, named, field, text, children⟩ := node
  rw [blockMarkup, enterBlock]
  exact enters_sealed (enters_forest each) parent

theorem enterBody_eq (accepted : String → Bool) (absent : Entering) (nodes : List SyntaxTree)
    (parent : Nat) :
    enterBody accepted absent nodes parent =
      match nodes.find? (·.field = some .body) with
      | none => absent
      | some body => if accepted body.kind then enterBlock body parent else .ok := by
  induction nodes with
  | nil => rw [enterBody]; rfl
  | cons node rest ih =>
    rw [enterBody]
    by_cases body : node.field = some .body
    · rw [if_pos body, List.find?_cons_of_pos (by simpa using body)]
    · rw [if_neg body, ih, List.find?_cons_of_neg (by simpa using body)]

theorem enter_eq (node : SyntaxTree) (parent : Nat) :
    node.enter parent =
      if node.isMethod then
        pushInner parent SrcmlElement.function.text fun function =>
          node.enterSignature function >=> enterBody (· == "block") .ok node.children function
      else match declarationLabel? node.kind with
        | some label =>
          pushInner parent label fun place =>
            enterName (node.child? .name) place >=>
              enterBody (fun _ => true) (fun builder => .ok (builder.sealRow place node.text))
                node.children place
        | none =>
          if node.kind == "class_body" then
            pushInner parent SrcmlElement.classElement.text (enterBlock node)
          else enterForest node.children parent := by
  obtain ⟨kind, named, field, text, children⟩ := node
  rw [enter]
  rfl

/-- The block of a method is entered if there is one. -/
theorem enters_methodBody {method : SyntaxTree}
    (each : ∀ child ∈ method.block?.toList.flatMap namedChildren, ∀ parent,
      Enters parent child.markup (child.enter parent)) (parent : Nat) :
    Enters parent (method.block?.toList.map blockMarkup)
      (enterBody (· == "block") .ok method.children parent) := by
  rw [enterBody_eq]
  rw [block?, child?] at each ⊢
  cases found : method.children.find? (·.field = some .body) with
  | none => exact enters_nil parent
  | some body =>
    rw [found, Option.filter_some] at each
    rw [Option.filter_some]
    dsimp only
    split
    · next accepted =>
      rw [if_pos accepted, Option.toList_some, List.flatMap_singleton] at each
      exact enters_block each parent
    · exact enters_nil parent

/-- A declaration without a body is sealed; with a body it has a block. -/
theorem enters_declaration {node : SyntaxTree} {label : String}
    (each : ∀ child ∈ (node.child? .body).toList.flatMap namedChildren, ∀ parent,
      Enters parent child.markup (child.enter parent)) (parent : Nat) :
    Enters parent
      [.sealed label node.text
        (nameMarkup (node.child? .name) ++ (node.child? .body).toList.map blockMarkup)]
      (pushInner parent label fun place =>
        enterName (node.child? .name) place >=>
          enterBody (fun _ => true) (fun builder => .ok (builder.sealRow place node.text))
            node.children place) := by
  simp only [enterBody_eq]
  have same : node.children.find? (·.field = some .body) = node.child? .body := rfl
  rw [same]
  cases found : node.child? .body with
  | none =>
    rw [Option.toList_none, List.map_nil, List.append_nil]
    exact enters_sealed (enters_name (node.child? .name)) parent
  | some body =>
    rw [found, Option.toList_some, List.flatMap_singleton] at each
    have filled : RawTree.sealed label node.text
        (nameMarkup (node.child? .name) ++ (some body).toList.map blockMarkup) =
          .inner label (nameMarkup (node.child? .name) ++ [blockMarkup body]) := by
      rw [RawTree.sealed, if_neg (by simp)]
      rfl
    rw [filled]
    exact enters_inner (fun place => (enters_name _ place).comp (enters_block each place)) parent

/-- A node adds its markup. -/
theorem enters_enter (node : SyntaxTree) :
    ∀ parent, Enters parent node.markup (node.enter parent) := by
  induction node using insideInduction with
  | step node ih =>
    intro parent
    rw [inside, interior?] at ih
    rw [markup_eq, enter_eq]
    by_cases method : node.isMethod = true
    · rw [if_pos method] at ih
      rw [if_pos method, if_pos method]
      exact enters_inner (fun function =>
        (enters_signature node function).comp (enters_methodBody ih function)) parent
    rw [if_neg method] at ih
    rw [if_neg method, if_neg method]
    cases labelled : declarationLabel? node.kind with
    | some label =>
      rw [if_pos (mem_declarationKinds labelled)] at ih
      exact enters_declaration ih parent
    | none =>
      rw [if_neg (declarationLabel?_eq_none_iff.1 labelled), Option.toList_some,
        List.flatMap_singleton] at ih
      dsimp only
      split
      · exact enters_inner (enters_block ih) parent
      · rw [namedChildren, ← forestMarkup_eq]
        exact enters_forest ih parent

/-! ## The whole source -/

/-- A table is told by its rows. -/
theorem Builder.eq_of_toList {builder other : Builder}
    (same : builder.entries.toList = other.entries.toList) : builder = other := by
  obtain ⟨entries, linked⟩ := builder
  obtain ⟨entries', linked'⟩ := other
  obtain rfl := Array.toList_inj.1 same
  rfl

/-- On the walk the table of the markup is built. -/
theorem convert_eq (root : SyntaxTree) : root.convert = Tree.ofRaw root.unitMarkup := by
  obtain ⟨planted, grown, rows⟩ := plant_root root.unitMarkup
  have forest : Enters ([] : List Tree.Entry).length (forestMarkup root.children)
      (enterForest root.children 0) := enters_forest (fun node _ => enters_enter node) 0
  have first : (Builder.mk #[⟨"unit", none, none, []⟩] (.root "unit" none)).entries.toList =
      [] ++ [⟨"unit", none, none, []⟩] := rfl
  obtain ⟨next, done, table⟩ := forest.below_last first
  have sealed : (next.sealRow 0 "").entries.toList = root.unitMarkup.rows none 0 :=
    toList_sealRow table
  have pushed : Builder.empty.push none "unit" none =
      .ok (0, ⟨#[⟨"unit", none, none, []⟩], .root "unit" none⟩) := rfl
  rw [convert, pushed, Tree.ofRaw, grown, ← Builder.eq_of_toList (sealed.trans rows.symm)]
  show (enterForest root.children 0 _).bind _ = _
  rw [done]
  rfl

end SyntaxTree

/-- Whatever syntax tree a text has, no row of the conversion is refused and its table is finished;
it is the tree of the source. Exactly the leaves carry a token, the walk of the root meets the
places in order, and the tree comes back from its copy, place by place. -/
theorem Source.srcmlTree_wellFormed (parser : String → SyntaxTree) (text : String) :
    ∃ tree : Tree, (parser text).convert = .ok tree ∧ srcmlTree parser text = .ok tree ∧
      (∀ node : Tree.Node tree, node.entry.token.isSome = true ↔ node.children = []) ∧
      tree.root.preOrder.map Tree.Node.index = List.range tree.size ∧
      Tree.ofRaw tree.root.toRaw = .ok tree := by
  obtain ⟨tree, made, copy⟩ := Tree.exists_of_sound
    (SyntaxTree.sound_unitMarkup (parser text))
  refine ⟨tree, ?_, made, fun node => ?_, Tree.map_index_preOrder_root made, ?_⟩
  · rw [SyntaxTree.convert_eq, made]
  · rw [Tree.Node.isSome_token_iff, Tree.Node.isLeaf_iff]
  · rw [copy, made]

end MethodCorpus
