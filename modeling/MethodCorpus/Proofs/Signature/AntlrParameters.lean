import MethodCorpus.Proofs.Signature.AntlrReading

/-!
# Parameter lists of ANTLR trees

The grammar's parameter list has a child for every parameter and for every comma between them, and a
list of one parameter is collapsed into that parameter. Read from its slots a list is all or nothing:
a slot without a name leaves no signature at all. Whether a list of one was collapsed cannot be told
from its parameters.

* `SlotsOf`, `slotsOf_iff`: the slots of a method, told by its parameter list;
* `Declares`, `Refusal`, `parameter_cases`: a slot declares a parameter or is refused;
* `result_cases`: a method is read exactly if all its slots are;
* `slots_collapsed`, `slots_uncollapsed`: the one slot of a list of one parameter;
* `parameters_of_slots`: what is read of a parameter list, collapsed or not;
* `parameters_of_second_list`: a list that does not count.
-/

namespace MethodCorpus.Signature.Antlr

open MethodCorpus.Tree

variable {tree tree' : Tree} {method slot : Node tree} {method' : Node tree'}

/-! ## Slots -/

/-- Whether a segment of a label names a single parameter. -/
def IsSingle (segment : String) : Prop :=
  segment = AntlrRule.formalParameter.text ∨ segment = AntlrRule.lastFormalParameter.text

instance (segment : String) : Decidable (IsSingle segment) :=
  inferInstanceAs (Decidable (_ ∨ _))

theorem any_parameterRules_iff {segment : String} :
    parameterRules.any (Vocabulary.text · == segment) = true ↔ IsSingle segment := by
  simp only [parameterRules, List.any_cons, List.any_nil, Bool.or_false, Bool.or_eq_true,
    beq_iff_eq, IsSingle, eq_comm (b := segment)]
  exact Iff.rfl

/-- Whether a node is the parameter list of a method. Where there are several nodes of a label, the
first one counts. -/
def HasList (method list : Node tree) : Prop :=
  ∃ brackets, method.child? AntlrRule.formalParameters = some brackets ∧
    brackets.child? AntlrRule.formalParameterList = some list

/-- The slots of a method: none without a parameter list; the list itself if it is a single
parameter; else those of its children that are. -/
inductive SlotsOf (method : Node tree) : List (Node tree) → Prop
  | noList : (∀ list, ¬ HasList method list) → SlotsOf method []
  | collapsed {list : Node tree} : HasList method list → IsSingle list.lastLabel →
      SlotsOf method [list]
  | listed {list : Node tree} : HasList method list → ¬ IsSingle list.lastLabel →
      SlotsOf method (list.children.filter fun child => IsSingle child.firstLabel)

theorem hasList_iff {list : Node tree} :
    HasList method list ↔ (method.child? AntlrRule.formalParameters).bind
      (·.child? AntlrRule.formalParameterList) = some list :=
  Option.bind_eq_some_iff.symm

theorem exists_hasList_of_toRaw {copy : RawTree}
    (h : (method.toRaw.child? AntlrRule.formalParameters).bind
      (·.child? AntlrRule.formalParameterList) = some copy) :
    ∃ list, HasList method list ∧ list.toRaw = copy := by
  rw [← Node.map_toRaw_grandchild?, Option.map_eq_some_iff] at h
  obtain ⟨list, found, same⟩ := h
  exact ⟨list, hasList_iff.2 found, same⟩

theorem slots_of_hasList {list : Node tree} (h : HasList method list) :
    slots method = if IsSingle list.lastLabel then [list]
      else list.children.filter fun child => IsSingle child.firstLabel := by
  have single : ∀ child : Node tree, child.firstLabelIn parameterRules =
      decide (IsSingle child.firstLabel) := fun child => by
    rw [Bool.eq_iff_iff, decide_eq_true_iff]
    exact any_parameterRules_iff
  rw [slots, hasList_iff.1 h, funext single]
  exact if_congr any_parameterRules_iff rfl rfl

/-- The slots that are read are those that the parameter list tells, and no others. -/
theorem slotsOf_iff {nodes : List (Node tree)} : SlotsOf method nodes ↔ nodes = slots method := by
  constructor
  · rintro (none | ⟨h, single⟩ | ⟨h, many⟩)
    · have missing := Option.eq_none_iff_forall_ne_some.2 fun list found =>
        none list (hasList_iff.2 found)
      rw [slots, missing]
    · rw [slots_of_hasList h, if_pos single]
    · rw [slots_of_hasList h, if_neg many]
  · rintro rfl
    cases found : (method.child? AntlrRule.formalParameters).bind
        (·.child? AntlrRule.formalParameterList) with
    | none =>
      rw [slots, found]
      refine .noList fun list h => ?_
      rw [hasList_iff.1 h] at found
      cases found
    | some list =>
      have h := hasList_iff.2 found
      rw [slots_of_hasList h]
      split
      · next single => exact .collapsed h single
      · next many => exact .listed h many

/-! ## One slot -/

/-- Whether a slot has a name. -/
def Named (slot : Node tree) : Prop :=
  ∃ declarator, slot.child? AntlrRule.variableDeclaratorId = some declarator ∧
    declarator.isLeaf = true

/-- Whether a parameter has the name of a slot, and the text of its type if it has one. -/
def Declares (slot : Node tree) (parameter : Parameter) : Prop :=
  ∃ declarator, slot.child? AntlrRule.variableDeclaratorId = some declarator ∧
    declarator.token? = some parameter.name ∧
    parameter.type =
      (slot.child? AntlrRule.typeType).map fun type => String.join type.leafTokens

/-- What a slot lacks that declares no parameter. -/
inductive Refusal (slot : Node tree) : Error → Prop
  | missing : slot.child? AntlrRule.variableDeclaratorId = none →
      Refusal slot (.missingParameterName slot.label)
  | inner {declarator : Node tree} :
      slot.child? AntlrRule.variableDeclaratorId = some declarator → declarator.isLeaf = false →
      Refusal slot (.notALeaf declarator.label)

/-- A slot with a name is read as the parameter it declares, and one without is refused. -/
theorem parameter_cases (slot : Node tree) :
    (∃ declared, Named slot ∧ Declares slot declared ∧ parameter slot = .ok declared) ∨
      ∃ error, ¬ Named slot ∧ Refusal slot error ∧ parameter slot = .error error := by
  rw [parameter]
  cases found : slot.child? AntlrRule.variableDeclaratorId with
  | none =>
    refine .inr ⟨_, ?_, .missing found, rfl⟩
    rintro ⟨declarator, there, -⟩
    rw [found] at there
    cases there
  | some declarator =>
    dsimp only
    cases read : declarator.token with
    | ok token =>
      have named : declarator.token? = some token := Node.token?_eq_some_iff.2 read
      exact .inl ⟨_, ⟨declarator, found, (Node.isSome_token?_iff _).1 (by rw [named]; rfl)⟩,
        ⟨declarator, found, named, rfl⟩, rfl⟩
    | error error =>
      have inner : declarator.isLeaf = false := by
        rw [← Bool.not_eq_true, ← Node.isSome_token?_iff, Node.token?, read]
        exact Bool.false_ne_true
      obtain rfl := Node.eq_of_token_eq_error read
      refine .inr ⟨_, ?_, .inner found inner, rfl⟩
      rintro ⟨other, there, isLeaf⟩
      obtain rfl := Option.some.inj (found.symm.trans there)
      rw [inner] at isLeaf
      cases isLeaf

/-! ## The list -/

/-- A method is read exactly if all its slots are. -/
theorem result_cases (method : Node tree) (filePath : String) :
    (∃ signature list, (read method filePath).result = .ok signature ∧
        signature.parameters = some list ∧ (slots method).mapM parameter = .ok list) ∨
      ∃ error, (read method filePath).result = .error error ∧
        (slots method).mapM parameter = .error error := by
  rw [read]
  dsimp only
  cases (slots method).mapM parameter with
  | ok list => exact .inl ⟨_, list, rfl, rfl, rfl⟩
  | error error => exact .inr ⟨error, rfl, rfl⟩

/-- What is read of a method whose slots are. -/
theorem exists_read_of_mapM {list : List Parameter} (h : (slots method).mapM parameter = .ok list)
    (filePath : String) :
    ∃ signature, (Antlr.read method filePath).result = .ok signature ∧
      signature.parameters = some list := by
  rcases result_cases method filePath with ⟨signature, _, ok, listed, same⟩ | ⟨_, -, failed⟩
  · obtain rfl := Except.ok.inj (h.symm.trans same)
    exact ⟨signature, ok, listed⟩
  · rw [h] at failed
    cases failed

theorem named_of_parameter {declared : Parameter} (h : parameter slot = .ok declared) :
    Named slot ∧ Declares slot declared := by
  rcases parameter_cases slot with ⟨other, named, declares, ok⟩ | ⟨error, -, -, failed⟩
  · obtain rfl := Except.ok.inj (ok.symm.trans h)
    exact ⟨named, declares⟩
  · rw [failed] at h
    cases h

theorem refusal_of_parameter {error : Error} (h : parameter slot = .error error) :
    ¬ Named slot ∧ Refusal slot error := by
  rcases parameter_cases slot with ⟨declared, -, -, ok⟩ | ⟨other, bare, refusal, failed⟩
  · rw [ok] at h
    cases h
  · obtain rfl := Except.error.inj (failed.symm.trans h)
    exact ⟨bare, refusal⟩

/-- What is read of some slots: a parameter for each if all have a name, and else the error of the
first one that has none. -/
inductive ListReading (slots : List (Node tree)) : Except Error (Signature tree) → Prop
  | read {signature : Signature tree} {list : List Parameter} : (∀ slot ∈ slots, Named slot) →
      signature.parameters = some list → List.Forall₂ Declares slots list →
      ListReading slots (.ok signature)
  | refused {before after : List (Node tree)} {slot : Node tree} {error : Error} :
      slots = before ++ slot :: after → (∀ other ∈ before, Named other) → ¬ Named slot →
      Refusal slot error → ListReading slots (.error error)

theorem listReading (method : Node tree) (filePath : String) :
    ListReading (slots method) (Antlr.read method filePath).result := by
  rcases result_cases method filePath with ⟨signature, list, ok, listed, all⟩ | ⟨error, failed, bad⟩
  · rw [ok]
    refine .read (fun slot mem => ?_) listed
      ((mapM_eq_ok_iff.1 all).imp fun slot declared read => (named_of_parameter read).2)
    obtain ⟨declared, read⟩ := exists_of_mapM_eq_ok all mem
    exact (named_of_parameter read).1
  · rw [failed]
    obtain ⟨before, slot, after, whole, good, bad⟩ := mapM_eq_error_iff.1 bad
    obtain ⟨bare, refusal⟩ := refusal_of_parameter bad
    refine .refused whole (fun other mem => ?_) bare refusal
    obtain ⟨declared, read⟩ := good other mem
    exact (named_of_parameter read).1

/-! ## Lists of one parameter -/

/-- The label of a list that is collapsed into its only parameter. -/
def collapsedLabel (rule : AntlrRule) : String :=
  AntlrRule.formalParameterList.text ++ "|" ++ rule.text

/-- A collapsed list is its own slot. -/
theorem slots_collapsed {rule : AntlrRule} (single : rule ∈ parameterRules) {list : Node tree}
    (h : HasList method list) (label : list.label = collapsedLabel rule) :
    slots method = [list] := by
  have labels : ∀ rule ∈ parameterRules, IsSingle (Label.lastSegment (collapsedLabel rule)) := by
    decide
  have last : IsSingle list.lastLabel := by
    rw [Node.lastLabel, label]
    exact labels rule single
  rw [slots_of_hasList h, if_pos last]

/-- The only child of a list that is not collapsed is its slot. -/
theorem slots_uncollapsed {rule : AntlrRule} (single : rule ∈ parameterRules)
    {list slot : Node tree} (h : HasList method list)
    (label : list.label = AntlrRule.formalParameterList.text) (only : list.children = [slot])
    (label' : slot.label = rule.text) : slots method = [slot] := by
  have labels : ∀ rule ∈ parameterRules, IsSingle (Label.firstSegment rule.text) := by decide
  have first : IsSingle slot.firstLabel := by
    rw [Node.firstLabel, label']
    exact labels rule single
  have many : ¬ IsSingle list.lastLabel := by
    rw [Node.lastLabel, label]
    decide
  rw [slots_of_hasList h, if_neg many, only]
  exact List.filter_cons_of_pos (decide_eq_true first)

/-- Two outcomes that tell the same parameters, or fail for the same reason. Only the labels of the
slots may differ, and a name that is missing is reported with the label of its slot. -/
inductive Alike (label label' : String) :
    Except Error (Signature tree) → Except Error (Signature tree') → Prop
  | read {signature : Signature tree} {signature' : Signature tree'} :
      signature.parameters = signature'.parameters →
      Alike label label' (.ok signature) (.ok signature')
  | missing : Alike label label' (.error (.missingParameterName label))
      (.error (.missingParameterName label'))
  | inner {declarator : String} : Alike label label' (.error (.notALeaf declarator))
      (.error (.notALeaf declarator))

/-- Slots with the same children declare the same parameter or lack the same. -/
theorem parameter_alike {slot' : Node tree'} (same : slot.toRaw.children = slot'.toRaw.children) :
    (∃ declared, parameter slot = .ok declared ∧ parameter slot' = .ok declared) ∨
      (parameter slot = .error (.missingParameterName slot.label) ∧
        parameter slot' = .error (.missingParameterName slot'.label)) ∨
      ∃ declarator, parameter slot = .error (.notALeaf declarator) ∧
        parameter slot' = .error (.notALeaf declarator) := by
  have found : ∀ rule : AntlrRule, slot.toRaw.child? rule = slot'.toRaw.child? rule := fun rule => by
    rw [RawTree.child?, RawTree.child?, same]
  rw [parameter_eq, parameter_eq, RawTree.Antlr.parameter, RawTree.Antlr.parameter, found, found,
    Node.toRaw_label, Node.toRaw_label]
  cases slot'.toRaw.child? AntlrRule.variableDeclaratorId with
  | none => exact .inr (.inl ⟨rfl, rfl⟩)
  | some declarator =>
    cases read : declarator.token with
    | none => exact .inr (.inr ⟨declarator.label, by simp [read]⟩)
    | some name => exact .inl ⟨_, by simp [read]; rfl⟩

/-- What is read of a method with one slot, if the slot is. -/
theorem exists_read_of_parameter (only : slots method = [slot]) {declared : Parameter}
    (h : parameter slot = .ok declared) (filePath : String) :
    ∃ signature, (Antlr.read method filePath).result = .ok signature ∧
      signature.parameters = some [declared] := by
  refine exists_read_of_mapM ?_ filePath
  rw [only, mapM_cons_of_ok h]
  rfl

theorem read_of_parameter_error (only : slots method = [slot]) {error : Error}
    (h : parameter slot = .error error) (filePath : String) :
    (Antlr.read method filePath).result = .error error := by
  have bad : (slots method).mapM parameter = .error error := by
    rw [only, mapM_cons_of_error h]
  rcases result_cases method filePath with ⟨signature, list, -, -, ok⟩ | ⟨other, failed, same⟩
  · rw [bad] at ok
    cases ok
  · rw [failed, Except.error.inj (same.symm.trans bad)]

/-- Methods with one slot each are read alike if the slots have the same children. -/
theorem alike_of_slots {slot' : Node tree'} (filePath : String) (only : slots method = [slot])
    (only' : slots method' = [slot']) (same : slot.toRaw.children = slot'.toRaw.children) :
    Alike slot.label slot'.label (Antlr.read method filePath).result
      (Antlr.read method' filePath).result := by
  rcases parameter_alike same with ⟨declared, ok, ok'⟩ | ⟨bad, bad'⟩ | ⟨declarator, bad, bad'⟩
  · obtain ⟨signature, read, listed⟩ := exists_read_of_parameter only ok filePath
    obtain ⟨signature', read', listed'⟩ := exists_read_of_parameter only' ok' filePath
    rw [read, read']
    exact .read (listed.trans listed'.symm)
  · rw [read_of_parameter_error only bad, read_of_parameter_error only' bad']
    exact .missing
  · rw [read_of_parameter_error only bad, read_of_parameter_error only' bad']
    exact .inner

/-- A list of one parameter is read alike whether it is collapsed or not. -/
theorem alike_of_collapsed {rule : AntlrRule} (single : rule ∈ parameterRules) (filePath : String)
    {token : Option String} {children : List RawTree} {list : Node tree} {list' : Node tree'}
    (h : HasList method list) (h' : HasList method' list')
    (copy : list.toRaw = ⟨collapsedLabel rule, token, children⟩)
    (copy' : list'.toRaw = .inner AntlrRule.formalParameterList.text
      [⟨rule.text, token, children⟩]) :
    Alike (collapsedLabel rule) rule.text (Antlr.read method filePath).result
      (Antlr.read method' filePath).result := by
  have label : list.label = collapsedLabel rule := by
    rw [← Node.toRaw_label, copy]
  have label' : list'.label = AntlrRule.formalParameterList.text := by
    rw [← Node.toRaw_label, copy']
    rfl
  have below : list'.children.map Node.toRaw = [⟨rule.text, token, children⟩] := by
    rw [← Node.toRaw_children, copy']
    rfl
  obtain ⟨slot', only, copySlot⟩ := List.map_eq_singleton_iff.1 below
  have labelSlot : slot'.label = rule.text := by
    rw [← Node.toRaw_label, copySlot]
  have alike := alike_of_slots filePath (slots_collapsed single h label)
    (slots_uncollapsed single h' label' only labelSlot) (by rw [copy, copySlot])
  rwa [label, labelSlot] at alike

/-- A method has just the slots that its parameter list tells. If all of them have a name, the method
is read with a parameter for each, in their order; else it is not read at all, and the first slot
without a name says why. Nothing is noted. A list of one parameter is read alike whether it is
collapsed or not. -/
theorem parameters_of_slots (tree : Tree) (method : Node tree) (filePath : String) :
    (∃ slots, (∀ nodes, SlotsOf method nodes ↔ nodes = slots) ∧
      ListReading slots (Antlr.read method filePath).result ∧
      (Antlr.read method filePath).notes = []) ∧
    ∀ (rule : AntlrRule) (token : Option String) (children : List RawTree) (tree' : Tree)
      (method' : Node tree') (list : Node tree) (list' : Node tree'), rule ∈ parameterRules →
      HasList method list → HasList method' list' →
      list.toRaw = ⟨collapsedLabel rule, token, children⟩ →
      list'.toRaw = .inner AntlrRule.formalParameterList.text [⟨rule.text, token, children⟩] →
      Alike (collapsedLabel rule) rule.text (Antlr.read method filePath).result
        (Antlr.read method' filePath).result :=
  ⟨⟨slots method, fun _ => slotsOf_iff, listReading method filePath, rfl⟩,
    fun _ _ _ _ _ _ _ single h h' copy copy' =>
      alike_of_collapsed single filePath h h' copy copy'⟩

/-! ## Methods with lists of one parameter -/

/-- A method with a parameter list between brackets, or several. -/
def methodWith (lists : List (List RawTree)) : RawTree :=
  .inner "methodDeclaration" (.leaf "IDENTIFIER" "run" :: lists.map fun list =>
    .inner "formalParameters" (.leaf "LPAREN" "(" :: list ++ [.leaf "RPAREN" ")"]))

/-- A type and a name. -/
def typedName : List RawTree := [.leaf "typeType" "int", .leaf "variableDeclaratorId" "a"]

/-- A list of one parameter that has a name, collapsed and not. -/
theorem parameters_of_typedName :
    ∃ (tree tree' : Tree) (signature : Signature tree) (signature' : Signature tree'),
      Tree.ofRaw (methodWith [[.inner "formalParameterList|formalParameter" typedName]]) =
        .ok tree ∧
      Tree.ofRaw (methodWith [[.inner "formalParameterList"
        [.inner "formalParameter" typedName]]]) = .ok tree' ∧
      (Antlr.read tree.root "Foo.java").result = .ok signature ∧
      (Antlr.read tree'.root "Foo.java").result = .ok signature' ∧
      signature.parameters = some [⟨"a", some "int"⟩] ∧
      signature'.parameters = some [⟨"a", some "int"⟩] := by
  obtain ⟨tree, made, copy⟩ := @exists_of_sound
    (methodWith [[.inner "formalParameterList|formalParameter" typedName]]) (by decide)
  obtain ⟨tree', made', copy'⟩ := @exists_of_sound
    (methodWith [[.inner "formalParameterList" [.inner "formalParameter" typedName]]]) (by decide)
  obtain ⟨list, h, same⟩ := @exists_hasList_of_toRaw _ tree.root
    (.inner "formalParameterList|formalParameter" typedName) (by rw [copy]; rfl)
  obtain ⟨list', h', same'⟩ := @exists_hasList_of_toRaw _ tree'.root
    (.inner "formalParameterList" [.inner "formalParameter" typedName]) (by rw [copy']; rfl)
  have alike := (parameters_of_slots tree tree.root "Foo.java").2 .formalParameter none typedName
    tree' tree'.root list list' (by decide) h h' same same'
  have all : (slots tree.root).mapM parameter = .ok [⟨"a", some "int"⟩] := by
    rw [parameters_eq, copy]
    rfl
  obtain ⟨signature, ok, listed⟩ := exists_read_of_mapM all "Foo.java"
  rw [ok] at alike
  generalize found : (Antlr.read tree'.root "Foo.java").result = outcome at alike
  obtain ⟨equal⟩ := alike
  exact ⟨tree, tree', signature, _, made, made', ok, found, listed, equal.symm.trans listed⟩

/-- All parameter lists of a method, be they between its first brackets or not. -/
def lists (method : Node tree) : List (Node tree) :=
  (method.childrenOf AntlrRule.formalParameters).flatMap
    (·.childrenOf AntlrRule.formalParameterList)

theorem map_toRaw_lists (method : Node tree) :
    (lists method).map Node.toRaw =
      (method.toRaw.childrenOf AntlrRule.formalParameters).flatMap
        (·.childrenOf AntlrRule.formalParameterList) := by
  rw [lists, List.map_flatMap, ← Node.map_toRaw_childrenOf, List.flatMap_map]
  exact List.flatMap_congr fun brackets _ => Node.map_toRaw_childrenOf brackets _

/-- It is the first pair of brackets that counts. A method whose only list stands between the second
pair is read without its parameter. -/
theorem parameters_of_second_list :
    ∃ (tree : Tree) (list : Node tree) (signature : Signature tree),
      Tree.ofRaw (methodWith [[], [.inner "formalParameterList|formalParameter" typedName]]) =
        .ok tree ∧
      lists tree.root = [list] ∧ IsSingle list.lastLabel ∧ Named list ∧
      Declares list ⟨"a", some "int"⟩ ∧
      (Antlr.read tree.root "Foo.java").result = .ok signature ∧
      signature.parameters = some [] := by
  obtain ⟨tree, made, copy⟩ := @exists_of_sound
    (methodWith [[], [.inner "formalParameterList|formalParameter" typedName]]) (by decide)
  have all : (lists tree.root).map Node.toRaw =
      [.inner "formalParameterList|formalParameter" typedName] := by
    rw [map_toRaw_lists, copy]
    rfl
  obtain ⟨list, only, same⟩ := List.map_eq_singleton_iff.1 all
  have declared : parameter list = .ok ⟨"a", some "int"⟩ := by
    rw [parameter_eq, same]
    rfl
  have single : IsSingle list.lastLabel := by
    rw [← Node.toRaw_lastLabel, same]
    decide
  have empty : (slots tree.root).mapM parameter = .ok [] := by
    rw [parameters_eq, copy]
    rfl
  obtain ⟨named, declares⟩ := named_of_parameter declared
  obtain ⟨signature, ok, listed⟩ := exists_read_of_mapM empty "Foo.java"
  exact ⟨tree, list, signature, made, only, single, named, declares, ok, listed⟩

end MethodCorpus.Signature.Antlr
