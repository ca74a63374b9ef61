import Mathlib.Data.List.Chain
import MethodCorpus.Proofs.SyntaxTree.Placement

/-!
# The class or enumeration around a method

The walk enters a declaration through its body and a method through its block, so above a method
stand the nodes that were entered and these bodies between them. A class body counts there only if
it is no body of a declaration: it then belongs to an anonymous class or to a constant of an
enumeration. The signature of a method tells the nearest declaration that counts.

* `passage`, `Placed.above`: all that stands above a method, up to the root;
* `Ascends.of_mem_allPlaced`: each of these nodes is a child of the next one;
* `nearest?`: the rule by which the nearest declaration is told from these nodes;
* `BodiesApart`: what the rule needs of the grammar, that no declaration is the body of another;
* `scope_eq_nearest?`: the nodes that were entered tell the same declaration;
* `enclosing_srcmlTree`: what the signatures of a source tell.
-/

namespace MethodCorpus

open MethodCorpus.Tree

/-- What a summary tells of the surroundings of a method determines them. -/
theorem Summary.scope_eq_of_within {summary other : Summary} {scope scope' : Scope}
    (h : summary.within scope = other.within scope') : scope = scope' := by
  have kinds : scope.map Prod.fst = scope'.map Prod.fst := congrArg Summary.enclosingKind h
  have names : scope.bind Prod.snd = scope'.bind Prod.snd := congrArg Summary.enclosingName h
  match scope, scope', kinds, names with
  | none, none, _, _ => rfl
  | some _, some _, kinds, names =>
    exact congrArg some (Prod.ext (Option.some.inj kinds) names)

namespace SyntaxTree

/-! ## What stands above a method -/

/-- The nodes passed when a node is entered, nearest to the inside first: the body or block that it
is entered through, if it is a declaration or a method, and the node. -/
def passage (node : SyntaxTree) : List SyntaxTree :=
  if node.isMethod ∨ node.kind ∈ declarationKinds then node.interior?.toList ++ [node] else [node]

/-- Everything above a method but the root, nearest first. -/
def Placed.above (placed : Placed) : List SyntaxTree := placed.entered.flatMap passage

theorem passage_of_plain {node : SyntaxTree} (noMethod : ¬ node.isMethod = true)
    (noDeclaration : node.kind ∉ declarationKinds) : node.passage = [node] := by
  rw [passage, if_neg (not_or.2 ⟨noMethod, noDeclaration⟩)]

theorem field_of_child? {node child : SyntaxTree} {field : SyntaxField}
    (h : node.child? field = some child) : child.field = some field := by
  rw [child?] at h
  simpa using List.find?_some h

/-- A node that is entered through another one is a method or a declaration and is entered through
its body. Any other node is entered through itself. -/
theorem passage_cases {node interior : SyntaxTree} (h : node.interior? = some interior) :
    (node.isMethod = true ∧ interior.kind = "block" ∧ node.child? .body = some interior ∧
        node.passage = [interior, node]) ∨
      (node.kind ∈ declarationKinds ∧ node.child? .body = some interior ∧
        node.passage = [interior, node]) ∨
      (node.kind ∉ declarationKinds ∧ interior = node ∧ node.passage = [node]) := by
  have whole := h
  rw [interior?] at h
  split at h
  · next isMethod =>
    obtain ⟨body, block⟩ := Option.filter_eq_some_iff.1 h
    refine .inl ⟨isMethod, beq_iff_eq.1 block, body, ?_⟩
    rw [passage, if_pos (.inl isMethod), whole]
    rfl
  · next noMethod =>
    split at h
    · next isDeclaration =>
      refine .inr (.inl ⟨isDeclaration, h, ?_⟩)
      rw [passage, if_pos (.inr isDeclaration), whole]
      rfl
    · next noDeclaration =>
      exact .inr (.inr ⟨noDeclaration, (Option.some.inj h).symm,
        passage_of_plain noMethod noDeclaration⟩)

/-- Whether each node of a list is a child of the next one. -/
def Ascends (nodes : List SyntaxTree) : Prop :=
  nodes.IsChain fun lower upper => lower ∈ upper.children

/-- A step of the walk leads to a node that stands below all that was passed. -/
theorem Ascends.of_inside {node child : SyntaxTree} {above : List SyntaxTree}
    (h : Ascends (node :: above)) (inside : child ∈ node.inside) :
    Ascends (child :: (node.passage ++ above)) := by
  obtain ⟨interior, entered, listed⟩ := List.mem_flatMap.1 inside
  have below : child ∈ interior.children := (List.mem_filter.1 listed).1
  rcases passage_cases (Option.mem_toList.1 entered) with
    ⟨-, -, body, passed⟩ | ⟨-, body, passed⟩ | ⟨-, rfl, passed⟩ <;> rw [passed]
  · exact .cons_cons below (.cons_cons (List.mem_of_find?_eq_some body) h)
  · exact .cons_cons below (.cons_cons (List.mem_of_find?_eq_some body) h)
  · exact .cons_cons below h

theorem Ascends.of_mem_allPlaced {root : SyntaxTree} {placed : Placed}
    (h : placed ∈ root.allPlaced) : Ascends (placed.method :: (placed.above ++ [root])) := by
  obtain ⟨node, top, mem⟩ := List.mem_flatMap.1 h
  refine forall_placedMethods (motive := fun entered node =>
    Ascends (node :: (entered.flatMap passage ++ [root]))) ?_ node [] ?_ placed mem
  · intro entered node path child inside
    rw [List.flatMap_cons, List.append_assoc]
    exact path.of_inside inside
  · exact .cons_cons (List.mem_filter.1 top).1 (.singleton root)

/-! ## All nodes of a source -/

mutual

/-- A node with all nodes below it, in source order. -/
def nodes : SyntaxTree → List SyntaxTree
  | node@⟨_, _, _, _, children⟩ => node :: forestNodes children

/-- Some nodes with all nodes below them, in source order. -/
def forestNodes : List SyntaxTree → List SyntaxTree
  | [] => []
  | node :: rest => node.nodes ++ forestNodes rest

end

theorem forestNodes_eq (trees : List SyntaxTree) : forestNodes trees = trees.flatMap nodes := by
  induction trees with
  | nil => rw [forestNodes, List.flatMap_nil]
  | cons node rest ih => rw [forestNodes, ih, List.flatMap_cons]

theorem nodes_eq (root : SyntaxTree) : root.nodes = root :: root.children.flatMap nodes := by
  obtain ⟨kind, named, field, text, children⟩ := root
  rw [nodes, forestNodes_eq]

theorem self_mem_nodes (root : SyntaxTree) : root ∈ root.nodes := by
  rw [nodes_eq]
  exact List.mem_cons_self

theorem mem_nodes_of_mem_children {root node child : SyntaxTree} (h : node ∈ root.nodes)
    (below : child ∈ node.children) : child ∈ root.nodes := by
  rw [nodes_eq] at h ⊢
  refine List.mem_cons_of_mem _ (List.mem_flatMap.2 ?_)
  rcases List.mem_cons.1 h with rfl | h
  · exact ⟨child, below, child.self_mem_nodes⟩
  · obtain ⟨top, listed, h⟩ := List.mem_flatMap.1 h
    exact ⟨top, listed, mem_nodes_of_mem_children h below⟩
termination_by sizeOf root
decreasing_by exact sizeOf_lt_of_mem_children listed

theorem mem_nodes_of_mem_inside {root node child : SyntaxTree} (h : node ∈ root.nodes)
    (inside : child ∈ node.inside) : child ∈ root.nodes := by
  obtain ⟨interior, entered, listed⟩ := List.mem_flatMap.1 inside
  have within : interior ∈ root.nodes := by
    rcases passage_cases (Option.mem_toList.1 entered) with
      ⟨-, -, body, -⟩ | ⟨-, body, -⟩ | ⟨-, rfl, -⟩
    · exact mem_nodes_of_mem_children h (List.mem_of_find?_eq_some body)
    · exact mem_nodes_of_mem_children h (List.mem_of_find?_eq_some body)
    · exact h
  exact mem_nodes_of_mem_children within (List.mem_filter.1 listed).1

/-! ## The nearest declaration -/

/-- Whether a node is the class body of a declaration, the node above it being given. -/
def isOwnBody (node : SyntaxTree) (upper : Option SyntaxTree) : Bool :=
  node.kind == "class_body" && node.field == some .body &&
    upper.any fun upper => upper.kind ∈ declarationKinds

/-- The nearest class or enumeration among some nodes, each of which stands in the next one. The
class body of a declaration is no class of its own. -/
def nearest? : List SyntaxTree → Scope
  | [] => none
  | node :: above =>
    if node.isOwnBody above.head? then nearest? above else node.declares?.or (nearest? above)

/-- Whether no declaration in a source is the body of another declaration. The grammar of Java sees
to that, since the bodies it gives to declarations are of kinds of their own: a `class_body` to
classes and records, an `enum_body`, an `interface_body` and a `constructor_body`. -/
def BodiesApart (root : SyntaxTree) : Prop :=
  ∀ node ∈ root.nodes, node.kind ∈ declarationKinds →
    ∀ body ∈ node.child? .body, body.kind ∉ declarationKinds

instance (root : SyntaxTree) : Decidable root.BodiesApart :=
  inferInstanceAs (Decidable (∀ node ∈ root.nodes, node.kind ∈ declarationKinds →
    ∀ body ∈ node.child? .body, body.kind ∉ declarationKinds))

theorem nearest?_cons {node : SyntaxTree} (other : node.kind ≠ "class_body")
    (above : List SyntaxTree) :
    nearest? (node :: above) = node.declares?.or (nearest? above) := by
  have notBody : node.isOwnBody above.head? = false := by
    rw [isOwnBody, beq_eq_false_iff_ne.2 other, Bool.false_and, Bool.false_and]
  rw [nearest?, notBody, if_neg Bool.false_ne_true]

/-- A node that is neither a declaration nor a class body is passed over. -/
theorem nearest?_cons_of_plain {node : SyntaxTree} (plain : node.kind ∉ declarationKinds)
    (other : node.kind ≠ "class_body") (above : List SyntaxTree) :
    nearest? (node :: above) = nearest? above := by
  rw [nearest?_cons other, declares?_eq_none plain other, Option.none_or]

theorem kind_ne_of_mem_declarationKinds {node : SyntaxTree} (h : node.kind ∈ declarationKinds) :
    node.kind ≠ "class_body" := by
  intro body
  rw [body] at h
  revert h
  decide

/-- Passing a node adds what the node declares, and at the inner end of the passage there is no
declaration. -/
theorem nearest?_passage {node interior : SyntaxTree} {above : List SyntaxTree}
    (entered : node.interior? = some interior)
    (apart : node.kind ∈ declarationKinds →
      ∀ body ∈ node.child? .body, body.kind ∉ declarationKinds)
    (plain : ∀ upper ∈ above.head?, upper.kind ∉ declarationKinds) :
    nearest? (node.passage ++ above) = node.declares?.or (nearest? above) ∧
      ∀ upper ∈ (node.passage ++ above).head?, upper.kind ∉ declarationKinds := by
  rcases passage_cases entered with
    ⟨isMethod, block, -, passed⟩ | ⟨isDeclaration, body, passed⟩ | ⟨noDeclaration, -, passed⟩ <;>
    rw [passed]
  · have noBody : node.kind ≠ "class_body" := by
      rw [show node.kind = "method_declaration" from beq_iff_eq.1 isMethod]
      decide
    have blockPlain : interior.kind ∉ declarationKinds := by
      rw [block]
      decide
    have blockBody : interior.kind ≠ "class_body" := by
      rw [block]
      decide
    refine ⟨?_, fun upper mem => Option.some.inj mem ▸ blockPlain⟩
    show nearest? (interior :: node :: above) = _
    rw [nearest?_cons_of_plain blockPlain blockBody, nearest?_cons noBody]
  · have bodyPlain : interior.kind ∉ declarationKinds := apart isDeclaration interior body
    refine ⟨?_, fun upper mem => Option.some.inj mem ▸ bodyPlain⟩
    show nearest? (interior :: node :: above) = _
    have upward := nearest?_cons (kind_ne_of_mem_declarationKinds isDeclaration) above
    -- a class body is passed over as the declaration's own, any other body declares nothing
    by_cases classBody : interior.kind = "class_body"
    · have own : interior.isOwnBody (node :: above).head? = true := by
        rw [isOwnBody, beq_iff_eq.2 classBody, field_of_child? body, List.head?_cons,
          Option.any_some, decide_eq_true isDeclaration]
        rfl
      rw [nearest?, if_pos own, upward]
    · rw [nearest?_cons_of_plain bodyPlain classBody, upward]
  · refine ⟨?_, fun upper mem => Option.some.inj mem ▸ noDeclaration⟩
    show nearest? (node :: above) = _
    have notOwn : node.isOwnBody above.head? = false := by
      rw [isOwnBody]
      cases top : above.head? with
      | none => rw [Option.any_none, Bool.and_false]
      | some upper => rw [Option.any_some, decide_eq_false (plain upper top), Bool.and_false]
    rw [nearest?, notOwn, if_neg Bool.false_ne_true]

/-- What stands around a method is the nearest class or enumeration above it. -/
theorem scope_eq_nearest? {root : SyntaxTree} (apart : root.BodiesApart) {placed : Placed}
    (h : placed ∈ root.allPlaced) : placed.scope = nearest? placed.above := by
  obtain ⟨node, top, mem⟩ := List.mem_flatMap.1 h
  -- the walk stays within the source and never stands below a declaration without having passed
  -- its body
  refine (forall_placedMethods (motive := fun entered node => node ∈ root.nodes ∧
    nearest? (entered.flatMap passage) = entered.findSome? declares? ∧
    ∀ upper ∈ (entered.flatMap passage).head?, upper.kind ∉ declarationKinds)
    ?_ node [] ?_ placed mem).2.1.symm
  · rintro entered node ⟨listed, same, plain⟩ child inside
    obtain ⟨interior, through, -⟩ := List.mem_flatMap.1 inside
    rw [List.flatMap_cons, findSome?_declares?_cons, ← same]
    exact ⟨mem_nodes_of_mem_inside listed inside,
      nearest?_passage (Option.mem_toList.1 through) (apart node listed) plain⟩
  · exact ⟨mem_nodes_of_mem_children root.self_mem_nodes (List.mem_filter.1 top).1, rfl,
      fun upper mem => by cases mem⟩

/-! ## Signatures -/

theorem Placed.ReadAs.map_enclosing {tree : Tree} {filePath : String} {placed : Placed}
    {signature : Signature tree} (h : placed.ReadAs filePath signature) :
    signature.enclosing.map Enclosing.scope = placed.scope := by
  obtain ⟨-, type, -, summary⟩ := h
  rw [signature.summary_eq] at summary
  exact Summary.scope_eq_of_within summary

/-- A signature tells the class or enumeration around its method: the nearest one above the method in
the syntax tree. Neither interfaces, constructors and methods nor the bodies of declarations count.
Of the parser this needs what the grammar of Java says of declarations, that none of them is the
body of another one (`BodiesApart`). -/
theorem enclosing_srcmlTree (parser : String → SyntaxTree) (text filePath : String)
    (grammar : (parser text).BodiesApart) :
    (parser text).allPlaced.map Placed.method = (parser text).allMethods ∧
      (∀ placed ∈ (parser text).allPlaced,
        Ascends (placed.method :: (placed.above ++ [parser text]))) ∧
      ∃ tree, Source.srcmlTree parser text = .ok tree ∧
        List.Forall₂ (fun placed signature =>
            signature.root.toRaw = placed.method.methodMarkup ∧
            signature.enclosing.map Enclosing.scope = nearest? placed.above)
          ((parser text).allPlaced.filter (·.method.typeText?.isSome))
          (Split.ofNode .srcml filePath tree.root).signatures := by
  refine ⟨map_method_allPlaced _, fun placed => Ascends.of_mem_allPlaced, ?_⟩
  obtain ⟨tree, made, -, signatures, -⟩ := exists_split parser text filePath
  refine ⟨tree, made, ?_⟩
  have listed := (List.forall₂_and_left _ _).2
    ⟨fun placed mem => (List.mem_filter.1 mem).1, signatures⟩
  refine listed.imp fun placed signature => ?_
  rintro ⟨mem, read⟩
  exact ⟨read.1, read.map_enclosing.trans (scope_eq_nearest? grammar mem)⟩

/-- An enumeration with a method in the body of a constant and one in an interface. -/
def enumWithBodies : SyntaxTree :=
  let sign (text : String) : SyntaxTree := ⟨text, false, none, text, []⟩
  let name (text : String) : SyntaxTree := ⟨"identifier", true, some .name, text, []⟩
  let result : SyntaxTree := ⟨"void_type", true, some .type, "void", []⟩
  let slots : SyntaxTree :=
    ⟨"formal_parameters", true, some .parameters, "()", [sign "(", sign ")"]⟩
  let inConstant : SyntaxTree :=
    ⟨"method_declaration", true, none, "void h() \x7b\x7d",
      [result, name "h", slots,
        ⟨"block", true, some .body, "\x7b\x7d", [sign "\x7b", sign "\x7d"]⟩]⟩
  let constant : SyntaxTree :=
    ⟨"enum_constant", true, none, "K \x7b void h() \x7b\x7d \x7d",
      [name "K", ⟨"class_body", true, some .body, "\x7b void h() \x7b\x7d \x7d",
        [sign "\x7b", inConstant, sign "\x7d"]⟩]⟩
  let inInterface : SyntaxTree :=
    ⟨"method_declaration", true, none, "void g();", [result, name "g", slots, sign ";"]⟩
  let interface : SyntaxTree :=
    ⟨"interface_declaration", true, none, "interface I \x7b void g(); \x7d",
      [sign "interface", name "I", ⟨"interface_body", true, some .body, "\x7b void g(); \x7d",
        [sign "\x7b", inInterface, sign "\x7d"]⟩]⟩
  let further : SyntaxTree :=
    ⟨"enum_body_declarations", true, none, "; interface I \x7b void g(); \x7d",
      [sign ";", interface]⟩
  let body : SyntaxTree :=
    ⟨"enum_body", true, some .body,
      "\x7b K \x7b void h() \x7b\x7d \x7d; interface I \x7b void g(); \x7d \x7d",
      [sign "\x7b", constant, further, sign "\x7d"]⟩
  let source :=
    "enum E \x7b K \x7b void h() \x7b\x7d \x7d; interface I \x7b void g(); \x7d \x7d"
  ⟨"program", true, none, source,
    [⟨"enum_declaration", true, none, source, [sign "enum", name "E", body]⟩]⟩

/-- The body of a constant is an anonymous class, and an interface does not count. -/
theorem enclosing_in_enumWithBodies :
    enumWithBodies.BodiesApart ∧
    ∃ tree, Source.srcmlTree (fun _ => enumWithBodies) enumWithBodies.text = .ok tree ∧
      (Split.ofNode .srcml "E.java" tree.root).signatures.map
          (fun signature => signature.enclosing.map Enclosing.scope) =
        [some (.classDeclaration, none), some (.enumDeclaration, some "E")] := by
  have grammar : enumWithBodies.BodiesApart := by decide
  obtain ⟨-, -, tree, made, signatures⟩ :=
    enclosing_srcmlTree (fun _ => enumWithBodies) enumWithBodies.text "E.java" grammar
  have around : (enumWithBodies.allPlaced.filter (·.method.typeText?.isSome)).map
      (fun placed => nearest? placed.above) =
        [some (.classDeclaration, none), some (.enumDeclaration, some "E")] := by
    decide +kernel
  refine ⟨grammar, tree, made, ?_⟩
  rw [← around, ← List.forall₂_eq_eq_eq, List.forall₂_map_left_iff, List.forall₂_map_right_iff]
  exact signatures.flip.imp fun signature placed told => told.2

end SyntaxTree

end MethodCorpus
