import MethodCorpus.Corpus.Source
import MethodCorpus.Proofs.FileSystem.Contents
import MethodCorpus.Proofs.Json.RoundTrip
import MethodCorpus.Proofs.Tree.RoundTrip
import MethodCorpus.Proofs.Tree.Value

/-!
# Dumps are read back

A dump leaves out the token of an inner node and the children of a leaf; what is left out is what a
reader takes for missing. So every tree by value is read back from its dump, also one that breaks
the token rule. What is copied out of a finished tree keeps to that rule, and is therefore loaded
again.

* `RawTree.ofJson?_toJson`, `RawTree.ofDump?_dump`: a tree is read back from its value and its text;
* `Tree.Node.sound_toRaw`: a copy keeps to the token rule;
* `Source.dump_roundTrip`: the dump of any node is loaded as a tree with that copy.
-/

namespace MethodCorpus

/-! ## Trees by value -/

namespace RawTree

variable {seen : Seen} {members : List (Json.Text × Json)}

theorem ofMembers?_label (label : String) (unseen : seen.label = none) :
    ofMembers? seen ((some "label", Json.ofText label) :: members) =
      ofMembers? { seen with label := some label } members := by
  obtain ⟨_, token, children⟩ := seen
  subst unseen
  simp [ofMembers?, Json.ofText]

theorem ofMembers?_token (token : String) (unseen : seen.token = none) :
    ofMembers? seen ((some "token", Json.ofText token) :: members) =
      ofMembers? { seen with token := some (some token) } members := by
  obtain ⟨label, _, children⟩ := seen
  subst unseen
  simp [ofMembers?, Json.ofText, readToken?]

theorem ofMembers?_children {items : List Json} {trees : List RawTree}
    (read : forest? items = some trees) (unseen : seen.children = none) :
    ofMembers? seen ((some "children", .array items) :: members) =
      ofMembers? { seen with children := some trees } members := by
  obtain ⟨label, token, _⟩ := seen
  subst unseen
  simp [ofMembers?, read]

theorem forest?_forestJson {trees : List RawTree}
    (each : ∀ tree ∈ trees, ofJson? tree.toJson = some tree) :
    forest? (forestJson trees) = some trees := by
  induction trees with
  | nil => rw [forestJson, forest?]
  | cons tree rest ih =>
    rw [forestJson, forest?, each tree List.mem_cons_self,
      ih fun other h => each other (List.mem_cons_of_mem _ h)]

/-- A tree is read back from its value. -/
theorem ofJson?_toJson (tree : RawTree) : ofJson? tree.toJson = some tree := by
  induction tree with
  | node label token children ih =>
    rw [toJson.eq_def, ofJson?, ofMembers?_label label rfl]
    -- the token and the children are each there or left out
    cases children with
    | nil =>
      cases token with
      | none => rw [List.nil_append, ofMembers?]; rfl
      | some token => rw [List.singleton_append, ofMembers?_token token rfl, ofMembers?]; rfl
    | cons child rest =>
      have read : forest? (child.toJson :: forestJson rest) = some (child :: rest) := by
        rw [← forestJson]
        exact forest?_forestJson ih
      cases token with
      | none => rw [List.nil_append, ofMembers?_children read rfl, ofMembers?]; rfl
      | some token =>
        rw [List.singleton_append, ofMembers?_token token rfl, ofMembers?_children read rfl,
          ofMembers?]
        rfl

/-- A tree is read back from its dump. -/
theorem ofDump?_dump (tree : RawTree) : ofDump? tree.dump = some tree := by
  rw [ofDump?, dump, Json.parse_compact, Option.bind_some, ofJson?_toJson]

end RawTree

/-! ## Copies -/

/-- A copy keeps to the token rule. -/
theorem Tree.Node.sound_toRaw {tree : Tree} (node : Tree.Node tree) : node.toRaw.Sound := by
  induction node using Tree.Node.childInduction with
  | step node ih =>
    rw [RawTree.sound_iff, toRaw_token, toRaw_children, isSome_token_iff,
      Tree.Node.isLeaf_iff, List.map_eq_nil_iff]
    refine ⟨Iff.rfl, fun copy mem => ?_⟩
    obtain ⟨child, below, rfl⟩ := List.mem_map.1 mem
    exact ih child below

namespace Source

/-- A dump that holds what a sound tree is written as is loaded as that tree. -/
theorem exists_loadDump {fs : FileSystem} {path : String} {raw : RawTree} (sound : raw.Sound)
    (stored : fs.readFile (dumpPath path) = .ok raw.dump.toUTF8) :
    ∃ loaded, loadDump fs path = .ok loaded ∧ loaded.root.toRaw = raw := by
  obtain ⟨loaded, entered, copy⟩ := Tree.exists_of_sound sound
  refine ⟨loaded, ?_, copy⟩
  simp only [loadDump, FileSystem.readText_eq_ok_iff.2 stored, RawTree.ofDump?_dump, entered]
  rfl

/-- Every tree by value is read back from its dump. So wherever the dump of the copy of a node
stands beside a source, that source is loaded as a tree whose root has the same copy. -/
theorem dump_roundTrip :
    (∀ raw : RawTree, RawTree.ofDump? raw.dump = some raw) ∧
    ∀ (tree : Tree) (node : Tree.Node tree) (fs : FileSystem) (path : String),
      fs.readFile (dumpPath path) = .ok node.toRaw.dump.toUTF8 →
      ∃ loaded, loadDump fs path = .ok loaded ∧ loaded.root.toRaw = node.toRaw :=
  ⟨RawTree.ofDump?_dump, fun _ node _ _ stored => exists_loadDump node.sound_toRaw stored⟩

/-- The dump of a tree with quotes, a backslash, a control character and an empty token. -/
theorem dump_roundTrip_of_escapes :
    ∃ tree loaded : Tree,
      tree.root.toRaw = .inner "a\"b" [.leaf "" "\\\t\u0001é", .leaf "name" ""] ∧
      loadDump (FileSystem.empty.put ["A.java.antlr.json"]
        (.file (RawTree.inner "a\"b" [.leaf "" "\\\t\u0001é", .leaf "name" ""]).dump.toUTF8))
        "A.java" = .ok loaded ∧
      loaded.root.toRaw = .inner "a\"b" [.leaf "" "\\\t\u0001é", .leaf "name" ""] := by
  have sound : (RawTree.inner "a\"b" [.leaf "" "\\\t\u0001é", .leaf "name" ""]).Sound := by
    decide
  obtain ⟨tree, -, copy⟩ := Tree.exists_of_sound sound
  obtain ⟨loaded, read, same⟩ := dump_roundTrip.2 tree tree.root
    (FileSystem.empty.put ["A.java.antlr.json"]
      (.file (RawTree.inner "a\"b" [.leaf "" "\\\t\u0001é", .leaf "name" ""]).dump.toUTF8))
    "A.java" (by
      rw [copy, FileSystem.readFile_eq_ok_iff]
      exact ⟨["A.java.antlr.json"],
        FileSystem.locate_eq_ok_iff.2 ⟨["A.java.antlr.json"], by decide, rfl⟩,
        FileSystem.lookup_put_self (by decide) _ _⟩)
  exact ⟨tree, loaded, copy, read, same.trans copy⟩

end Source

end MethodCorpus
