import MethodCorpus.Json.Parser
import MethodCorpus.Json.Printer
import MethodCorpus.Tree.Raw

/-!
# Trees in JSON

A tree is dumped as an object of its label, its token and its children; the token of an inner node
and the children of a leaf are left out. Like any record it may also be given as an array of the
three, and may have members that mean nothing here. A dump may be of any depth.

* `RawTree.dump`: the text of a tree on one line.
* `RawTree.ofDump?`: the tree that a text describes.
-/

namespace MethodCorpus.RawTree

mutual

/-- A tree as a JSON value. -/
def toJson : RawTree → Json
  | ⟨label, token, children⟩ =>
    .object <|
      (some "label", Json.ofText label) ::
      ((match token with | some token => [(some "token", Json.ofText token)] | none => []) ++
      (match children with
        | [] => []
        | child :: rest => [(some "children", .array (child.toJson :: forestJson rest))]))

/-- A list of trees as JSON values. -/
def forestJson : List RawTree → List Json
  | [] => []
  | tree :: rest => tree.toJson :: forestJson rest

end

/-- The text of a tree on one line. -/
def dump (tree : RawTree) : String := tree.toJson.compact

/-- A token, which null leaves out. -/
def readToken? : Json → Option (Option String)
  | .null => some none
  | .string (some token) => some (some token)
  | _ => none

/-- The members of a tree that have been seen so far. -/
structure Seen where
  label : Option String
  token : Option (Option String)
  children : Option (List RawTree)

/-- The tree of the members that were seen: without a label there is none. -/
def Seen.tree? (seen : Seen) : Option RawTree :=
  seen.label.map fun label => ⟨label, seen.token.getD none, seen.children.getD []⟩

mutual

/-- The tree that a JSON value describes. -/
def ofJson? : Json → Option RawTree
  | .object members => ofMembers? ⟨none, none, none⟩ members
  | .array [.string (some label)] => some ⟨label, none, []⟩
  | .array [.string (some label), token] =>
    (readToken? token).map fun token => ⟨label, token, []⟩
  | .array [.string (some label), token, .array children] =>
    match readToken? token, forest? children with
    | some token, some children => some ⟨label, token, children⟩
    | _, _ => none
  | _ => none

/-- The tree that the members of an object describe, after those already seen. -/
def ofMembers? (seen : Seen) : List (Json.Text × Json) → Option RawTree
  | [] => seen.tree?
  | (none, _) :: _ => none
  | (some key, value) :: members =>
    if key = "label" then
      match seen.label, value with
      | none, .string (some label) => ofMembers? { seen with label := some label } members
      | _, _ => none
    else if key = "token" then
      match seen.token, readToken? value with
      | none, some token => ofMembers? { seen with token := some token } members
      | _, _ => none
    else if key = "children" then
      match seen.children, value with
      | none, .array items =>
        match forest? items with
        | some children => ofMembers? { seen with children := some children } members
        | none => none
      | _, _ => none
    else ofMembers? seen members

/-- The trees that the items of an array describe. -/
def forest? : List Json → Option (List RawTree)
  | [] => some []
  | item :: items =>
    match ofJson? item, forest? items with
    | some tree, some rest => some (tree :: rest)
    | _, _ => none

end

/-- The tree that a text describes, if it is the dump of one. -/
def ofDump? (text : String) : Option RawTree := (Json.parse text).bind ofJson?

end MethodCorpus.RawTree
