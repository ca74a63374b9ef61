/-!
# Concrete syntax trees of Java sources

A parser of Java yields a concrete syntax tree: every token and every comment of the source is a
node, and so is every part that the parser had to skip. A node has a kind, and stands in its parent
as a named part, perhaps in a particular role (its field), or as a mere sign of the grammar.
-/

namespace MethodCorpus

/-- The roles of a child that are looked for. -/
inductive SyntaxField where
  | name
  | body
  | dimensions
  | type
  | parameters
  | element
  deriving DecidableEq

namespace SyntaxField

/-- Every role. -/
def all : List SyntaxField := [name, body, dimensions, type, parameters, element]

/-- The grammar's name of a role. -/
def label : SyntaxField → String
  | name => "name"
  | body => "body"
  | dimensions => "dimensions"
  | type => "type"
  | parameters => "parameters"
  | element => "element"

/-- The role that has a given name. -/
def ofLabel? (label : String) : Option SyntaxField :=
  all.find? (·.label == label)

end SyntaxField

/-- A node of a concrete syntax tree with everything below it. -/
structure SyntaxTree where
  kind : String
  /-- Whether the node is a part of the grammar and not a mere sign. -/
  named : Bool
  /-- The role in the parent. -/
  field : Option SyntaxField
  /-- The part of the source that the node covers. -/
  text : String
  children : List SyntaxTree

namespace SyntaxTree

/-- The child in a role. -/
def child? (node : SyntaxTree) (field : SyntaxField) : Option SyntaxTree :=
  node.children.find? (·.field = some field)

/-- The children that are parts of the grammar. -/
def namedChildren (node : SyntaxTree) : List SyntaxTree :=
  node.children.filter (·.named)

end SyntaxTree

end MethodCorpus
