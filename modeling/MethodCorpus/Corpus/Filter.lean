import MethodCorpus.Signature.Basic
import MethodCorpus.Text.Words

/-!
# Filters

A filter accepts or rejects a unit. The size of a tree can be asked of any unit; all other filters
look at a method's signature, so they do not apply to a whole file.

Lists of a signature that are missing name nothing, so they are never a reason to reject it. A name
that is missing is: it cannot be short enough.
-/

namespace MethodCorpus

/-- A condition on units. -/
inductive Filter where
  /-- The number of nodes lies within bounds, both included. -/
  | treeSize (least : Nat) (greatest : Option Nat)
  /-- None of the given modifiers. -/
  | modifiers (excluded : List String)
  /-- None of the given annotations. -/
  | annotations (excluded : List String)
  /-- No constructor. -/
  | noConstructors
  /-- A name of at most so many words. -/
  | nameWords (most : Nat)
  deriving DecidableEq

namespace Filter

/-- The filter's name in a report. -/
def name : Filter → String
  | treeSize .. => "by tree size"
  | modifiers _ => "by modifiers"
  | annotations _ => "by annotations"
  | noConstructors => "no constructors"
  | nameWords _ => "by function name length"

/-- Whether a number lies within bounds. -/
def isWithin (least : Nat) (greatest : Option Nat) (n : Nat) : Bool :=
  least ≤ n && greatest.all (n ≤ ·)

/-- Whether a list, if it is there, has none of the given texts. -/
def hasNone (excluded : List String) (texts : Option (List String)) : Bool :=
  texts.all fun texts => !texts.any excluded.contains

variable {tree : Tree}

/-- Whether a filter accepts a whole file; none if it does not apply to one. -/
def acceptsFile? (filter : Filter) (root : Tree.Node tree) : Option Bool :=
  match filter with
  | treeSize least greatest => some (isWithin least greatest root.size)
  | _ => none

/-- Whether a filter accepts a method. -/
def accepts (filter : Filter) (signature : Signature tree) : Bool :=
  match filter with
  | treeSize least greatest => isWithin least greatest signature.root.size
  | modifiers excluded => hasNone excluded signature.modifiers
  | annotations excluded => hasNone excluded signature.annotations
  | noConstructors => !signature.isConstructor
  | nameWords most => signature.name.any fun name => (Text.words name).length ≤ most

/-- Whether a filter applies to whole files. -/
def appliesToFiles : Filter → Bool
  | treeSize .. => true
  | _ => false

/-- A filter answers for whole files exactly if it applies to them. -/
theorem isSome_acceptsFile? (filter : Filter) (root : Tree.Node tree) :
    (filter.acceptsFile? root).isSome = filter.appliesToFiles := by
  cases filter <;> rfl

end Filter

end MethodCorpus
