/-!
# Labels and their segments

A label names the grammar rule that a node of a parse tree came from. A chain of rules with one
child each is collapsed into a single node, whose label joins the names of the chain with bars,
outermost first. So a label has a first segment (the rule that its parent mentions) and a last
segment (the rule that its children belong to); a label without a bar is both.
-/

namespace MethodCorpus.Label

/-- The bar between the rule names of a collapsed chain. -/
def separator : Char := '|'

/-- The part of a label before its first bar. -/
def firstSegment (label : String) : String :=
  String.ofList (label.toList.takeWhile (· != separator))

/-- The part of a label after its last bar. -/
def lastSegment (label : String) : String :=
  String.ofList (label.toList.reverse.takeWhile (· != separator)).reverse

/-- A label without a bar is its own first segment. -/
theorem firstSegment_of_notMem {label : String} (h : separator ∉ label.toList) :
    firstSegment label = label := by
  have all : ∀ c ∈ label.toList, (c != separator) = true := by
    intro c hc
    simpa using fun e : c = separator => h (e ▸ hc)
  have whole : label.toList.takeWhile (· != separator) = label.toList := by
    simpa using (List.takeWhile_append_of_pos all : _ = _ ++ List.takeWhile _ [])
  rw [firstSegment, whole, String.ofList_toList]

/-- A label without a bar is its own last segment. -/
theorem lastSegment_of_notMem {label : String} (h : separator ∉ label.toList) :
    lastSegment label = label := by
  have all : ∀ c ∈ label.toList.reverse, (c != separator) = true := by
    intro c hc
    simpa using fun e : c = separator => h (e ▸ List.mem_reverse.1 hc)
  have whole : label.toList.reverse.takeWhile (· != separator) = label.toList.reverse := by
    simpa using (List.takeWhile_append_of_pos all : _ = _ ++ List.takeWhile _ [])
  rw [lastSegment, whole, List.reverse_reverse, String.ofList_toList]

end MethodCorpus.Label
