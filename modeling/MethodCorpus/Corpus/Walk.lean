import MethodCorpus.Corpus.Source
import MethodCorpus.FileSystem.Listing

/-!
# Searching a directory

A directory is searched for sources by walking through it: it is opened by its path and listed, and
what is listed is visited in that order, a directory with all that is below it before the next name.
What is hidden is not visited, and a directory that cannot be opened is passed over.
-/

namespace MethodCorpus

namespace Source

open FileSystem

/-- Whether a file that is visited is a source, given its path and the names that lead to it from the
directory that is searched. -/
def isKept (extension : String) (exclude : List String) (path : String) (names : Route) : Bool :=
  Path.extension? path == some extension && !Glob.isExcluded exclude ("/".intercalate names)

/-- The sources below a directory, in the order in which they are visited. The directory is given by
the names that lead to it from the one that is searched, which has the given path and place. -/
def walk (fs : FileSystem) (root extension : String) (exclude : List String) (top names : Route) :
    List Route :=
  if maxPathBytes < (names.foldl Path.join root).utf8ByteSize then []
  else
    (fs.sortedEntries (top ++ names)).attach.flatMap fun ⟨(name, item), _listed⟩ =>
      if isHidden name then []
      else
        let names := names ++ [name]
        match item with
        | .directory => walk fs root extension exclude top names
        | .file _ =>
          if isKept extension exclude (names.foldl Path.join root) names then [names] else []
termination_by fs.depth - (top ++ names).length
decreasing_by
  have inside := length_le_depth (mem_sortedEntries_iff.1 _listed)
  simp only [List.length_append, List.length_singleton] at inside ⊢
  omega

end Source

end MethodCorpus
