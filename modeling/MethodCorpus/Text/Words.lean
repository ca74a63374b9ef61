import MethodCorpus.Text.Alphabetic
import MethodCorpus.Text.LetterCase
import MethodCorpus.Text.Numeric

/-!
# Words of a name

A name is split into words at every character that is neither a letter nor a numeral, which belongs
to no word, and besides where a capital follows a small letter, or a letter a numeral or the other
way round. Words are given in lower case.
-/

namespace MethodCorpus.Text

/-- Whether a new word starts between two characters of a name. -/
def startsWord (before c : Char) : Bool :=
  (isLowercase before && isUppercase c) || (isAlphabetic before && isNumeric c) ||
    (isNumeric before && isAlphabetic c)

/-- The word being read, as long as it has a character. -/
def finished (word : List Char) : List (List Char) := if word.isEmpty then [] else [word]

/-- The words of the rest of a name. The word being read is given with the character before the
rest, none if that belongs to no word. -/
def splitWords (word : List Char) (before : Option Char) : List Char → List (List Char)
  | [] => finished word
  | c :: rest =>
    if !isWordChar c then finished word ++ splitWords [] none rest
    else if before.any (startsWord · c) then finished word ++ splitWords (lowercase c) (some c) rest
    else splitWords (word ++ lowercase c) (some c) rest

/-- The words of a name in lower case. -/
def words (name : String) : List String :=
  (splitWords [] none name.toList).map String.ofList

end MethodCorpus.Text
