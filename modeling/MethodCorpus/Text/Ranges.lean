/-!
# Ranges of code points

A property of characters is kept as a list of closed ranges of code points, written as text: numbers
in base sixteen, the ends of a range joined by a hyphen, ranges divided by blanks.

* `Ranges.contains_iff`: a character has the property exactly if a range holds its code point.
-/

namespace MethodCorpus.Text

/-- Whether a character is a digit in base sixteen. -/
def isHexDigit (c : Char) : Bool :=
  c.isDigit || ('a' ≤ c && c ≤ 'f') || ('A' ≤ c && c ≤ 'F')

/-- The value of a digit in base sixteen. -/
def hexDigitValue (c : Char) : Nat :=
  if '0' ≤ c ∧ c ≤ '9' then c.toNat - '0'.toNat
  else if 'a' ≤ c ∧ c ≤ 'f' then c.toNat - 'a'.toNat + 10
  else if 'A' ≤ c ∧ c ≤ 'F' then c.toNat - 'A'.toNat + 10
  else 0

/-- The number that a text writes in base sixteen. -/
def hexValue (digits : String) : Nat :=
  digits.toList.foldl (fun value c => 16 * value + hexDigitValue c) 0

/-- A set of code points as closed ranges. -/
structure Ranges where
  bounds : List (Nat × Nat)

namespace Ranges

/-- One range: its two ends, or one number that is both. -/
def readBounds (text : String) : Nat × Nat :=
  match text.splitOn "-" with
  | [first, last] => (hexValue first, hexValue last)
  | _ => (hexValue text, hexValue text)

/-- The ranges that some lines list. -/
def ofLines (lines : List String) : Ranges :=
  ⟨lines.flatMap fun line => (line.splitOn " ").map readBounds⟩

/-- Whether a range holds the character's code point. -/
def contains (ranges : Ranges) (c : Char) : Bool :=
  ranges.bounds.any fun (first, last) => first ≤ c.toNat && c.toNat ≤ last

theorem contains_iff {ranges : Ranges} {c : Char} :
    ranges.contains c = true ↔ ∃ b ∈ ranges.bounds, b.1 ≤ c.toNat ∧ c.toNat ≤ b.2 := by
  simp [contains]

end Ranges

end MethodCorpus.Text
