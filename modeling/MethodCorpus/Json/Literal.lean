import MethodCorpus.Json.Basic
import MethodCorpus.Text.Ranges

/-!
# String literals

A string is written between quotes. Quotes, backslashes and controls are escaped; everything else
stands for itself. Beside the short escapes there is the escape of four digits in base sixteen,
which names a code unit of UTF-16, so a character beyond the first plane is a pair of them.

Reading goes in two steps. The scan (`scan`) only checks how the literal is written and yields its
code units; `meaning` then joins pairs, and finds no text if a half is left over.
-/

namespace MethodCorpus.Json.Literal

/-- A digit in base sixteen, in lower case. -/
def hexDigit (n : Nat) : Char :=
  if n < 10 then Char.ofNat ('0'.toNat + n) else Char.ofNat ('a'.toNat + (n - 10))

/-- A character inside a literal. -/
def escape (c : Char) : List Char :=
  match c with
  | '"' => ['\\', '"']
  | '\\' => ['\\', '\\']
  | '\x08' => ['\\', 'b']
  | '\x0c' => ['\\', 'f']
  | '\n' => ['\\', 'n']
  | '\r' => ['\\', 'r']
  | '\t' => ['\\', 't']
  | c =>
    if c.toNat < 32 then ['\\', 'u', '0', '0', hexDigit (c.toNat / 16), hexDigit (c.toNat % 16)]
    else [c]

/-- Writes a literal in front of what follows. A literal that denotes no text is written as half a
surrogate pair. -/
def write (text : Text) (rest : List Char) : List Char :=
  match text with
  | some text => '"' :: (text.toList.flatMap escape ++ '"' :: rest)
  | none => ['"', '\\', 'u', 'd', '8', '0', '0', '"'] ++ rest

/-- One unit of a literal: a character, or half a surrogate pair by its number. -/
inductive Piece where
  | char (c : Char)
  | half (unit : Nat)
  deriving DecidableEq

/-- The unit that four digits name. -/
def pieceOf (unit : Nat) : Piece :=
  if 0xD800 ≤ unit ∧ unit < 0xE000 then .half unit else .char (Char.ofNat unit)

/-- The character that a backslash and a letter stand for. -/
def shortEscape? (c : Char) : Option Char :=
  match c with
  | '"' => some '"'
  | '\\' => some '\\'
  | '/' => some '/'
  | 'b' => some '\x08'
  | 'f' => some '\x0c'
  | 'n' => some '\n'
  | 'r' => some '\r'
  | 't' => some '\t'
  | _ => none

/-- Scans a literal from behind its first quote, after the units already scanned (last first).
Yields all units and what follows the literal. -/
def scan (scanned : List Piece) : List Char → Option (List Piece × List Char)
  | [] => none
  | '"' :: rest => some (scanned.reverse, rest)
  | '\\' :: 'u' :: a :: b :: c :: d :: rest =>
    if [a, b, c, d].all Text.isHexDigit then
      scan (pieceOf (Text.hexValue (String.ofList [a, b, c, d])) :: scanned) rest
    else none
  | '\\' :: e :: rest =>
    match shortEscape? e with
    | some c => scan (.char c :: scanned) rest
    | none => none
  | c :: rest => if c.toNat < 32 || c == '\\' then none else scan (.char c :: scanned) rest

/-- The characters that units denote; none if half a pair stands alone. -/
def meaning : List Piece → Option (List Char)
  | [] => some []
  | .char c :: rest => (meaning rest).map (c :: ·)
  | .half high :: .half low :: rest =>
    if high < 0xDC00 ∧ 0xDC00 ≤ low then
      (meaning rest).map
        (Char.ofNat (0x10000 + (high - 0xD800) * 0x400 + (low - 0xDC00)) :: ·)
    else none
  | .half _ :: _ => none

/-- Reads a literal from behind its first quote. -/
def read (text : List Char) : Option (Text × List Char) :=
  (scan [] text).map fun (pieces, rest) => ((meaning pieces).map String.ofList, rest)

end MethodCorpus.Json.Literal
