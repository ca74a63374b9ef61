import MethodCorpus.Json.Literal

/-!
# Reading JSON

The reader accepts a text exactly if it is a JSON value between blanks. It sets no bound on the
depth of the value. Every part of the reader takes the characters that are left and yields those
that are left afterwards; the number that the nested parts count down only shows that they end.
-/

namespace MethodCorpus.Json

/-- Whether a character may stand between the signs of a value. -/
def isBlank (c : Char) : Bool := c == ' ' || c == '\n' || c == '\r' || c == '\t'

/-- Drops the blanks in front. -/
def skipBlanks (text : List Char) : List Char := text.dropWhile isBlank

/-- The number that digits write in base ten. -/
def decimalValue (digits : List Char) : Nat :=
  digits.foldl (fun value c => 10 * value + (c.toNat - '0'.toNat)) 0

/-- Takes a sign off the front, and tells whether it is a minus. -/
def readMinus : List Char → Bool × List Char
  | '-' :: rest => (true, rest)
  | text => (false, text)

/-- Takes digits off the front; there must be one. -/
def readDigits (text : List Char) : Option (List Char × List Char) :=
  match text.takeWhile Char.isDigit with
  | [] => none
  | digits => some (digits, text.dropWhile Char.isDigit)

/-- Takes the digits before a point: one zero, or digits that do not start with a zero. -/
def readWhole (text : List Char) : Option (List Char × List Char) :=
  match readDigits text with
  | some ('0' :: _ :: _, _) => none
  | whole => whole

/-- Takes the digits behind a point, if there is a point. -/
def readFraction : List Char → Option (Option (List Char) × List Char)
  | '.' :: rest => (readDigits rest).map fun (digits, rest) => (some digits, rest)
  | text => some (none, text)

/-- Takes the exponent, if there is one. -/
def readExponent : List Char → Option (Option Int × List Char)
  | c :: rest =>
    if c == 'e' || c == 'E' then
      let (negative, rest) := match rest with
        | '+' :: rest => (false, rest)
        | rest => readMinus rest
      (readDigits rest).map fun (digits, rest) =>
        let magnitude : Int := decimalValue digits
        (some (if negative then -magnitude else magnitude), rest)
    else some (none, c :: rest)
  | [] => some (none, [])

/-- Takes a number off the front. -/
def readNumber (text : List Char) : Option (Number × List Char) := do
  let (negative, text) := readMinus text
  let (whole, text) ← readWhole text
  let (fraction, text) ← readFraction text
  let (exponent, text) ← readExponent text
  match fraction, exponent with
  | none, none => some (.integer negative (decimalValue whole), text)
  | _, _ =>
    let fraction := fraction.getD []
    some (.decimal negative (decimalValue (whole ++ fraction))
      (exponent.getD 0 - fraction.length), text)

mutual

/-- Takes a value off the front. -/
def readValue (fuel : Nat) (text : List Char) : Option (Json × List Char) :=
  match fuel with
  | 0 => none
  | fuel + 1 =>
    match text with
    | 'n' :: 'u' :: 'l' :: 'l' :: rest => some (.null, rest)
    | 't' :: 'r' :: 'u' :: 'e' :: rest => some (.bool true, rest)
    | 'f' :: 'a' :: 'l' :: 's' :: 'e' :: rest => some (.bool false, rest)
    | '"' :: rest => (Literal.read rest).map fun (text, rest) => (.string text, rest)
    | '[' :: rest =>
      match skipBlanks rest with
      | ']' :: rest => some (.array [], rest)
      | rest => readItems fuel [] rest
    | '\x7b' :: rest =>
      match skipBlanks rest with
      | '\x7d' :: rest => some (.object [], rest)
      | rest => readMembers fuel [] rest
    | text => (readNumber text).map fun (n, rest) => (.number n, rest)

/-- Takes the items of an array up to its end, after those already read (last first). -/
def readItems (fuel : Nat) (before : List Json) (text : List Char) : Option (Json × List Char) :=
  match fuel with
  | 0 => none
  | fuel + 1 =>
    match readValue fuel text with
    | none => none
    | some (item, rest) =>
      match skipBlanks rest with
      | ',' :: rest => readItems fuel (item :: before) (skipBlanks rest)
      | ']' :: rest => some (.array (item :: before).reverse, rest)
      | _ => none

/-- Takes the members of an object up to its end, after those already read (last first). -/
def readMembers (fuel : Nat) (before : List (Text × Json)) (text : List Char) :
    Option (Json × List Char) :=
  match fuel with
  | 0 => none
  | fuel + 1 =>
    match text with
    | '"' :: rest =>
      match Literal.read rest with
      | none => none
      | some (key, rest) =>
        match skipBlanks rest with
        | ':' :: rest =>
          match readValue fuel (skipBlanks rest) with
          | none => none
          | some (value, rest) =>
            match skipBlanks rest with
            | ',' :: rest => readMembers fuel ((key, value) :: before) (skipBlanks rest)
            | '\x7d' :: rest => some (.object ((key, value) :: before).reverse, rest)
            | _ => none
        | _ => none
    | _ => none

end

/-- The value that a text writes, if the text is a value between blanks. -/
def parse (text : String) : Option Json :=
  match readValue (2 * text.length + 2) (skipBlanks text.toList) with
  | some (value, rest) => if (skipBlanks rest).isEmpty then some value else none
  | none => none

end MethodCorpus.Json
