import MethodCorpus.Json.Basic
import MethodCorpus.Json.Parser
import MethodCorpus.Json.Record

/-!
# TOML: numbers, dates and truth values

A value without quotes is a run of letters, digits and a few signs, which is read as a whole. It is
a truth value, an integer of 64 bits, a number with a fraction or an exponent, or a date or time.

A document is read as a JSON value, since that is all that its readers look at. Dates and numbers
that are no integers are of no use to them; they become a value that denotes nothing (`unusable`).
-/

namespace MethodCorpus.Toml

/-- A value that no reader has a use for. -/
def unusable : Json := .string none

/-- Whether a character may stand in a value without quotes. -/
def isScalarChar (c : Char) : Bool :=
  c.isAlphanum || c == '+' || c == '-' || c == '_' || c == '.' || c == ':'

/-- Digits without the bars between them. A bar stands between two digits. -/
def ungrouped? (isDigit : Char → Bool) : List Char → Option (List Char)
  | [] => none
  | [c] => if isDigit c then some [c] else none
  | c :: '_' :: rest =>
    if isDigit c then (ungrouped? isDigit rest).map (c :: ·) else none
  | c :: rest => if isDigit c then (ungrouped? isDigit rest).map (c :: ·) else none

/-- The digits of a whole number, which do not start with a needless zero. -/
def wholeDigits? (text : List Char) : Option (List Char) :=
  match ungrouped? Char.isDigit text with
  | some ('0' :: _ :: _) => none
  | digits => digits

/-- Whether a character is a digit in some base up to ten. -/
def isDigitBelow (base : Nat) (c : Char) : Bool := c.isDigit && c.toNat < '0'.toNat + base

/-- The number that digits write in a base up to ten. -/
def valueIn (base : Nat) (digits : List Char) : Nat :=
  digits.foldl (fun value c => base * value + (c.toNat - '0'.toNat)) 0

/-- The magnitude of an integer without a sign, with the base that its first two characters may
name. -/
def magnitude? : List Char → Option Nat
  | '0' :: 'x' :: digits =>
    (ungrouped? Text.isHexDigit digits).map fun digits => Text.hexValue (String.ofList digits)
  | '0' :: 'o' :: digits => (ungrouped? (isDigitBelow 8) digits).map (valueIn 8)
  | '0' :: 'b' :: digits => (ungrouped? (isDigitBelow 2) digits).map (valueIn 2)
  | digits => (wholeDigits? digits).map (valueIn 10)

/-- The integer with a sign and a magnitude, if it has 64 bits. -/
def integer? (negative : Bool) (magnitude : Nat) : Option Json :=
  if negative then
    if magnitude ≤ Json.maxNat / 2 + 1 then some (.number (.integer (magnitude != 0) magnitude))
    else none
  else if magnitude ≤ Json.maxNat then some (.number (.integer false magnitude)) else none

/-- The integer that a run of characters writes. Only decimal digits may have a sign. -/
def readInteger? : List Char → Option Json
  | '+' :: digits => (wholeDigits? digits).bind fun digits => integer? false (valueIn 10 digits)
  | '-' :: digits => (wholeDigits? digits).bind fun digits => integer? true (valueIn 10 digits)
  | text => (magnitude? text).bind (integer? false)

/-- A run of characters without the sign in front. -/
def unsigned : List Char → List Char
  | '+' :: rest => rest
  | '-' :: rest => rest
  | text => text

/-- Whether a run of characters is the exponent of a number. -/
def isExponent : List Char → Bool
  | c :: rest => (c == 'e' || c == 'E') && (ungrouped? Char.isDigit (unsigned rest)).isSome
  | [] => false

/-- Whether a character is a digit or stands between digits. -/
def isGrouped (c : Char) : Bool := c.isDigit || c == '_'

/-- Whether a run of characters is a number with a fraction or an exponent. -/
def isFloat (text : List Char) : Bool :=
  let text := unsigned text
  text == "inf".toList || text == "nan".toList ||
    ((wholeDigits? (text.takeWhile isGrouped)).isSome &&
      match text.dropWhile isGrouped with
      | '.' :: rest =>
        (ungrouped? Char.isDigit (rest.takeWhile isGrouped)).isSome &&
          ((rest.dropWhile isGrouped).isEmpty || isExponent (rest.dropWhile isGrouped))
      | rest => isExponent rest)

/-- The number that two digits write. -/
def twoDigits? (first second : Char) : Option Nat :=
  if first.isDigit && second.isDigit then some (valueIn 10 [first, second]) else none

/-- Whether a year has a day more than most. -/
def isLeapYear (year : Nat) : Bool := year % 4 == 0 && (year % 100 != 0 || year % 400 == 0)

/-- The number of days of a month. -/
def daysOf (year month : Nat) : Nat :=
  if month = 2 then if isLeapYear year then 29 else 28
  else if [4, 6, 9, 11].contains month then 30
  else 31

/-- Whether ten characters are a date. -/
def isDate : List Char → Bool
  | [y₁, y₂, y₃, y₄, '-', m₁, m₂, '-', d₁, d₂] =>
    match twoDigits? y₁ y₂, twoDigits? y₃ y₄, twoDigits? m₁ m₂, twoDigits? d₁ d₂ with
    | some century, some year, some month, some day =>
      1 ≤ month && month ≤ 12 && 1 ≤ day && day ≤ daysOf (100 * century + year) month
    | _, _, _, _ => false
  | _ => false

/-- Whether a run of characters is a second, with or without a fraction. -/
def isSecond : List Char → Bool
  | [s₁, s₂] => (twoDigits? s₁ s₂).any (· ≤ 60)
  | s₁ :: s₂ :: '.' :: fraction =>
    (twoDigits? s₁ s₂).any (· ≤ 60) && !fraction.isEmpty && fraction.all Char.isDigit
  | _ => false

/-- Whether a run of characters is a time of day; the second may be left out. -/
def isTime : List Char → Bool
  | h₁ :: h₂ :: ':' :: m₁ :: m₂ :: rest =>
    (twoDigits? h₁ h₂).any (· ≤ 23) && (twoDigits? m₁ m₂).any (· ≤ 59) &&
      match rest with
      | [] => true
      | ':' :: second => isSecond second
      | _ => false
  | _ => false

/-- Whether a run of characters is the distance of a time zone; there may be none. -/
def isOffset : List Char → Bool
  | [] | ['Z'] | ['z'] => true
  | [sign, h₁, h₂, ':', m₁, m₂] =>
    (sign == '+' || sign == '-') &&
      match twoDigits? h₁ h₂, twoDigits? m₁ m₂ with
      | some hours, some minutes => 60 * hours + minutes ≤ 24 * 60
      | _, _ => false
  | _ => false

/-- Whether a character belongs to a time of day and not to the distance behind it. -/
def isClockChar (c : Char) : Bool := c.isDigit || c == ':' || c == '.'

/-- Whether a run of characters is a time of day, with or without a distance. -/
def isZonedTime (text : List Char) : Bool :=
  isTime (text.takeWhile isClockChar) && isOffset (text.dropWhile isClockChar)

/-- Whether a run of characters is a date, a time, or both. -/
def isDateTime (text : List Char) : Bool :=
  isTime text || isDate text ||
    (isDate (text.take 10) &&
      match text.drop 10 with
      | c :: time => (c == 'T' || c == 't') && isZonedTime time
      | [] => false)

/-- The value of a run of characters. -/
def scalar? (text : List Char) : Option Json :=
  if text == "true".toList then some (.bool true)
  else if text == "false".toList then some (.bool false)
  else if isFloat text || isDateTime text then some unusable
  else readInteger? text

/-- Reads a value without quotes. A blank may stand between a date and a time. -/
def readScalar (text : List Char) : Option (Json × List Char) :=
  let word := text.takeWhile isScalarChar
  let rest := text.dropWhile isScalarChar
  match isDate word, rest with
  | true, ' ' :: time =>
    if isZonedTime (time.takeWhile isScalarChar) then
      some (unusable, time.dropWhile isScalarChar)
    else some (unusable, rest)
  | _, _ => (scalar? word).map (·, rest)

end MethodCorpus.Toml
