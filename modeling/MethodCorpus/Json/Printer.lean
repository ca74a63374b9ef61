import MethodCorpus.Json.Literal

/-!
# Writing JSON

One printer serves two layouts. The compact one has no blanks at all. The other puts every item on a
line of its own, indented by two blanks a level, and a blank behind each colon; an array or object
without items is closed on the spot.

A value is written in front of the text that follows it, so that a long text is never copied.
-/

namespace MethodCorpus.Json

/-- What stands between the signs of a value. -/
structure Layout where
  /-- In front of an item or a closing bracket at a depth. -/
  gap : Nat → List Char
  /-- Behind a colon. -/
  afterColon : List Char

namespace Layout

/-- No blanks. -/
def compact : Layout := ⟨fun _ => [], []⟩

/-- A line for every item. -/
def lines : Layout := ⟨fun depth => '\n' :: List.replicate (2 * depth) ' ', [' ']⟩

end Layout

/-- The digits of a number in base ten. -/
def digits (n : Nat) : List Char := Nat.toDigits 10 n

/-- A minus sign, if there is one. -/
def sign (negative : Bool) : List Char := if negative then ['-'] else []

/-- A number as digits. -/
def Number.write (number : Number) (rest : List Char) : List Char :=
  match number with
  | integer negative magnitude => sign negative ++ (digits magnitude ++ rest)
  | decimal negative mantissa exponent =>
    sign negative ++ (digits mantissa ++ 'e' :: (sign (exponent < 0) ++
      (digits exponent.natAbs ++ rest)))

mutual

/-- Writes a value at a depth in front of what follows. -/
def write (layout : Layout) (depth : Nat) (value : Json) (rest : List Char) : List Char :=
  match value with
  | null => "null".toList ++ rest
  | bool true => "true".toList ++ rest
  | bool false => "false".toList ++ rest
  | number n => n.write rest
  | string text => Literal.write text rest
  | array [] => '[' :: ']' :: rest
  | array (item :: items) =>
    '[' :: (layout.gap (depth + 1) ++
      write layout (depth + 1) item (writeItems layout depth items rest))
  | object [] => '\x7b' :: '\x7d' :: rest
  | object ((key, value) :: members) =>
    '\x7b' :: (layout.gap (depth + 1) ++ Literal.write key (':' :: (layout.afterColon ++
      write layout (depth + 1) value (writeMembers layout depth members rest))))

/-- Writes the further items of an array and closes it. -/
def writeItems (layout : Layout) (depth : Nat) (items : List Json) (rest : List Char) : List Char :=
  match items with
  | [] => layout.gap depth ++ ']' :: rest
  | item :: items =>
    ',' :: (layout.gap (depth + 1) ++
      write layout (depth + 1) item (writeItems layout depth items rest))

/-- Writes the further members of an object and closes it. -/
def writeMembers (layout : Layout) (depth : Nat) (members : List (Text × Json))
    (rest : List Char) : List Char :=
  match members with
  | [] => layout.gap depth ++ '\x7d' :: rest
  | (key, value) :: members =>
    ',' :: (layout.gap (depth + 1) ++ Literal.write key (':' :: (layout.afterColon ++
      write layout (depth + 1) value (writeMembers layout depth members rest))))

end

/-- A value on one line, without blanks. -/
def compact (value : Json) : String := String.ofList (write .compact 0 value [])

/-- A value with an item on each line. -/
def pretty (value : Json) : String := String.ofList (write .lines 0 value [])

end MethodCorpus.Json
