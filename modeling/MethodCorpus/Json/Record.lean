import MethodCorpus.Json.Basic

/-!
# Records in JSON

A record is written as an object with a member for each of its fields, or as an array of its fields
in order. Members that are no fields are passed over; a field may not be given twice. In an array
the last fields may be left out. Whether a field that is missing has a default is up to its reader.

A value that nothing looks at only has to be well written. Where a value is kept before it is known
what it is for, it has to denote something as well (`isMeaningful`), and to be of bounded `depth`.
-/

namespace MethodCorpus.Json

/-- The value of a member; missing, or twice there and so no value at all. -/
def member? (name : String) (members : List (Text × Json)) : Option (Option Json) :=
  match members.filter (·.1 == some name) with
  | [] => some none
  | [(_, value)] => some (some value)
  | _ => none

/-- The fields of a record, in the order of their names. -/
def fields? (names : List String) (value : Json) : Option (List (Option Json)) :=
  match value with
  | object members =>
    if members.all (·.1.isSome) then names.mapM (member? · members) else none
  | array items =>
    if items.length ≤ names.length then
      some (items.map some ++ List.replicate (names.length - items.length) none)
    else none
  | _ => none

/-- The value as a text. -/
def text? : Json → Option String
  | string text => text
  | _ => none

/-- The greatest number of 64 bits. -/
def maxNat : Nat := 18446744073709551615

/-- The value as a natural number of 64 bits, written as digits alone. -/
def nat? : Json → Option Nat
  | number (.integer false magnitude) => if magnitude ≤ maxNat then some magnitude else none
  | _ => none

/-- The value as a list. -/
def list? {α : Type} (decode : Json → Option α) : Json → Option (List α)
  | array items => items.mapM decode
  | _ => none

/-- The value as something that may be missing, which null stands for. -/
def option? {α : Type} (decode : Json → Option α) : Json → Option (Option α)
  | null => some none
  | value => (decode value).map some

/-- A field that must be there. -/
def required? {α : Type} (decode : Json → Option α) (field : Option Json) : Option α :=
  field.bind decode

/-- A field with a default. -/
def optional? {α : Type} (decode : Json → Option α) (default : α) (field : Option Json) :
    Option α :=
  match field with
  | none => some default
  | some value => decode value

/-- A choice without contents, written as its name or as an object with its name for a key. What may
stand under the key is up to `isUnit`. -/
def choice? {α : Type} (isUnit : Json → Bool) (named? : String → Option α) (value : Json) :
    Option α :=
  match value with
  | string text => text.bind named?
  | object [(key, content)] => if isUnit content then key.bind named? else none
  | _ => none

/-- Whether the value is null. -/
def isNull : Json → Bool
  | null => true
  | _ => false

/-- The least number that is rounded to more than the greatest double. -/
def beyondDouble : Nat := (1 <<< 1024) - (1 <<< 970)

/-- Whether a number is within the range of a double. -/
def Number.isFinite : Number → Bool
  | integer _ magnitude => decide (magnitude < beyondDouble)
  | decimal _ mantissa exponent =>
    let order : Int := (Nat.toDigits 10 mantissa).length + exponent
    if mantissa = 0 || order < 309 then true
    else if 309 < order then false
    else decide
      (mantissa * Nat.pow 10 exponent.toNat < beyondDouble * Nat.pow 10 (-exponent).toNat)

mutual

/-- Whether every literal denotes a text and every number is within the range of a double. -/
def isMeaningful : Json → Bool
  | number n => n.isFinite
  | string text => text.isSome
  | array items => areMeaningful items
  | object members => membersMeaningful members
  | _ => true

/-- Whether all items of a list are meaningful. -/
def areMeaningful : List Json → Bool
  | [] => true
  | item :: items => item.isMeaningful && areMeaningful items

/-- Whether all keys and values of a list are meaningful. -/
def membersMeaningful : List (Text × Json) → Bool
  | [] => true
  | (key, value) :: members => key.isSome && value.isMeaningful && membersMeaningful members

end

mutual

/-- How many arrays and objects stand inside each other. -/
def depth : Json → Nat
  | array items => depths items + 1
  | object members => memberDepths members + 1
  | _ => 0

/-- The greatest depth in a list. -/
def depths : List Json → Nat
  | [] => 0
  | item :: items => max item.depth (depths items)

/-- The greatest depth of a value in a list of members. -/
def memberDepths : List (Text × Json) → Nat
  | [] => 0
  | (_, value) :: members => max value.depth (memberDepths members)

end

end MethodCorpus.Json
