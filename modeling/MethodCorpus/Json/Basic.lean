/-!
# JSON values

A JSON value is kept as it was written: members of an object in order and with repetitions, numbers
with their digits. What repetitions mean is for the reader of a particular record to say.
-/

namespace MethodCorpus

namespace Json

/-- A number as it is written. -/
inductive Number where
  /-- Digits alone, after a minus sign or not. -/
  | integer (negative : Bool) (magnitude : Nat)
  /-- Digits with a fraction or an exponent: a mantissa and a power of ten. -/
  | decimal (negative : Bool) (mantissa : Nat) (exponent : Int)
  deriving DecidableEq

/-- What a string literal denotes. An escape can name half of a surrogate pair without the other
half; such a literal is well written but denotes no text. -/
abbrev Text := Option String

end Json

/-- A JSON value. -/
inductive Json where
  | null
  | bool (value : Bool)
  | number (value : Json.Number)
  | string (text : Json.Text)
  | array (items : List Json)
  | object (members : List (Json.Text × Json))

namespace Json

/-- A text as a value. -/
def ofText (text : String) : Json := .string (some text)

/-- A natural number as a value. -/
def ofNat (n : Nat) : Json := .number (.integer false n)

/-- A value that may be missing, which is then null. -/
def ofOption {α : Type} (encode : α → Json) : Option α → Json
  | some value => encode value
  | none => .null

/-- A list of values. -/
def ofList {α : Type} (encode : α → Json) (values : List α) : Json :=
  .array (values.map encode)

/-- An object with the given members. -/
def ofMembers (members : List (String × Json)) : Json :=
  .object (members.map fun (key, value) => (some key, value))

end Json

end MethodCorpus
