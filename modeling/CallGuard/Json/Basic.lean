/-!
# JSON values

Numbers come in two forms: a natural number written with digits only, and any other number, which
is kept as it is written because nothing is computed with it.

Main definitions:

- {lit}`Json`: the values.
- {lit}`Json.field?`: the value of a field of an object.
-/

namespace CallGuard

/-- A JSON value. -/
inductive Json where
  | null
  | bool (value : Bool)
  | natural (value : Nat)
  | number (literal : String)
  | string (value : String)
  | array (items : List Json)
  | object (fields : List (String × Json))
deriving Inhabited, Repr

namespace Json

/-- The value of a field. -/
def field? (fields : List (String × Json)) (key : String) : Option Json :=
  (fields.find? (·.1 = key)).map (·.2)

/-- The fields of an object; other values have none. -/
def fields : Json → List (String × Json)
  | object fields => fields
  | _ => []

/-- The value of a field of an object. -/
def get? (value : Json) (key : String) : Option Json :=
  field? value.fields key

/-- The items of an array. -/
def items? : Json → Option (List Json)
  | array items => some items
  | _ => none

/-- The text of a string. -/
def text? : Json → Option String
  | string value => some value
  | _ => none

/-- The words of 64 bits: the natural numbers that a counter can hold. -/
def wordBound : Nat := Nat.pow 2 64

/-- The value of a natural number that a counter can hold. -/
def word? : Json → Option Nat
  | natural value => if value < wordBound then some value else none
  | _ => none

end Json

end CallGuard
