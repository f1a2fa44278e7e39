import CallGuard.Text.Quoted
import CallGuard.Toml.Value

/-!
# The shape of TOML values

Settings are read from values that have to be of the right shape.  A record is written as a table,
or as an array of its fields in order.  The first problem in the order of the document is reported.

Main definitions:

- {lit}`ShapeError`: what can be wrong with the shape of a value.
- {lit}`asText`, {lit}`asBoolean`, {lit}`asList`, {lit}`asTexts`: values of simple shapes.
- {lit}`readRecord`: a record, field by field.
-/

namespace CallGuard.Toml

/-! ## Errors -/

/-- What can be wrong with the shape of a value. -/
inductive ShapeError where
  /-- A required field is not there. -/
  | missing (field : String)
  /-- A field is given twice, under two of its names. -/
  | duplicate (field : String)
  /-- An array is too short for the record that it stands for. -/
  | tooShort (length : Nat) (expected : String)
  /-- A word is none of the allowed ones. -/
  | unknownVariant (word expected : String)
  /-- A value is of another type than expected. -/
  | wrongType (found expected : String)
  /-- A value cannot stand for one of several words. -/
  | noVariant (problem : String)
deriving Repr, DecidableEq

/-- The text of an error. -/
def ShapeError.message : ShapeError → String
  | missing field => "missing field `" ++ field ++ "`"
  | duplicate field => "duplicate field `" ++ field ++ "`"
  | tooShort length expected => "invalid length " ++ toString length ++ ", expected " ++ expected
  | unknownVariant word expected => "unknown variant `" ++ word ++ "`, expected " ++ expected
  | wrongType found expected => "invalid type: " ++ found ++ ", expected " ++ expected
  | noVariant problem => problem

/-- The result of reading a value. -/
abbrev Shaped := Except ShapeError

/-- What a value is, in the text of an error. -/
def Value.describe : Value → String
  | string text => "string " ++ Text.quoted text
  | integer value => "integer `" ++ toString value ++ "`"
  | float text => "floating point `" ++ text ++ "`"
  | boolean value => "boolean `" ++ (if value then "true" else "false") ++ "`"
  | datetime _ => "map"
  | array _ | tables _ => "sequence"
  | table _ => "map"

/-- Refuses a value. -/
def refuse {α : Type} (value : Value) (expected : String) : Shaped α :=
  .error (.wrongType value.describe expected)

/-! ## Simple shapes -/

/-- A text, under the given name in errors. -/
def asNamedText (expected : String) : Value → Shaped String
  | .string text => .ok text
  | value => refuse value expected

/-- A text. -/
def asText : Value → Shaped String :=
  asNamedText "a string"

/-- A truth value. -/
def asBoolean : Value → Shaped Bool
  | .boolean value => .ok value
  | value => refuse value "a boolean"

/-- The items of an array of either form. -/
def Value.items? : Value → Option (List Value)
  | array items | tables items => some items
  | _ => none

/-- A list of values of one shape. -/
def asList {α : Type} (item : Value → Shaped α) (value : Value) : Shaped (List α) :=
  match value.items? with
  | some items => items.mapM item
  | none => refuse value "a sequence"

/-- A list of texts. -/
def asTexts : Value → Shaped (List String) :=
  asList asText

/-! ## Entries and records -/

/-- The entries of a value: those of a table, and a date as the only entry of a table. -/
def Value.entries? : Value → Option (List (String × Value))
  | table entries => some entries
  | datetime text => some [("$__toml_private_datetime", string text)]
  | _ => none

/-- Values under names that the document chooses. -/
def asMap {α : Type} (item : Value → Shaped α) (value : Value) : Shaped (List (String × α)) :=
  match value.entries? with
  | some entries => entries.mapM fun (key, value) => (item value).map (key, ·)
  | none => refuse value "a map"

/-- Reads a field into a draft of a record, unless it has been read before. -/
def fill {α δ : Type} (old : Option α) (field : String) (item : Shaped α) (put : α → δ) : Shaped δ :=
  if old.isSome then .error (.duplicate field) else item.map put

/-- A required field: if it was not read, the error depends on how the record is written. -/
def required {α : Type} (field : Option α) (problem : ShapeError) : Shaped α :=
  match field with
  | some value => .ok value
  | none => .error problem

/-- How a record is written. -/
inductive Layout where
  | table
  | array
deriving Repr, DecidableEq

/-- A kind of record: its name in errors and its fields in order. -/
structure RecordKind where
  name : String
  fields : List String

/-- The error for a required field that is not there. -/
def RecordKind.missing (kind : RecordKind) (layout : Layout) (field : String) : ShapeError :=
  match layout with
  | .table => .missing field
  | .array =>
    .tooShort (kind.fields.idxOf field)
      (kind.name ++ " with " ++ toString kind.fields.length ++ " elements")

/-- Reads a record: each of its fields is set in a draft, in the order of the document. -/
def readRecord {δ : Type} (kind : RecordKind) (draft : δ) (set : δ → String → Value → Shaped δ)
    (value : Value) : Shaped (δ × Layout) :=
  match value.items?, value.entries? with
  | some items, _ =>
    ((kind.fields.zip items).foldlM (fun d (key, value) => set d key value) draft).map (·, .array)
  | none, some entries =>
    (entries.foldlM (fun d (key, value) => set d key value) draft).map (·, .table)
  | none, none => refuse value kind.name

end CallGuard.Toml
