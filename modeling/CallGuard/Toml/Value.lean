/-!
# TOML values

The values of a TOML document.  Floating-point numbers and dates are kept as their texts, because
nothing is computed with them.

Main definitions:

- {lit}`Value`: the values.
-/

namespace CallGuard.Toml

/-- A value of a TOML document. -/
inductive Value where
  | string (text : String)
  | integer (value : Int)
  | float (text : String)
  | boolean (value : Bool)
  | datetime (text : String)
  | array (items : List Value)
  /-- An array whose elements are tables with headers of their own. -/
  | tables (elements : List Value)
  | table (entries : List (String × Value))
deriving Inhabited, Repr

end CallGuard.Toml
