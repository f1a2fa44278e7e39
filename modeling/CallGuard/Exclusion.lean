import CallGuard.Text.Basic

/-!
# Lists of excluded groups

The identifiers of the groups that a run leaves out are given as one text, separated by commas.
White space around an identifier and blank entries do not count.

Main definitions:

- {lit}`Exclusion.parse`: the identifiers of a text.
- {lit}`Exclusion.join`: a text that excludes what either of two texts excludes.
-/

namespace CallGuard

/-- The identifiers of the groups to leave out. -/
structure Exclusion where
  ids : List String
deriving Repr, DecidableEq

namespace Exclusion

/-- Nothing is left out. -/
def none : Exclusion := ⟨[]⟩

/-- Reads a comma-separated text. -/
def parse (value : String) : Exclusion where
  ids := (((Text.cut ',' value.toList).map Text.trimChars).filter (!·.isEmpty)).map String.ofList

/-- Whether an identifier is left out. -/
def contains (x : Exclusion) (id : String) : Bool :=
  x.ids.contains id

/-- Whether nothing is left out. -/
def isEmpty (x : Exclusion) : Bool :=
  x.ids.isEmpty

/-- A configured text, followed by one from elsewhere if there is one. -/
def join (configured : String) (extra : Option String) : String :=
  match extra with
  | some extra => if Text.trim configured = "" then extra else configured ++ "," ++ extra
  | Option.none => configured

end Exclusion

end CallGuard
