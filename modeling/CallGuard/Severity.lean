/-!
# Severities

A finding is a warning or an error.  Errors are the fatal ones: a run that reports one fails.

Main definitions:

- {lit}`Severity`: the two severities.
- {lit}`Severity.ofType`: the severity that a group's type names.
- {lit}`Severity.name`: the word for a severity.
-/

namespace CallGuard

/-- How grave a finding is. -/
inductive Severity where
  | warning
  | error
deriving Repr, DecidableEq, Inhabited

namespace Severity

/-- The severity that a group's type names: only the word {lit}`warning` makes a warning, every
other text makes an error. -/
def ofType (value : String) : Severity :=
  if value = "warning" then warning else error

/-- The word for a severity. -/
def name : Severity → String
  | warning => "warning"
  | error => "error"

/-- The severity with a given word. -/
def ofName? (word : String) : Option Severity :=
  if word = "warning" then some warning
  else if word = "error" then some error
  else none

/-- Errors are fatal. -/
def isFatal (s : Severity) : Bool :=
  s = error

/-- Reading the word for a severity gives the severity back. -/
@[simp]
theorem ofName?_name (s : Severity) : ofName? s.name = some s := by
  cases s <;> decide

/-- The word for a severity is a type of that severity. -/
@[simp]
theorem ofType_name (s : Severity) : ofType s.name = s := by
  cases s <;> decide

end Severity

end CallGuard
