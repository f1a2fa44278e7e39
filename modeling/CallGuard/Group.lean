import CallGuard.NamePattern.Matching
import CallGuard.Severity
import CallGuard.Text.Basic
import CallGuard.Text.Lowercase

/-!
# Groups of restricted names

A group names functions by patterns and says what to report about a call of one of them.  Names on
its list of exceptions are never reported.  A group is addressed by its identifier, which has to be
such that a comma-separated list can name it.

Main definitions:

- {lit}`Group`: a group of restricted names.
- {lit}`Group.Fault`: what can be wrong with an identifier.
- {lit}`Group.checkId`: the fault of an identifier, if it has one.
- {lit}`Group.restricts`: whether a group restricts a name.
-/

namespace CallGuard

/-- A group of restricted names: an identifier, the severity and the message of its findings, the
patterns of the names, the lower-case names that are allowed nevertheless, and a reference to its
documentation. -/
structure Group where
  id : String
  severity : Severity
  message : String
  patterns : List NamePattern
  allow : List String
  doc : Option String
deriving Repr, DecidableEq

namespace Group

/-- The group with the given texts; empty pattern texts are dropped, and allowed names are kept in
lower case. -/
def ofTexts (id : String) (severity : Severity) (message : String) (patterns allow : List String)
    (doc : Option String) : Group where
  id := id
  severity := severity
  message := message
  patterns := patterns.filterMap NamePattern.ofText?
  allow := allow.map Text.lowercase
  doc := doc

/-- A group without patterns restricts nothing. -/
def isEmpty (g : Group) : Bool :=
  g.patterns.isEmpty

/-- The allowed names in ascending order, each once. -/
def allowSorted (g : Group) : List String :=
  (g.allow.eraseDups).mergeSort fun a b => decide (a ≤ b)

/-! ## Identifiers -/

/-- What can be wrong with an identifier. -/
inductive Fault where
  | empty
  | invalid (id : String)
deriving Repr, DecidableEq

namespace Fault

/-- The text of a fault. -/
def message : Fault → String
  | empty => "group name must not be empty"
  | invalid id =>
    "invalid group name `" ++ id ++ "`: must not contain `,` or surrounding whitespace"

end Fault

/-- The fault of an identifier: it is blank, or it has a comma or white space at an end. -/
def checkId (id : String) : Option Fault :=
  if Text.trim id = "" then some .empty
  else if id.toList.contains ',' || Text.trim id != id then some (.invalid id)
  else none

/-! ## Matching -/

/-- The regular expression of the group's patterns. -/
def expression (g : Group) : String :=
  alternation g.patterns

/-- Whether the regular expression of a group is small enough for the limit of an engine. -/
def fitsIn (limit : String → Bool) (g : Group) : Bool :=
  limit g.expression

/-- The limit of an engine that takes every regular expression with at most so many characters. -/
def withinLimit (most : Nat) (expression : String) : Bool :=
  expression.length ≤ most

/-- Whether a lower-case name is an exception of the group. -/
def allows (g : Group) (name : String) : Bool :=
  g.allow.contains name

/-- The alternatives of the regular expression, as lists of segments.  Without a pattern, there is
one alternative, the empty text. -/
def alternatives (g : Group) : List (List (List Char)) :=
  if g.patterns.isEmpty then [[[]]] else g.patterns.map (·.segments)

/-- Whether some alternative occurs in a name. -/
def covers (g : Group) (name : String) : Bool :=
  g.alternatives.any (occurs · name.toList)

/-- Whether the group restricts a lower-case name. -/
def restricts (g : Group) (name : String) : Bool :=
  !g.allows name && g.covers name

end Group

end CallGuard
