import CallGuard.Rule

/-!
# Listeners

A table of listeners holds for each kind of token the indices of the rules that want to see it, so
that a token is shown to these rules only.

Main definitions:

- {lit}`Listeners`: a table of listeners.
- {lit}`Listeners.indicesOf`: the indices for a kind.
- {lit}`Listeners.ofRules`: the table of a list of rules.
-/

namespace CallGuard

/-- A table of listeners: kinds of tokens with the indices of rules. -/
structure Listeners where
  entries : List (TokenKind × List Nat)
deriving Repr, DecidableEq

namespace Listeners

/-- The table without listeners. -/
def empty : Listeners := ⟨[]⟩

/-- Whether nobody listens. -/
def isEmpty (l : Listeners) : Bool :=
  l.entries.isEmpty

/-- The indices of the rules that want to see a kind. -/
def indicesOf (l : Listeners) (kind : TokenKind) : List Nat :=
  ((l.entries.find? (·.1 = kind)).map (·.2)).getD []

/-- Adds an index to a list that does not hold it. -/
def addIndex (index : Nat) (indices : List Nat) : List Nat :=
  if indices.contains index then indices else indices ++ [index]

/-- Adds an index for a kind. -/
def addEntry (kind : TokenKind) (index : Nat) :
    List (TokenKind × List Nat) → List (TokenKind × List Nat)
  | [] => [(kind, [index])]
  | entry :: rest =>
    if entry.1 = kind then (kind, addIndex index entry.2) :: rest
    else entry :: addEntry kind index rest

/-- Adds a rule by its index and the kinds that it wants to see. -/
def add (l : Listeners) (index : Nat) (kinds : List TokenKind) : Listeners :=
  ⟨kinds.foldl (fun entries kind => addEntry kind index entries) l.entries⟩

/-- Adds rules, where {lit}`index` is the index of the first of them. -/
def addRules (l : Listeners) (index : Nat) : List Rule → Listeners
  | [] => l
  | r :: rest => (l.add index r.kinds).addRules (index + 1) rest

/-- The table of a list of rules. -/
def ofRules (rules : List Rule) : Listeners :=
  empty.addRules 0 rules

end Listeners

end CallGuard
