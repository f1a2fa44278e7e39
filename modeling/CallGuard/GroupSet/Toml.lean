import CallGuard.GroupSet
import CallGuard.Toml.Document
import CallGuard.Toml.Shape

/-!
# Groups in TOML

The groups of a document stand in its array of tables {lit}`groups`.  All other tables are passed
over.  The entries are checked one after the other: each has to have a valid identifier that no
entry before it has.

Main definitions:

- {lit}`GroupEntry`: a group as it is written.
- {lit}`LoadError`: why a document holds no set of groups.
- {lit}`GroupSet.load`: the set of a list of entries.
- {lit}`GroupSet.parse`: the set of a document.
-/

namespace CallGuard

open Toml

/-! ## Entries -/

/-- A group as it is written. -/
structure GroupEntry where
  name : String
  severity : String
  message : String
  functions : List String
  allow : List String
  doc : Option String
deriving Repr, DecidableEq

namespace GroupEntry

/-- The record of a group. -/
def kind : RecordKind :=
  ⟨"struct RuleGroupDto", ["name", "severity", "message", "functions", "allow", "doc"]⟩

/-- A group while it is read. -/
structure Draft where
  name : Option String
  severity : Option String
  message : Option String
  functions : Option (List String)
  allow : Option (List String)
  doc : Option String

/-- Nothing is read yet. -/
def Draft.empty : Draft := ⟨none, none, none, none, none, none⟩

/-- Reads one of the fields of a group, some of which have two names. -/
def Draft.set (d : Draft) (key : String) (v : Value) : Shaped Draft :=
  match key with
  | "name" => fill d.name "name" (asText v) fun x => { d with name := some x }
  | "severity" | "type" => fill d.severity "severity" (asText v) fun x => { d with severity := some x }
  | "message" => fill d.message "message" (asText v) fun x => { d with message := some x }
  | "functions" | "patterns" =>
    fill d.functions "functions" (asTexts v) fun x => { d with functions := some x }
  | "allow" | "whitelist" => fill d.allow "allow" (asTexts v) fun x => { d with allow := some x }
  | "doc" => fill d.doc "doc" (asText v) fun x => { d with doc := some x }
  | _ => .ok d

/-- Reads a group. -/
def ofValue (v : Value) : Shaped GroupEntry := do
  let (d, layout) ← readRecord kind Draft.empty Draft.set v
  let name ← required d.name (kind.missing layout "name")
  let message ← required d.message (kind.missing layout "message")
  return ⟨name, d.severity.getD "error", message, d.functions.getD [], d.allow.getD [], d.doc⟩

/-- The group that an entry describes. -/
def toGroup (e : GroupEntry) : Group :=
  Group.ofTexts e.name (Severity.ofType e.severity) e.message e.functions e.allow e.doc

/-- The entries of the root table of a document. -/
def ofEntries (entries : List (String × Value)) : Shaped (List GroupEntry) :=
  match entries.find? (·.1 = "groups") with
  | some (_, value) => asList ofValue value
  | none => .ok []

end GroupEntry

/-! ## Sets -/

/-- Why a document holds no set of groups. -/
inductive LoadError where
  /-- It is no TOML document. -/
  | syntaxError
  /-- A value has the wrong shape. -/
  | shape (error : ShapeError)
  /-- The identifier of the entry at an index has a fault. -/
  | invalid (index : Nat) (fault : Group.Fault)
  /-- The entry at an index has the identifier of an entry before it. -/
  | duplicate (index : Nat) (name : String)
deriving Repr, DecidableEq

/-- The text of an error that lies in the list of groups. -/
def LoadError.message : LoadError → String
  | syntaxError => "TOML parse error"
  | shape error => error.message
  | invalid index fault => "groups[" ++ toString index ++ "].name: " ++ fault.message
  | duplicate index name => "groups[" ++ toString index ++ "]: duplicate group name `" ++ name ++ "`"

namespace GroupSet

/-- Adds entries to a set, where {lit}`index` is the index of the first of them. -/
def loadFrom (index : Nat) (s : GroupSet) : List GroupEntry → Except LoadError GroupSet
  | [] => .ok s
  | e :: rest =>
    match Group.checkId e.name with
    | some fault => .error (.invalid index fault)
    | none =>
      if s.contains e.name then .error (.duplicate index e.name)
      else loadFrom (index + 1) (s.insert e.toGroup) rest

/-- The set of a list of entries. -/
def load (entries : List GroupEntry) : Except LoadError GroupSet :=
  loadFrom 0 ∅ entries

/-- The set of groups of a document. -/
def parse (source : String) : Except LoadError GroupSet :=
  match Toml.parse? source with
  | none => .error .syntaxError
  | some entries =>
    match GroupEntry.ofEntries entries with
    | .ok entries => load entries
    | .error e => .error (.shape e)

end GroupSet

end CallGuard
