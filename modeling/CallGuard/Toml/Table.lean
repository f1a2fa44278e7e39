import CallGuard.Toml.Value

/-!
# Building tables

A document fills its tables step by step.  Every table remembers how it came to be, because that
decides how it may be extended: a table with a header of its own is not extended by dotted keys, and
no table gets a second header.

Main definitions:

- {lit}`Origin`: how a table came to be.
- {lit}`Node`: a value, a table or an array of tables under construction.
- {lit}`updateAt`: changes the table at a path.
- {lit}`assign`, {lit}`openTable`, {lit}`openElement`: the three steps of a document.
-/

namespace CallGuard.Toml

/-- How a table came to be. -/
inductive Origin where
  /-- By a header of its own. -/
  | header
  /-- By the header of a table below it. -/
  | implied
  /-- By a dotted key. -/
  | dotted
deriving Repr, DecidableEq

/-- What a key stands for while the document is read. -/
inductive Node where
  | value (value : Value)
  | table (origin : Origin) (entries : List (String × Node))
  | tables (elements : List (List (String × Node)))
deriving Inhabited

/-- The entries of a table under construction, in order. -/
abbrev Entries := List (String × Node)

mutual

/-- The finished value of a node. -/
def Node.toValue : Node → Value
  | .value v => v
  | .table _ entries => .table (entriesToValues entries)
  | .tables elements => .tables (elementsToValues elements)

/-- The finished values of entries. -/
def entriesToValues : List (String × Node) → List (String × Value)
  | [] => []
  | (key, node) :: rest => (key, node.toValue) :: entriesToValues rest

/-- The finished tables of an array of tables. -/
def elementsToValues : List (List (String × Node)) → List Value
  | [] => []
  | entries :: rest => .table (entriesToValues entries) :: elementsToValues rest

end

namespace Entries

/-- What a key stands for. -/
def get? (entries : Entries) (key : String) : Option Node :=
  (List.find? (·.1 = key) entries).map (·.2)

/-- Changes what a key stands for, in its place. -/
def replace (entries : Entries) (key : String) (node : Node) : Entries :=
  List.map (fun entry => if entry.1 = key then (key, node) else entry) entries

/-- Removes a key. -/
def erase (entries : Entries) (key : String) : Entries :=
  List.filter (fun entry => entry.1 ≠ key) entries

/-- Adds a key at the end. -/
def push (entries : Entries) (key : String) (node : Node) : Entries :=
  List.append entries [(key, node)]

end Entries

/-- Changes the table at a path.  Missing tables on the way are added, and an array of tables stands
for its last element.  On the way of a dotted key, a table with a header is refused. -/
def updateAt (viaKey : Bool) (change : Origin → Entries → Option Entries) :
    List String → Origin → Entries → Option Entries
  | [], origin, entries => change origin entries
  | key :: path, _, entries =>
    match Entries.get? entries key with
    | none =>
      let origin := if viaKey then Origin.dotted else Origin.implied
      (updateAt viaKey change path origin []).map fun sub =>
        Entries.push entries key (.table origin sub)
    | some (.value _) => none
    | some (.table origin sub) =>
      if viaKey && origin == .header then none
      else (updateAt viaKey change path origin sub).map fun sub =>
        Entries.replace entries key (.table origin sub)
    | some (.tables elements) =>
      (updateAt viaKey change path .header (elements.getLastD [])).map fun sub =>
        Entries.replace entries key (.tables (elements.dropLast ++ [sub]))

/-- Gives a key a value.  A dotted key ends in a table that dotted keys have made. -/
def assign (path : List String) (key : String) (value : Value) (entries : Entries) :
    Option Entries :=
  let change (origin : Origin) (entries : Entries) : Option Entries :=
    if !path.isEmpty && origin != .dotted then none
    else if (Entries.get? entries key).isSome then none
    else some (Entries.push entries key (.value value))
  updateAt true change path .header entries

/-- Opens a table by its header.  A table that a header below it has implied moves to the end. -/
def openTable (path : List String) (key : String) (entries : Entries) : Option Entries :=
  let change (_ : Origin) (entries : Entries) : Option Entries :=
    match Entries.get? entries key with
    | none => some (Entries.push entries key (.table .header []))
    | some (.table .implied sub) =>
      some (Entries.push (Entries.erase entries key) key (.table .header sub))
    | some _ => none
  updateAt false change path .header entries

/-- Opens the next element of an array of tables by its header. -/
def openElement (path : List String) (key : String) (entries : Entries) : Option Entries :=
  let change (_ : Origin) (entries : Entries) : Option Entries :=
    match Entries.get? entries key with
    | none => some (Entries.push entries key (.tables [[]]))
    | some (.tables elements) => some (Entries.replace entries key (.tables (elements ++ [[]])))
    | some _ => none
  updateAt false change path .header entries

/-- Gives a key of the table at a path a value. -/
def assignIn (current : List String) (path : List String) (key : String) (value : Value)
    (entries : Entries) : Option Entries :=
  updateAt false (fun _ entries => assign path key value entries) current .header entries

end CallGuard.Toml
