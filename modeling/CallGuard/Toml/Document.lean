import CallGuard.Toml.Scalar
import CallGuard.Toml.Table

/-!
# TOML documents

A document is a sequence of lines: headers, assignments, comments and empty lines.  Reading either
gives the root table or fails; nothing is said about where and why.

Main definitions:

- {lit}`readValue`: a value of any form.
- {lit}`readKey`: a key, which may be dotted.
- {lit}`parse?`: the root table of a document.
-/

namespace CallGuard.Toml

/-- Arrays and inline tables are nested less deep than this, and dotted keys have fewer parts. -/
def maxDepth : Nat := 80

/-! ## Keys -/

/-- Whether a character may stand in a key without quotes. -/
def isBareKeyChar (c : Char) : Bool :=
  c.isAlphanum || c == '_' || c == '-'

/-- Reads one part of a key. -/
def readKeyPart (cs : List Char) : Option (String × List Char) :=
  match cs with
  | '"' :: rest => readBasic [] rest
  | c :: rest =>
    if c.toNat == 39 then readLiteral [] rest
    else
      let bare := cs.takeWhile isBareKeyChar
      if bare.isEmpty then none else some (String.ofList bare, cs.dropWhile isBareKeyChar)
  | [] => none

/-- Reads a key with at most {lit}`fuel` parts. -/
def readKeyParts : Nat → List Char → Option (List String × List Char)
  | 0, _ => none
  | fuel + 1, cs =>
    match readKeyPart (skipBlanks cs) with
    | none => none
    | some (part, rest) =>
      match skipBlanks rest with
      | '.' :: rest => (readKeyParts fuel rest).map fun (parts, rest) => (part :: parts, rest)
      | rest => some ([part], rest)

/-- Reads a key: the parts before the last, the last part, and what is left. -/
def readKey (cs : List Char) : Option (List String × String × List Char) :=
  match readKeyParts (maxDepth - 1) cs with
  | some (parts, rest) => parts.getLast?.map fun last => (parts.dropLast, last, rest)
  | none => none

/-! ## Values -/

/-- What is left behind blanks, line ends and comments. -/
def skipLines (inComment : Bool) : List Char → List Char
  | [] => []
  | '\r' :: '\n' :: rest => skipLines false rest
  | c :: rest =>
    if c == '\n' then skipLines false rest
    else if inComment then
      if isPlain c then skipLines true rest else c :: rest
    else if isBlank c then skipLines false rest
    else if c == '#' then skipLines true rest
    else c :: rest

mutual

/-- Reads a value at a depth of nesting. -/
def readValue (fuel depth : Nat) (cs : List Char) : Option (Value × List Char) :=
  match fuel with
  | 0 => none
  | fuel + 1 =>
    match cs with
    | '[' :: rest =>
      if maxDepth ≤ depth + 1 then none
      else
        match skipLines false rest with
        | ']' :: rest => some (.array [], rest)
        | rest => readItems fuel (depth + 1) [] rest
    | '{' :: rest =>
      if maxDepth ≤ depth + 1 then none
      else
        match skipBlanks rest with
        | '}' :: rest => some (.table [], rest)
        | rest => readPairs fuel (depth + 1) [] rest
    | '"' :: _ => (readString cs).map fun (s, rest) => (.string s, rest)
    | c :: _ =>
      if c.toNat == 39 then (readString cs).map fun (s, rest) => (.string s, rest)
      else readWord cs
    | [] => none

/-- Reads the items of an array up to its end; {lit}`items` are those read so far, last first. -/
def readItems (fuel depth : Nat) (items : List Value) (cs : List Char) :
    Option (Value × List Char) :=
  match fuel with
  | 0 => none
  | fuel + 1 =>
    match readValue fuel depth cs with
    | none => none
    | some (item, rest) =>
      match skipLines false rest with
      | ']' :: rest => some (.array (item :: items).reverse, rest)
      | ',' :: rest =>
        match skipLines false rest with
        | ']' :: rest => some (.array (item :: items).reverse, rest)
        | rest => readItems fuel depth (item :: items) rest
      | _ => none

/-- Reads the assignments of an inline table up to its end. -/
def readPairs (fuel depth : Nat) (entries : Entries) (cs : List Char) :
    Option (Value × List Char) :=
  match fuel with
  | 0 => none
  | fuel + 1 =>
    match readKey cs with
    | none => none
    | some (path, key, rest) =>
      match rest with
      | '=' :: rest =>
        match readValue fuel depth (skipBlanks rest) with
        | none => none
        | some (value, rest) =>
          match assign path key value entries with
          | none => none
          | some entries =>
            match skipBlanks rest with
            | '}' :: rest => some (.table (entriesToValues entries), rest)
            | ',' :: rest => readPairs fuel depth entries rest
            | _ => none
      | _ => none

end

/-! ## Lines -/

/-- What is left behind the end of a line, with blanks and a comment before it. -/
def endLine? (cs : List Char) : Option (List Char) :=
  let rest := skipBlanks cs
  let rest := if rest.head? = some '#' then rest.dropWhile isPlain else rest
  if rest.isEmpty then some [] else newline? rest

/-- A document that is being read: the root table and the path of the table that assignments go
to. -/
structure Draft where
  root : Entries
  current : List String

/-- Reads one line that is not empty. -/
def readLine (fuel : Nat) (draft : Draft) (cs : List Char) : Option (Draft × List Char) :=
  match cs with
  | '[' :: '[' :: rest =>
    match readKey rest with
    | some (path, key, ']' :: ']' :: rest) =>
      match openElement path key draft.root, endLine? rest with
      | some root, some rest => some (⟨root, path ++ [key]⟩, rest)
      | _, _ => none
    | _ => none
  | '[' :: rest =>
    match readKey rest with
    | some (path, key, ']' :: rest) =>
      match openTable path key draft.root, endLine? rest with
      | some root, some rest => some (⟨root, path ++ [key]⟩, rest)
      | _, _ => none
    | _ => none
  | _ =>
    match readKey cs with
    | some (path, key, '=' :: rest) =>
      match readValue fuel 0 (skipBlanks rest) with
      | some (value, rest) =>
        match assignIn draft.current path key value draft.root, endLine? rest with
        | some root, some rest => some (⟨root, draft.current⟩, rest)
        | _, _ => none
      | none => none
    | _ => none

/-- Reads the lines of a document. -/
def readLines (size : Nat) : Nat → Draft → List Char → Option Entries
  | 0, _, _ => none
  | fuel + 1, draft, cs =>
    match skipBlanks cs with
    | [] => some draft.root
    | c :: rest =>
      if c == '#' || c == '\n' || c == '\r' then
        match endLine? (c :: rest) with
        | some rest => readLines size fuel draft rest
        | none => none
      else
        match readLine size draft (c :: rest) with
        | some (draft, rest) => readLines size fuel draft rest
        | none => none

/-- The root table of a document; a byte order mark at its start does not count. -/
def parse? (source : String) : Option (List (String × Value)) :=
  let cs := source.toList
  let cs := if cs.head?.any (·.toNat == 0xfeff) then cs.tail else cs
  let size := 2 * cs.length + 2
  (readLines size size ⟨[], []⟩ cs).map entriesToValues

end CallGuard.Toml
