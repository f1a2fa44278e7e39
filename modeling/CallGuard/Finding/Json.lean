import CallGuard.Json.Basic
import CallGuard.Report

/-!
# Findings and reports as JSON

A finding is an object with its fields in a fixed order; the reference to documentation is left out
when there is none.  Reading accepts fields in any order and ignores unknown ones.  A record may
also be written as an array of its fields in order, and a severity as an object with its name as
the only key.

Main definitions:

- {lit}`Finding.toJson`, {lit}`Report.toJson`: writing.
- {lit}`Finding.ofJson?`, {lit}`Report.ofJson?`: reading.
-/

namespace CallGuard

/-! ## Writing -/

/-- A place as an object. -/
def Location.toJson (l : Location) : Json :=
  .object [("file", .string l.file), ("line", .natural l.line), ("column", .natural l.column),
    ("offset", .natural l.offset), ("length", .natural l.length), ("token", .natural l.token)]

/-- A finding as an object. -/
def Finding.toJson (f : Finding) : Json :=
  .object ([("rule", .string f.rule), ("group", .string f.group),
      ("severity", .string f.severity.name), ("location", f.location.toJson),
      ("message", .string f.message), ("matched", .string f.matched)] ++
    match f.doc with
    | some doc => [("doc_ref", .string doc)]
    | none => [])

/-- A report as an object. -/
def Report.toJson (r : Report) : Json :=
  .object [("violations", .array (r.findings.map Finding.toJson)),
    ("files_checked", .natural r.filesChecked)]

/-! ## Reading -/

/-- Reads the word for a severity, on its own or as the only key of an object. -/
def Severity.ofJson? : Json → Option Severity
  | .string word => Severity.ofName? word
  | .object [(word, .null)] => Severity.ofName? word
  | _ => none

/-- Reads a text that may be missing or null. -/
def optionalText? : Option Json → Option (Option String)
  | none | some .null => some none
  | some (.string value) => some (some value)
  | some _ => none

/-- Gives an array of values the names of the fields that they stand for. -/
def labelled (names : List String) : Json → Option (List (String × Json))
  | .object fields => some fields
  | .array items => if items.length ≤ names.length then some (names.zip items) else none
  | _ => none

/-- The names of the fields of a place, in order. -/
def Location.fieldNames : List String :=
  ["file", "line", "column", "offset", "length", "token"]

/-- The names of the fields of a finding, in order. -/
def Finding.fieldNames : List String :=
  ["rule", "group", "severity", "location", "message", "matched", "doc_ref"]

/-- The names of the fields of a report, in order. -/
def Report.fieldNames : List String :=
  ["violations", "files_checked"]

/-- Reads a place. -/
def Location.ofJson? (value : Json) : Option Location := do
  let fields ← labelled Location.fieldNames value
  let file ← (← Json.field? fields "file").text?
  let line ← (← Json.field? fields "line").word?
  let column ← (← Json.field? fields "column").word?
  let offset ← (← Json.field? fields "offset").word?
  let length ← (← Json.field? fields "length").word?
  let token ← (← Json.field? fields "token").word?
  return ⟨file, line, column, offset, length, token⟩

/-- Reads a finding. -/
def Finding.ofJson? (value : Json) : Option Finding := do
  let fields ← labelled Finding.fieldNames value
  let rule ← (← Json.field? fields "rule").text?
  let group ← (← Json.field? fields "group").text?
  let severity ← Severity.ofJson? (← Json.field? fields "severity")
  let location ← Location.ofJson? (← Json.field? fields "location")
  let message ← (← Json.field? fields "message").text?
  let matched ← (← Json.field? fields "matched").text?
  let doc ← optionalText? (Json.field? fields "doc_ref")
  return ⟨rule, group, severity, location, message, matched, doc⟩

/-- Reads a report. -/
def Report.ofJson? (value : Json) : Option Report := do
  let fields ← labelled Report.fieldNames value
  let items ← (← Json.field? fields "violations").items?
  let findings ← items.mapM Finding.ofJson?
  let filesChecked ← (← Json.field? fields "files_checked").word?
  return ⟨findings, filesChecked⟩

end CallGuard
