import CallGuard.Settings.Basic
import CallGuard.Toml.Document
import CallGuard.Toml.Shape

/-!
# Settings in TOML

The settings of a run are read from the tables of a document.  A table that is not there takes the
default settings; a table that is there takes the defaults of its fields one by one.  Unknown keys
are passed over.

Main definitions:

- {lit}`SettingsError`: why a document holds no settings.
- {lit}`Settings.ofEntries`: the settings of the root table.
- {lit}`Settings.parse`: the settings of a document.
-/

namespace CallGuard

open Toml

/-- Why a document holds no settings. -/
inductive SettingsError where
  /-- It is no TOML document. -/
  | syntaxError
  /-- A value has the wrong shape. -/
  | shape (error : ShapeError)
deriving Repr, DecidableEq

/-! ## Files -/

/-- The record of the settings for scanning. -/
def ScanSettings.kind : RecordKind :=
  ⟨"struct AnalyzerConfig", ["root", "exclude", "extensions", "respect_gitignore"]⟩

/-- The settings for scanning while they are read. -/
structure ScanDraft where
  root : Option String
  exclude : Option (List String)
  extensions : Option (List String)
  respectIgnore : Option Bool

/-- Nothing is read yet. -/
def ScanDraft.empty : ScanDraft := ⟨none, none, none, none⟩

/-- Reads one of the settings for scanning. -/
def ScanDraft.set (d : ScanDraft) (key : String) (v : Value) : Shaped ScanDraft :=
  match key with
  | "root" => fill d.root key (asNamedText "path string" v) fun x => { d with root := some x }
  | "exclude" => fill d.exclude key (asTexts v) fun x => { d with exclude := some x }
  | "extensions" => fill d.extensions key (asTexts v) fun x => { d with extensions := some x }
  | "respect_gitignore" =>
    fill d.respectIgnore key (asBoolean v) fun x => { d with respectIgnore := some x }
  | _ => .ok d

/-- Reads the settings for scanning. -/
def ScanSettings.ofValue (v : Value) : Shaped ScanSettings := do
  let (d, _) ← readRecord ScanSettings.kind ScanDraft.empty ScanDraft.set v
  return ⟨d.root.getD ".", d.exclude.getD [], d.extensions.getD [], d.respectIgnore.getD true⟩

/-! ## Rules -/

/-- What is wrong with the value of a word in the place of its contents. -/
def unitProblem? : Value → Option String
  | .array [] | .tables [] | .table [] => none
  | .tables _ => some "expected empty array"
  | .array _ | .table _ => some "expected empty table"
  | .string _ => some "expected table, found string"
  | .integer _ => some "expected table, found integer"
  | .float _ => some "expected table, found float"
  | .boolean _ => some "expected table, found boolean"
  | .datetime _ => some "expected table, found datetime"

/-- Reads the word for a severity. -/
def Severity.ofWord (word : String) : Shaped Severity :=
  match Severity.ofName? word with
  | some s => .ok s
  | none => .error (.unknownVariant word "`warning` or `error`")

/-- Reads a severity: a word, or a table with the word as its only key. -/
def Severity.ofValue : Value → Shaped Severity
  | .string word => Severity.ofWord word
  | .table [] => .error (.noVariant "wanted exactly 1 element, found 0 elements")
  | .table [(word, contents)] =>
    match Severity.ofWord word, unitProblem? contents with
    | .ok _, some problem => .error (.noVariant problem)
    | severity, _ => severity
  | .table _ => .error (.noVariant "wanted exactly 1 element, more than 1 element")
  | _ => .error (.noVariant "wanted string or table")

/-- The record of the settings of a rule. -/
def RuleSettings.kind : RecordKind :=
  ⟨"struct SniffConfig", ["enabled", "severity"]⟩

/-- Reads one of the settings of a rule. -/
def RuleSettings.set (d : RuleSettings) (key : String) (v : Value) : Shaped RuleSettings :=
  match key with
  | "enabled" => fill d.enabled key (asBoolean v) fun x => { d with enabled := some x }
  | "severity" => fill d.severity key (Severity.ofValue v) fun x => { d with severity := some x }
  | _ => .ok d

/-- Reads the settings of a rule. -/
def RuleSettings.ofValue (v : Value) : Shaped RuleSettings :=
  (readRecord RuleSettings.kind ⟨none, none⟩ RuleSettings.set v).map (·.1)

/-! ## Restrictions -/

/-- The record of the settings for restrictions. -/
def RestrictionSettings.kind : RecordKind :=
  ⟨"struct RestrictionsConfig", ["presets", "exclude"]⟩

/-- The settings for restrictions while they are read. -/
structure RestrictionDraft where
  presets : Option (List String)
  exclude : Option String

/-- Reads one of the settings for restrictions. -/
def RestrictionDraft.set (d : RestrictionDraft) (key : String) (v : Value) :
    Shaped RestrictionDraft :=
  match key with
  | "presets" => fill d.presets key (asTexts v) fun x => { d with presets := some x }
  | "exclude" => fill d.exclude key (asText v) fun x => { d with exclude := some x }
  | _ => .ok d

/-- Reads the settings for restrictions. -/
def RestrictionSettings.ofValue (v : Value) : Shaped RestrictionSettings := do
  let (d, _) ← readRecord RestrictionSettings.kind ⟨none, none⟩ RestrictionDraft.set v
  return ⟨d.presets.getD [], d.exclude.getD ""⟩

/-! ## Documents -/

/-- Reads one of the tables of a document. -/
def Settings.set (s : Settings) (key : String) (v : Value) : Shaped Settings :=
  match key with
  | "analyzer" => (ScanSettings.ofValue v).map fun x => { s with scan := x }
  | "sniffs" => (asMap RuleSettings.ofValue v).map fun x => { s with rules := x }
  | "restrictions" => (RestrictionSettings.ofValue v).map fun x => { s with restrictions := x }
  | _ => .ok s

/-- The settings of the root table of a document. -/
def Settings.ofEntries (entries : List (String × Value)) : Shaped Settings :=
  entries.foldlM (fun s (key, value) => s.set key value) Settings.default

/-- The settings of a document. -/
def Settings.parse (source : String) : Except SettingsError Settings :=
  match Toml.parse? source with
  | none => .error .syntaxError
  | some entries =>
    match Settings.ofEntries entries with
    | .ok s => .ok s
    | .error e => .error (.shape e)

end CallGuard
