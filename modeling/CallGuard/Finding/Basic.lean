import CallGuard.Severity
import CallGuard.Token

/-!
# Findings

A finding says which rule found what, and where.  It has a short form on one line, a long form over
several lines, and the parts of a diagnostic that points at the source.

Main definitions:

- {lit}`Location`: a place in a file.
- {lit}`Finding`: a finding.
- {lit}`Finding.summary`, {lit}`Finding.details`: its two forms.
-/

namespace CallGuard

/-- A place in a file: line and column counted from one, the offset and the length in bytes, and the
index of the token. -/
structure Location where
  file : String
  line : Nat
  column : Nat
  offset : Nat
  length : Nat
  token : Nat
deriving Repr, DecidableEq, Inhabited

/-- A place that is only known by its line and column. -/
def Location.ofLine (file : String) (line column : Nat) : Location :=
  ⟨file, line, column, 0, 0, 0⟩

/-- The place of a token. -/
def Location.ofToken (file : String) (token : Token) (index : Nat) : Location :=
  ⟨file, token.line, token.column, token.offset, token.content.utf8ByteSize, index⟩

/-- A finding: the name of the rule, the identifier of the group, the severity, the place, the
message, the text that was found, and a reference to documentation. -/
structure Finding where
  rule : String
  group : String
  severity : Severity
  location : Location
  message : String
  matched : String
  doc : Option String
deriving Repr, DecidableEq, Inhabited

namespace Finding

/-- The rule and the group that a finding comes from. -/
def source (f : Finding) : String :=
  f.rule ++ "." ++ f.group

/-- The place of a finding as text. -/
def place (f : Finding) : String :=
  f.location.file ++ ":" ++ toString f.location.line ++ ":" ++ toString f.location.column

/-- A finding over several lines, each with its end. -/
def details (f : Finding) : String :=
  f.source ++ " at " ++ f.place ++ "\n  " ++ f.severity.name ++ ": " ++ f.message ++ "\n" ++
    match f.doc with
    | some doc => "  = see: " ++ doc ++ "\n"
    | none => ""

/-- A finding on one line. -/
def summary (f : Finding) : String :=
  f.place ++ ": " ++ f.severity.name ++ " [" ++ f.group ++ "] " ++ f.message ++
    match f.doc with
    | some doc => " (see: " ++ doc ++ ")"
    | none => ""

/-- The headline of the diagnostic of a finding. -/
def headline (f : Finding) : String :=
  "[" ++ f.group ++ "] " ++ f.message

/-- The advice of the diagnostic of a finding. -/
def advice (f : Finding) : Option String :=
  f.doc.map ("see: " ++ ·)

end Finding

end CallGuard
