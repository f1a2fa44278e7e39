import CallGuard.Finding.Basic

/-!
# Reports

A report collects the findings of a run and counts the files that were checked.

Main definitions:

- {lit}`Report`: findings and a number of files.
- {lit}`Report.add`, {lit}`Report.extend`: adding findings.
- {lit}`Report.hasErrors`, {lit}`Report.hasFindings`, {lit}`Report.count`: what it holds.
-/

namespace CallGuard

/-- The findings of a run and the number of files that were checked. -/
structure Report where
  findings : List Finding
  filesChecked : Nat
deriving Repr, DecidableEq, Inhabited

namespace Report

/-- The report of a run that has not begun. -/
def empty : Report := ⟨[], 0⟩

/-- Adds a finding. -/
def add (r : Report) (f : Finding) : Report :=
  { r with findings := r.findings ++ [f] }

/-- Adds another report; the number of files is a word of 64 bits. -/
def extend (r other : Report) : Report :=
  ⟨r.findings ++ other.findings, (r.filesChecked + other.filesChecked) % Nat.pow 2 64⟩

/-- The findings of a severity. -/
def ofSeverity (r : Report) (s : Severity) : List Finding :=
  r.findings.filter (·.severity = s)

/-- The number of findings of a severity. -/
def count (r : Report) (s : Severity) : Nat :=
  (r.ofSeverity s).length

/-- Whether some finding is fatal. -/
def hasErrors (r : Report) : Bool :=
  r.findings.any (·.severity.isFatal)

/-- Whether there is a finding of any severity. -/
def hasFindings (r : Report) : Bool :=
  !r.findings.isEmpty

end Report

end CallGuard
