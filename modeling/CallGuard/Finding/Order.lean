import CallGuard.Finding.Basic
import CallGuard.Path

/-!
# The order of findings

Findings are sorted by file, line and column, where files are compared component by component.
Findings at one place keep the order in which they were found.

Main definitions:

- {lit}`Finding.precedes`: whether a finding may stand before another one.
- {lit}`Finding.sort`: the sorted findings.
-/

namespace CallGuard.Finding

/-- Whether a finding may stand before another one. -/
def precedes (f g : Finding) : Bool :=
  let file := Path.key f.location.file
  let other := Path.key g.location.file
  if file = other then
    f.location.line < g.location.line ||
      (f.location.line == g.location.line && f.location.column ≤ g.location.column)
  else
    file < other

/-- The findings in order of file, line and column. -/
def sort (findings : List Finding) : List Finding :=
  findings.mergeSort precedes

end CallGuard.Finding
