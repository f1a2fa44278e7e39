import CallGuard.Analyzer.Discovery
import CallGuard.Report

/-!
# Running an analyzer

A run analyzes the files that it discovers one after the other.  A file that cannot be read or
cannot be split into tokens is left out, unless the run is strict, which then ends with an error.

Main definitions:

- {lit}`Analyzer.base`: what reported paths are relative to.
- {lit}`Analyzer.analyzeAll`: the findings in each of a list of files.
- {lit}`Analyzer.analyze`: the report of a run.
-/

namespace CallGuard.Analyzer

/-- Reported paths are relative to the root, or to its folder if it is a file. -/
def base (a : Analyzer) (t : FileTree) : List Path.Component :=
  let root := Path.components a.root
  if t.isFileAt a.root then root.dropLast else root

/-- The findings in a file, whose bytes are read as text in any case. -/
def analyzeFile (a : Analyzer) (base : List Path.Component) (f : SourceFile) :
    Except RunError (List Finding) :=
  match f.contents with
  | .unreadable reason => .error (.read f.path reason)
  | .bytes bytes => a.analyzeSource base f.path (Text.Utf8.decodeLossy bytes)

/-- The findings in each of a list of files, without those files that are left out. -/
def analyzeAll (a : Analyzer) (base : List Path.Component) :
    List SourceFile → Except RunError (List (List Finding))
  | [] => .ok []
  | f :: rest =>
    match a.analyzeFile base f with
    | .ok findings => (a.analyzeAll base rest).map (findings :: ·)
    | .error e => if a.strict then .error e else a.analyzeAll base rest

/-- The report of a run over the files of a tree. -/
def analyze (a : Analyzer) (t : FileTree) : Except RunError Report :=
  match a.discover t with
  | .error e => .error e
  | .ok files =>
    (a.analyzeAll (a.base t) files).map fun found =>
      ⟨Finding.sort found.flatten, found.length⟩

end CallGuard.Analyzer
