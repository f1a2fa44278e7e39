import CallGuard.Analyzer.Scan
import CallGuard.Glob
import CallGuard.Ignore.Tree

/-!
# Discovering files

The files of a run are those at or below its root that have one of the extensions, are not
excluded, and are not hidden by ignore files, if these count.

Main definitions:

- {lit}`SourceFile`: a file of a run.
- {lit}`Analyzer.wants`: whether a run reads the file at a path.
- {lit}`Analyzer.discover`: the files of a run in order of their paths.
-/

namespace CallGuard

/-- A file of a run: its path and what it gives when it is read. -/
structure SourceFile where
  path : String
  contents : FileContents
deriving DecidableEq

/-- Whether the path of a file may stand before that of another one. -/
def SourceFile.precedes (f g : SourceFile) : Bool :=
  !decide (Path.key g.path < Path.key f.path)

namespace Analyzer

/-- Whether the extension of a path is one of those of the run, without regard to the case of the
letters A to Z. -/
def supports (a : Analyzer) (path : String) : Bool :=
  a.extensions.any fun e => Text.sameIgnoringAsciiCase e (Path.extensionOf path)

/-- Whether a run reads the file at a path. -/
def wants (a : Analyzer) (path : String) : Bool :=
  a.supports path && !isExcluded a.excludes path

/-- The path of a file below the root. -/
def pathBelow (a : Analyzer) (way : List String) : String :=
  if way.isEmpty then a.root else Path.join a.root (String.intercalate "/" way)

/-- The files that a walk from the root comes to. -/
def visit (a : Analyzer) (t : FileTree) (root : List String) : List SourceFile :=
  (t.below root).filterMap fun (way, contents) =>
    if a.settings.scan.respectIgnore && t.isHidden a.folder root way then none
    else some ⟨a.pathBelow way, contents⟩

/-- The files of a run in order of their paths. -/
def discover (a : Analyzer) (t : FileTree) : Except RunError (List SourceFile) :=
  match t.locate? a.root with
  | none => .error (.missingRoot a.root)
  | some root =>
    if t.isFile root || t.isFolder root then
      .ok (((a.visit t root).filter fun f => a.wants f.path).mergeSort SourceFile.precedes)
    else
      .error (.missingRoot a.root)

end Analyzer

end CallGuard
