import CallGuard.Ignore.Pattern
import CallGuard.Text.Basic

/-!
# Lines of ignore files

Each line of an ignore file that is neither blank nor a comment says for some paths below the
folder of the file whether they are ignored or kept.  The last line that says something about a
path decides.

Main definitions:

- {lit}`Ignore.Line`: a line of an ignore file.
- {lit}`Ignore.Line.parse?`: reading a line.
- {lit}`Ignore.fileLines`: the lines of a file.
- {lit}`Ignore.verdict?`: what a list of lines says about a path.
-/

namespace CallGuard.Ignore

/-- What an ignore file says about a path. -/
inductive Verdict where
  | ignore
  | keep
deriving Repr, DecidableEq

/-- A line: what it says, whether only about folders, and the pattern of the paths. -/
structure Line where
  verdict : Verdict
  folderOnly : Bool
  pieces : List Piece

/-! ## Reading -/

/-- A line without the white space at its end, unless that is a space behind a backslash. -/
def trimLine (line : List Char) : List Char :=
  if line.reverse.take 2 = [' ', '\\'] then line else Text.trimRight line

/-- The start of a line: what it says, whether its pattern is bound to the folder of the file, and
the rest of the line. -/
def lineStart : List Char → Verdict × Bool × List Char
  | '\\' :: '!' :: rest => (.ignore, false, '!' :: rest)
  | '\\' :: '#' :: rest => (.ignore, false, '#' :: rest)
  | '!' :: '/' :: rest => (.keep, true, rest)
  | '!' :: rest => (.keep, false, rest)
  | '/' :: rest => (.ignore, true, rest)
  | rest => (.ignore, false, rest)

/-- The end of a line: whether it is about folders only, and the line without the slash that says
so. -/
def lineEnd (line : List Char) : Bool × List Char :=
  match line.reverse with
  | '/' :: '\\' :: rest => (true, rest.reverse)
  | '/' :: rest => (true, rest.reverse)
  | _ => (false, line)

/-- A pattern without a slash that is not bound to the folder of the file is about paths at any
depth. -/
def atAnyDepth (bound : Bool) (pattern : List Char) : List Char :=
  if bound || pattern.contains '/' || pattern = ['*', '*'] then pattern
  else ['*', '*', '/'] ++ pattern

/-- A pattern for everything in a folder is not about the folder itself. -/
def insideFolder (pattern : List Char) : List Char :=
  if ['/', '*', '*'].isSuffixOf pattern then pattern ++ ['/', '*'] else pattern

/-- Reads a line; blank lines, comments and lines with an invalid pattern say nothing. -/
def Line.parse? (line : List Char) : Option Line :=
  if line.head? = some '#' then none
  else
    let line := trimLine line
    if line.isEmpty then none
    else
      let (verdict, bound, line) := lineStart line
      let (folderOnly, pattern) := lineEnd line
      (Ignore.parse? (insideFolder (atAnyDepth bound pattern))).map fun pieces =>
        ⟨verdict, folderOnly, pieces⟩

/-- The lines of a file as texts: those before the first one with a fault, where byte order marks
at the start of the file do not count. -/
def lineTexts (bytes : ByteArray) : List (List Char) :=
  let lines := Text.linesBy (some '\n') (some '\r') (Text.Utf8.decode bytes.toList)
  match (lines.takeWhile fun line => line.all (·.isSome)).map (·.filterMap id) with
  | first :: rest => first.dropWhile (· == Char.ofNat 0xfeff) :: rest
  | [] => []

/-- The lines of a file that say something. -/
def fileLines (bytes : ByteArray) : List Line :=
  (lineTexts bytes).filterMap Line.parse?

/-! ## Deciding -/

/-- Whether a line says something about a path. -/
def Line.isAbout (l : Line) (path : List UInt8) (isFolder : Bool) : Bool :=
  (isFolder || !l.folderOnly) && isMatch l.pieces path

/-- What the last line about a path says, where the path is given by its names below the folder of
the lines. -/
def verdict? (lines : List Line) (names : List String) (isFolder : Bool) : Option Verdict :=
  let path := Text.Utf8.encode (String.intercalate "/" names).toList
  (lines.reverse.find? (·.isAbout path isFolder)).map (·.verdict)

end CallGuard.Ignore
