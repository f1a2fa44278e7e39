import CallGuard.NamePattern.Basic
import CallGuard.Text.Fold
import CallGuard.Text.Word

/-!
# Finding a pattern in a name

A pattern occurs in a name if some part of the name, from one word boundary to another, consists of
the segments of the pattern in order and up to case, with any characters but line feeds between
them.

The search keeps the set of positions reached so far as one mark per position of the name, from the
position before its first character to the one behind its last.  All starting positions are
followed at once, so the work for a segment is one pass over the name.

Main definitions:

- {lit}`boundaryMarks`: the word boundaries of a name.
- {lit}`land`: the positions behind an occurrence of a segment.
- {lit}`sweep`: the positions reached over any characters but line feeds.
- {lit}`occurs`: whether a list of segments occurs in a name between word boundaries.
-/

namespace CallGuard

open Text

/-- The marks of the word boundaries among the positions of a name, where {lit}`before` is the
character in front of it. -/
def boundaryMarks (before : Option Char) : List Char → List Bool
  | [] => [isBoundary before none]
  | c :: rest => isBoundary before (some c) :: boundaryMarks (some c) rest

/-- Whether a text starts with a segment, up to case. -/
def startsWith : List Char → List Char → Bool
  | [], _ => true
  | _ :: _, [] => false
  | a :: seg, b :: text => decide (SameLetter a b) && startsWith seg text

/-- The marked positions at which a segment occurs. -/
def starts (seg : List Char) : List Char → List Bool → List Bool
  | _, [] => []
  | [], mark :: _ => [mark && seg.isEmpty]
  | c :: rest, mark :: marks => (mark && startsWith seg (c :: rest)) :: starts seg rest marks

/-- The positions behind an occurrence of a segment at a marked position. -/
def land (seg : List Char) (name : List Char) (marks : List Bool) : List Bool :=
  (List.replicate seg.length false ++ starts seg name marks).take (name.length + 1)

/-- The positions reached from a marked one, or from the current one if it is {lit}`live`, over any
characters but line feeds. -/
def sweep (live : Bool) : List Char → List Bool → List Bool
  | _, [] => []
  | [], mark :: _ => [live || mark]
  | c :: rest, mark :: marks =>
    (live || mark) :: sweep ((live || mark) && c != '\n') rest marks

/-- The positions behind an occurrence of all segments that starts at a marked position. -/
def reach (name : List Char) : List (List Char) → List Bool → List Bool
  | [], marks => marks
  | [seg], marks => land seg name marks
  | seg :: segs, marks => reach name segs (sweep false name (land seg name marks))

/-- Whether segments occur in a name from one word boundary to another. -/
def occurs (segs : List (List Char)) (name : List Char) : Bool :=
  let bounds := boundaryMarks none name
  (List.zipWith (· && ·) (reach name segs bounds) bounds).any id

end CallGuard
