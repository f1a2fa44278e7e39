import CallGuard.Text.Marks
import CallGuard.Text.Utf8

/-!
# Patterns of ignore files

A line of an ignore file holds a pattern for the path of a file or folder, which is matched byte by
byte.  A question mark stands for one byte and a star for a run of bytes, both without slashes;
brackets stand for a byte of a set; braces hold alternatives, separated by commas; a backslash
takes the next character as it is; and two stars that make up a whole part of the pattern stand for
any number of folders.  A bracket that is never closed stands for itself, and so do all brackets
behind it.

Main definitions:

- {lit}`Ignore.Piece`: a piece of a pattern.
- {lit}`Ignore.Lexeme`: the signs of a pattern.
- {lit}`Ignore.parse?`: the pieces of a pattern.
- {lit}`Ignore.isMatch`: whether a path matches the pieces of a pattern.
-/

namespace CallGuard.Ignore

open Text

/-! ## Pieces -/

/-- A piece of a pattern. -/
inductive Piece where
  /-- A byte that stands for itself. -/
  | byte (b : UInt8)
  /-- One byte that is no slash. -/
  | one
  /-- Any number of bytes that are no slashes. -/
  | run
  /-- Any number of folders in front. -/
  | foldersFirst
  /-- Everything below a folder. -/
  | foldersLast
  /-- Any number of folders in between. -/
  | foldersBetween
  /-- A byte in some ranges, or in none of them. -/
  | set (negated : Bool) (ranges : List (UInt8 × UInt8))
  /-- One of some alternatives; those that are empty do not count. -/
  | choice (alternatives : List (List Piece))

/-! ## Signs -/

/-- A sign of a pattern. -/
inductive Lexeme where
  | literal (c : Char)
  | slash
  | question
  | star
  | comma
  | openBrace
  | closeBrace
  | set (negated : Bool) (ranges : List (Char × Char))
deriving Repr, DecidableEq

/-- How the text behind an opening bracket goes on. -/
inductive SetEnd where
  /-- The set ends, and a text follows. -/
  | closed (ranges : List (Char × Char)) (rest : List Char)
  /-- The bracket is never closed. -/
  | unclosed
  /-- A range has its ends in the wrong order. -/
  | disordered
deriving Repr, DecidableEq

/-- Extends the last range, which stands first in the list, if its ends are then in order. -/
def extendRange? (c : Char) : List (Char × Char) → Option (List (Char × Char))
  | (first, _) :: rest => if c < first then none else some ((first, c) :: rest)
  | [] => some [(c, c)]

/-- Reads the ranges of a set, of which those before are given in backward order.  The first
character never closes the set, and {lit}`inRange` tells whether a dash behind a character was
read. -/
def readRanges (ranges : List (Char × Char)) (first inRange : Bool) : List Char → SetEnd
  | [] => .unclosed
  | c :: rest =>
    if c = ']' ∧ !first then
      .closed (if inRange then ('-', '-') :: ranges else ranges).reverse rest
    else if c = '-' ∧ !first ∧ !inRange then
      readRanges ranges false true rest
    else if inRange then
      match extendRange? c ranges with
      | some ranges => readRanges ranges false false rest
      | none => .disordered
    else
      readRanges ((c, c) :: ranges) false false rest

/-- What follows a set is shorter than the text. -/
theorem readRanges_length {ranges found : List (Char × Char)} {first inRange : Bool}
    {cs rest : List Char} (h : readRanges ranges first inRange cs = .closed found rest) :
    rest.length < cs.length := by
  fun_induction readRanges ranges first inRange cs with
  | case1 => simp at h
  | case2 => simp only [SetEnd.closed.injEq] at h; simp [h.2]
  | case3 ranges first inRange c rest' _ _ ih => exact Nat.lt_succ_of_lt (ih h)
  | case4 ranges first c rest' _ _ _ _ ih => exact Nat.lt_succ_of_lt (ih h)
  | case5 => simp at h
  | case6 ranges first inRange c rest' _ _ _ ih => exact Nat.lt_succ_of_lt (ih h)

/-- Whether a set is negated, and its text. -/
def setSign : List Char → Bool × List Char
  | '!' :: rest | '^' :: rest => (true, rest)
  | rest => (false, rest)

/-- The sign of a set is no longer than its text. -/
theorem setSign_length (cs : List Char) : (setSign cs).2.length ≤ cs.length := by
  unfold setSign
  split <;> simp

/-- The signs of a pattern, where {lit}`plain` tells whether brackets stand for themselves; none if
a range has its ends in the wrong order or a backslash stands last. -/
def lexemes? (plain : Bool) (pattern : List Char) : Option (List Lexeme) :=
  match pattern with
  | [] => some []
  | '?' :: rest => (lexemes? plain rest).map (.question :: ·)
  | '*' :: rest => (lexemes? plain rest).map (.star :: ·)
  | '/' :: rest => (lexemes? plain rest).map (.slash :: ·)
  | ',' :: rest => (lexemes? plain rest).map (.comma :: ·)
  | '{' :: rest => (lexemes? plain rest).map (.openBrace :: ·)
  | '}' :: rest => (lexemes? plain rest).map (.closeBrace :: ·)
  | '\\' :: c :: rest => (lexemes? plain rest).map (.literal c :: ·)
  | ['\\'] => none
  | '[' :: rest =>
    if plain then (lexemes? plain rest).map (.literal '[' :: ·)
    else
      match _h : readRanges [] true false (setSign rest).2 with
      | .closed ranges after => (lexemes? plain after).map (.set (setSign rest).1 ranges :: ·)
      | .unclosed => (lexemes? true rest).map (.literal '[' :: ·)
      | .disordered => none
  | c :: rest => (lexemes? plain rest).map (.literal c :: ·)
termination_by pattern.length
decreasing_by
  all_goals simp only [List.length_cons]
  all_goals try omega
  have := readRanges_length _h
  have := setSign_length rest
  omega

/-! ## Reading -/

/-- The ranges of bytes of a range of characters: a character alone stands for each of its bytes. -/
def byteRanges (r : Char × Char) : List (UInt8 × UInt8) :=
  let first := Text.Utf8.encode [r.1]
  let last := Text.Utf8.encode [r.2]
  if r.1 = r.2 then first.map fun b => (b, b)
  else
    (first.dropLast.map fun b => (b, b)) ++ [(first.getLast?.getD 0, last.head?.getD 0)] ++
      last.tail.map fun b => (b, b)

/-- The pieces of a character that stands for itself, in backward order. -/
def literalPieces (c : Char) : List Piece :=
  (Text.Utf8.encode [c]).reverse.map .byte

/-- An opened brace: the pieces in front of it, in backward order, and its finished alternatives. -/
structure Brace where
  front : List Piece
  alternatives : List (List Piece)

/-- Puts a piece for folders in the place of the slash in front of it; folders in front of
everything already stand for it. -/
def absorbSlash (piece : Piece) : List Piece → List Piece
  | .foldersFirst :: rest => .foldersFirst :: rest
  | _ :: rest => piece :: rest
  | [] => [piece]

/-- Whether two stars behind a character may stand for folders: behind a slash, and within braces
also behind a comma or an opening brace that stands for itself. -/
def leadsToFolders (inBraces : Bool) (c : Char) : Bool :=
  c == '/' || (inBraces && (c == ',' || c == '{'))

/-- Arranges signs into pieces: {lit}`braces` are the opened braces, {lit}`front` are the pieces
of the present alternative in backward order, and {lit}`slash` tells whether a slash, or what counts
as one, was read last. -/
def arrange? (braces : List Brace) (front : List Piece) (slash : Bool) :
    List Lexeme → Option (List Piece)
  | [] => if braces.isEmpty then some front.reverse else none
  | .star :: .star :: [] =>
    if front.isEmpty then arrange? braces [.foldersFirst] false []
    else if slash then arrange? braces (absorbSlash .foldersLast front) false []
    else arrange? braces (.run :: .run :: front) false []
  | .star :: .star :: .slash :: rest =>
    if front.isEmpty then arrange? braces [.foldersFirst] true rest
    else if slash then arrange? braces (absorbSlash .foldersBetween front) true rest
    else arrange? braces (.byte 47 :: .run :: .run :: front) true rest
  | .star :: .star :: l :: rest =>
    if !front.isEmpty && slash && !braces.isEmpty && (l = .comma || l = .closeBrace) then
      arrange? braces (absorbSlash .foldersLast front) false (l :: rest)
    else
      arrange? braces (.run :: .run :: front) false (l :: rest)
  | .star :: rest => arrange? braces (.run :: front) false rest
  | .question :: rest => arrange? braces (.one :: front) false rest
  | .slash :: rest => arrange? braces (.byte 47 :: front) true rest
  | .literal c :: rest =>
    arrange? braces (literalPieces c ++ front) (leadsToFolders (!braces.isEmpty) c) rest
  | .set negated ranges :: rest =>
    arrange? braces (.set negated (ranges.flatMap byteRanges) :: front) false rest
  | .openBrace :: rest => arrange? (⟨front, []⟩ :: braces) [] false rest
  | .comma :: rest =>
    match braces with
    | [] => arrange? [] (literalPieces ',' ++ front) false rest
    | b :: outer =>
      arrange? (⟨b.front, b.alternatives ++ [front.reverse]⟩ :: outer) [] false rest
  | .closeBrace :: rest =>
    match braces with
    | [] => none
    | b :: outer =>
      arrange? outer (.choice (b.alternatives ++ [front.reverse]) :: b.front) false rest

/-- The pieces of a pattern; none if the pattern is invalid. -/
def parse? (pattern : List Char) : Option (List Piece) :=
  (lexemes? false pattern).bind (arrange? [] [] false)

/-! ## Matching -/

/-- Whether a byte is the slash between two parts of a path. -/
def isSlash (b : UInt8) : Bool :=
  b == 47

/-- Whether a byte lies in one of some ranges. -/
def inRanges (ranges : List (UInt8 × UInt8)) (b : UInt8) : Bool :=
  ranges.any fun r => r.1 ≤ b && b ≤ r.2

mutual

/-- The marks for a piece in front of marks: the positions from which the piece leads to a marked
one. -/
def Piece.marks : Piece → List UInt8 → List Bool → List Bool
  | .byte b, text, next => markBefore (· == b) text next
  | .one, text, next => markBefore (!isSlash ·) text next
  | .run, text, next => markThrough (!isSlash ·) text next
  | .foldersFirst, text, next => markEither next (markAhead isSlash text next)
  | .foldersLast, text, next => markBefore isSlash text (markThrough (fun _ => true) text next)
  | .foldersBetween, text, next =>
    markBefore isSlash text (markEither next (markAhead isSlash text next))
  | .set negated ranges, text, next => markBefore (inRanges ranges · != negated) text next
  | .choice alternatives, text, next =>
    if alternatives.all (·.isEmpty) then next else choiceMarks alternatives text next

/-- The marks for a list of pieces in front of marks. -/
def piecesMarks : List Piece → List UInt8 → List Bool → List Bool
  | [], _, next => next
  | piece :: pieces, text, next => piece.marks text (piecesMarks pieces text next)

/-- The marks for the alternatives that are not empty in front of marks. -/
def choiceMarks : List (List Piece) → List UInt8 → List Bool → List Bool
  | [], text, _ => markNone text
  | [] :: alternatives, text, next => choiceMarks alternatives text next
  | pieces :: alternatives, text, next =>
    markEither (piecesMarks pieces text next) (choiceMarks alternatives text next)

end

/-- Whether a path as a whole matches the pieces of a pattern.  Folders in front with nothing behind
them stand for every path. -/
def isMatch (pieces : List Piece) (path : List UInt8) : Bool :=
  match pieces with
  | [.foldersFirst] => true
  | pieces => (piecesMarks pieces path (markEnd path)).headD false

end CallGuard.Ignore
