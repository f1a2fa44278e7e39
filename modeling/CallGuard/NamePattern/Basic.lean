import CallGuard.Text.Basic

/-!
# Name patterns

A pattern for function names is a text in which a star, or a dot with a star behind it, stands for
any characters.  The rest of the text are its literal segments.  A pattern has a written form as a
regular expression, in which every character with a meaning of its own is escaped.  The written form
is made from the text in three passes: dots in front of stars are dropped, the text is cut at the
stars, and the escaped pieces are joined.

Main definitions:

- {lit}`NamePattern`: a pattern, never the empty text.
- {lit}`segments`: the literal segments between the stars.
- {lit}`escape`: a literal text in the written form.
- {lit}`expression`: the written form of a pattern text.
- {lit}`NamePattern.expression`: the written form of a pattern.
- {lit}`alternation`: the written form of a list of patterns.
-/

namespace CallGuard

/-- A pattern for function names.  It is not empty. -/
structure NamePattern where
  text : String
  text_ne_empty : text ≠ ""
deriving DecidableEq

instance : Repr NamePattern where
  reprPrec p n := reprPrec p.text n

/-! ## Segments -/

/-- Puts a character in front of the first segment. -/
def consSegment (c : Char) : List (List Char) → List (List Char)
  | [] => [[c]]
  | seg :: segs => (c :: seg) :: segs

/-- The literal segments of a pattern: the text cut at every star, where a cut also takes one dot
directly before the star. -/
def segments : List Char → List (List Char)
  | [] => [[]]
  | '.' :: '*' :: rest => [] :: segments rest
  | '*' :: rest => [] :: segments rest
  | c :: rest => consSegment c (segments rest)

/-! ## The written form -/

/-- The characters with a meaning of their own in a regular expression. -/
def metaCharacters : List Char :=
  ['\\', '.', '+', '*', '?', '(', ')', '|', '[', ']', '{', '}', '^', '$', '#', '&', '-', '~']

/-- A literal text in a regular expression: a backslash before every character with a meaning of
its own. -/
def escape : List Char → List Char
  | [] => []
  | c :: rest => if metaCharacters.contains c then '\\' :: c :: escape rest else c :: escape rest

/-- The regular expression of a list of segments, with any characters between two of them. -/
def joinSegments (segs : List (List Char)) : List Char :=
  List.intercalate ['.', '*'] (segs.map escape)

/-- A text in which every star has lost the dot directly before it. -/
def dropDots : List Char → List Char
  | [] => []
  | '.' :: '*' :: rest => '*' :: dropDots rest
  | c :: rest => c :: dropDots rest

/-- The regular expression of a pattern text. -/
def expression (text : String) : String :=
  String.ofList (joinSegments (Text.cut '*' (dropDots text.toList)))

namespace NamePattern

/-- The pattern with a text, unless the text is empty. -/
def ofText? (text : String) : Option NamePattern :=
  if h : text = "" then none else some ⟨text, h⟩

/-- The literal segments of a pattern. -/
def segments (p : NamePattern) : List (List Char) :=
  CallGuard.segments p.text.toList

/-- Whether a pattern has a star. -/
def hasWildcard (p : NamePattern) : Bool :=
  p.text.toList.contains '*'

/-- The regular expression of a pattern; a pattern without a star is a literal text. -/
def expression (p : NamePattern) : String :=
  if p.hasWildcard then CallGuard.expression p.text else String.ofList (escape p.text.toList)

end NamePattern

/-- The regular expression of a list of patterns: any of them between two word boundaries. -/
def alternation (patterns : List NamePattern) : String :=
  "\\b(?:" ++ String.intercalate "|" (patterns.map NamePattern.expression) ++ ")\\b"

end CallGuard
