import CallGuard.Php.Grammar
import CallGuard.Php.Lexeme
import CallGuard.Php.Shell

/-!
# Splitting PHP source into lexemes

A source starts outside PHP, where all is text up to an opening tag.  Inside PHP, the goals of the
grammar at a position decide what the next sign is, and which goals come behind it.

Main definitions:

- {lit}`Reading`: the lexeme at a position, with the goals behind it.
- {lit}`step`: the lexeme at a position.
- {lit}`lexemes`: the lexemes of a source.

Main results:

- Theorem {lit}`flatMap_text_lex`: nothing of a source is lost or invented.
-/

namespace CallGuard.Php

/-- The lexeme at a position: the kind of its token, if it is one, its extent, and the goals behind
it. -/
structure Reading where
  kind : Option TokenKind
  extent : Nat
  goals : List Goal

/-! ## Outside PHP -/

/-- The characters that only separate texts outside PHP. -/
def isPageSpace (c : Char) : Bool :=
  c == ' ' || (9 ≤ c.toNat && c.toNat ≤ 13)

/-- The extent of text up to an opening tag. -/
def pageExtent : List Char → Nat
  | [] => 0
  | '<' :: '?' :: _ => 0
  | _ :: rest => 1 + pageExtent rest

/-- The extent of text outside PHP.  White space at its end belongs to it, unless a single opening
angle bracket stands in front. -/
def htmlExtent (cs : List Char) : Nat :=
  let text := cs.take (pageExtent cs)
  let trimmed := text.reverse.dropWhile isPageSpace
  if trimmed.head? == some '<' then trimmed.length else text.length

/-- The lexeme at a position outside PHP. -/
def pageStep (goals : List Goal) (cs : List Char) : Reading :=
  if startsWithWord "<?php" cs then ⟨some .openTag, 5, goals⟩
  else if startsWithWord "<?=" cs then ⟨some .openTag, 3, goals⟩
  else if startsWithWord "<?" cs then ⟨some .openTag, 2, goals⟩
  else if cs.head?.any isPageSpace then ⟨none, runExtent isPageSpace cs, .page :: goals⟩
  else ⟨some .inlineHtml, htmlExtent cs, .page :: goals⟩

/-! ## Inside PHP -/

/-- The lexeme at a position inside PHP. -/
def codeStep (goals : List Goal) (cs : List Char) : Reading :=
  if cs.head?.any isSpace then ⟨none, runExtent isSpace cs, goals⟩
  else if startsWithWord "?>" cs then ⟨some .other, 2, .page :: endStatement goals⟩
  else if let some (kind, extent) := comment? cs then ⟨some kind, extent, goals⟩
  else
    match Sign.read? (goals.head? == some .tail) cs with
    | none => ⟨none, 1, goals⟩
    | some (sign, extent) =>
      let (kind, goals) := advance goals ⟨sign, skipExtras (cs.drop extent)⟩
      ⟨some kind, extent, goals⟩

/-- The lexeme at a position between backquotes. -/
def shellStep (afterVariable : Bool) (goals : List Goal) (cs : List Char) : Reading :=
  let (kind, extent, inner) := shellMove afterVariable cs
  ⟨some kind, extent, inner ++ goals⟩

/-- The lexeme at a position with some goals. -/
def step : List Goal → List Char → Reading
  | .page :: goals => pageStep goals
  | .shell afterVariable :: goals => shellStep afterVariable goals
  | goals => codeStep goals

/-! ## Sources -/

/-- The lexemes of a text.  Every step takes at least one character. -/
def lex (goals : List Goal) : List Char → List Lexeme
  | [] => []
  | c :: rest =>
    let reading := step goals (c :: rest)
    ⟨reading.kind, c :: rest.take (reading.extent - 1)⟩ ::
      lex reading.goals (rest.drop (reading.extent - 1))
termination_by cs => cs.length
decreasing_by simp only [List.length_drop, List.length_cons]; omega

/-- The goals of a source. -/
def Goal.source : List Goal :=
  [.page, .statements []]

/-- The lexemes of a source, in which a byte order mark at the start is no text. -/
def lexemes : List Char → List Lexeme
  | [] => []
  | c :: rest =>
    if c.toNat = 0xfeff then ⟨none, [c]⟩ :: lex Goal.source rest else lex Goal.source (c :: rest)

/-- The texts of the lexemes make up the text they were read from. -/
theorem flatMap_text_lex (goals : List Goal) (cs : List Char) :
    (lex goals cs).flatMap (·.text) = cs := by
  fun_induction lex goals cs with
  | case1 => rfl
  | case2 goals c rest reading ih =>
    simp only [List.flatMap_cons, ih, List.cons_append, List.take_append_drop]

/-- The texts of the lexemes make up the source. -/
theorem flatMap_text_lexemes (cs : List Char) : (lexemes cs).flatMap (·.text) = cs := by
  cases cs with
  | nil => rfl
  | cons c rest =>
    by_cases h : c.toNat = 0xfeff
    · simp [lexemes, h, flatMap_text_lex]
    · simp [lexemes, h, flatMap_text_lex]

end CallGuard.Php
