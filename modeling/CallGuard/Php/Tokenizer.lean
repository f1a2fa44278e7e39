import CallGuard.Php.Leaf
import CallGuard.Php.Lexer
import CallGuard.Tokenizer

/-!
# The tokenizer for PHP

The lexemes of a source that are tokens become leaves; the leaves and the gaps between them become
tokens.

Main definitions:

- {lit}`leaves`: the leaves of a source.
- {lit}`tokens`: the tokens of a source.
- {lit}`tokenizer`: the tokenizer for PHP.
-/

namespace CallGuard.Php

/-- The leaves of lexemes that start at an offset and its point. -/
def leavesFrom (offset : Nat) (point : Point) : List Lexeme → List Leaf
  | [] => []
  | l :: rest =>
    let stop := offset + Text.byteLength l.text
    let stopPoint := point.advance l.text
    match l.kind with
    | none => leavesFrom stop stopPoint rest
    | some kind => ⟨kind, offset, stop, point, stopPoint⟩ :: leavesFrom stop stopPoint rest

/-- The leaves of a source. -/
def leaves (source : List Char) : List Leaf :=
  leavesFrom 0 .start (lexemes source)

/-- The tokens of a source. -/
def tokens (source : String) : Tokens :=
  (tokensOfLeaves source (leaves source.toList)).toArray

/-- The tokenizer for PHP. -/
def tokenizer : Tokenizer where
  language := "php"
  extensions := [".php", ".inc"]
  tokenize source := .ok (tokens source)

end CallGuard.Php
