import CallGuard.Token

/-!
# Lexemes of PHP

A lexeme is a stretch of the source: a token of a kind, or text between two tokens.

Main definitions:

- {lit}`Lexeme`: a stretch of the source.
-/

namespace CallGuard.Php

/-- A stretch of the source, with the kind of the token that it is, if it is one. -/
structure Lexeme where
  kind : Option TokenKind
  text : List Char
deriving Repr, DecidableEq

end CallGuard.Php
