import CallGuard.Token

/-!
# Tokenizers

A tokenizer splits the text of a file into tokens.  It says which language it reads and which file
extensions it is for, and it may fail.

Main definitions:

- {lit}`TokenizeError`: why a text could not be split.
- {lit}`Tokenizer`: a tokenizer.
-/

namespace CallGuard

/-- Why a text could not be split into tokens. -/
inductive TokenizeError where
  /-- There is no usable grammar for the language. -/
  | grammar (language reason : String)
  /-- The text is not in the language. -/
  | source (language : String)
deriving Repr, DecidableEq

/-- The text of a failure. -/
def TokenizeError.message : TokenizeError → String
  | grammar language reason => "failed to load " ++ language ++ " grammar: " ++ reason
  | source language => "failed to tokenize " ++ language ++ " source"

/-- A tokenizer: its language, the extensions of the files that it is for, each with its dot, and
the tokens of a text. -/
structure Tokenizer where
  language : String
  extensions : List String
  tokenize : String → Except TokenizeError Tokens

end CallGuard
