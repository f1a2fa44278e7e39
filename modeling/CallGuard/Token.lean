/-!
# Tokens

A source file is a sequence of tokens in the order of the text.  White space and comments carry no
code; all other tokens are significant.

Main definitions:

- {lit}`TokenKind`: the kinds of tokens.
- {lit}`Token`: a token with its text and its place in the file.
- {lit}`Tokens`: the tokens of a file.
- {lit}`Tokens.previousSignificant?`: the nearest significant token at or before an index.
-/

namespace CallGuard

/-! ## Kinds -/

/-- The kinds of tokens. -/
inductive TokenKind where
  | identifier
  | eval
  | function
  | doubleColon
  | objectOperator
  | nullsafeObjectOperator
  | nsSeparator
  | «namespace»
  | whitespace
  | comment
  | docComment
  | variable
  | constantString
  | doubleQuotedString
  | openParenthesis
  | closeParenthesis
  | inlineHtml
  | openTag
  | closeTag
  | other
deriving Repr, DecidableEq, Inhabited

namespace TokenKind

/-- White space and comments carry no code. -/
def isTrivia : TokenKind → Bool
  | whitespace | comment | docComment => true
  | _ => false

/-- Whether tokens of a kind carry code. -/
def isSignificant (k : TokenKind) : Bool :=
  !k.isTrivia

end TokenKind

/-! ## Tokens and their places -/

/-- A token: its kind, its text, its line and column counted from one, columns in bytes, and its
offset in bytes from the start of the file. -/
structure Token where
  kind : TokenKind
  content : String
  line : Nat
  column : Nat
  offset : Nat
deriving Repr, DecidableEq, Inhabited

/-- The tokens of a file in the order of the text. -/
abbrev Tokens := Array Token

namespace Tokens

/-- The index of the last significant token among the first {lit}`count` tokens. -/
def lastSignificantBelow? (tokens : Tokens) : Nat → Option Nat
  | 0 => none
  | i + 1 =>
    if (tokens[i]?).any (·.kind.isSignificant) then some i
    else lastSignificantBelow? tokens i

/-- The index of the nearest significant token at or before {lit}`index`; none if there is no such
token or {lit}`index` is out of range. -/
def previousSignificant? (tokens : Tokens) (index : Nat) : Option Nat :=
  if index < tokens.size then lastSignificantBelow? tokens (index + 1) else none

/-- The kind of the token at an index. -/
def kind? (tokens : Tokens) (index : Nat) : Option TokenKind :=
  tokens[index]?.map (·.kind)

end Tokens

end CallGuard
