import CallGuard.Finding.Basic

/-!
# Rules

A rule names the kinds of tokens that it wants to see and says what it finds at such a token.

Main definitions:

- {lit}`Rule`: a rule.
- {lit}`Rule.listens`: whether a rule wants to see tokens of a kind.
-/

namespace CallGuard

/-- A rule: its name, a description, the kinds of tokens that it wants to see, and its findings at
the token with a given index of a file, whose reported path comes first. -/
structure Rule where
  name : String
  description : String
  kinds : List TokenKind
  inspect : String → Tokens → Nat → List Finding

/-- Whether a rule wants to see tokens of a kind. -/
def Rule.listens (r : Rule) (kind : TokenKind) : Bool :=
  r.kinds.contains kind

end CallGuard
