import CallGuard.Token

/-!
# Bare call sites

A bare call site is a place where a function is called by its plain name.  The decision looks back
over at most two significant tokens and never ahead.

Main definitions:

- {lit}`isBareCall`: whether the token at an index is a bare call site.
-/

namespace CallGuard

/-- Whether a name after a token of this kind is a declaration or a member, not a call. -/
def TokenKind.claimsName : TokenKind → Bool
  | .function | .doubleColon | .objectOperator | .nullsafeObjectOperator => true
  | _ => false

/-- Whether the identifier at {lit}`index` is qualified by a name before a namespace separator, or
claimed by the significant token before it. -/
def isClaimed (tokens : Tokens) (index : Nat) : Bool :=
  match tokens.lastSignificantBelow? index with
  | none => false
  | some previous =>
    match tokens.kind? previous with
    | some .nsSeparator =>
      (tokens.lastSignificantBelow? previous).bind tokens.kind? == some .identifier
    | some kind => kind.claimsName
    | none => false

/-- Whether the token at {lit}`index` is a bare call site.  The construct {lit}`eval` always is; an
identifier is one unless it is claimed or qualified; no other token is. -/
def isBareCall (tokens : Tokens) (index : Nat) : Bool :=
  match tokens.kind? index with
  | some .eval => true
  | some .identifier => !isClaimed tokens index
  | _ => false

end CallGuard
