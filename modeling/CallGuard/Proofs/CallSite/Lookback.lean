import CallGuard.CallSite
import Mathlib.Data.List.Basic

/-!
# Looking back from a call site

Whether a token is a bare call depends on its kind and on the kinds of the significant tokens in
front of it, of which the nearest two decide.  White space and comments never count, and neither
does anything behind the token.

Main results:

- Theorem {lit}`Tokens.lastSignificantBelow?_cases`: what the search for the last significant token
  finds.
- Theorem {lit}`isBareCall_eq`: bare calls by the kinds of the significant tokens before them.
- Theorem {lit}`isCallAfter_take_two`: two kinds decide.
- Theorem {lit}`isBareCall_eq_isCallBehind`: bare calls by the list of the significant tokens before
  them.
-/

namespace CallGuard

/-! ## Significant tokens before an index -/

namespace Tokens

/-- The significant tokens, in order. -/
def significant (tokens : Tokens) : List Token :=
  tokens.toList.filter (·.kind.isSignificant)

/-- The significant tokens before an index, in order. -/
def significantBefore (tokens : Tokens) (index : Nat) : List Token :=
  (tokens.toList.take index).filter (·.kind.isSignificant)

/-- The kinds of the significant tokens before an index, nearest first. -/
def kindsBefore (tokens : Tokens) (index : Nat) : List TokenKind :=
  ((tokens.significantBefore index).map (·.kind)).reverse

/-- Nothing stands before the first token. -/
@[simp]
theorem kindsBefore_zero (tokens : Tokens) : tokens.kindsBefore 0 = [] := by
  simp [kindsBefore, significantBefore]

/-- A significant token is the nearest one before the next index. -/
theorem kindsBefore_succ_of_significant {tokens : Tokens} {index : Nat} {token : Token}
    (htoken : tokens[index]? = some token) (hkind : token.kind.isSignificant = true) :
    tokens.kindsBefore (index + 1) = token.kind :: tokens.kindsBefore index := by
  rw [← Array.getElem?_toList] at htoken
  simp [kindsBefore, significantBefore, List.take_add_one, htoken, hkind]

/-- What is not a significant token makes no difference. -/
theorem kindsBefore_succ_of_not_significant {tokens : Tokens} {index : Nat}
    (htoken : (tokens[index]?).any (·.kind.isSignificant) = false) :
    tokens.kindsBefore (index + 1) = tokens.kindsBefore index := by
  rw [← Array.getElem?_toList] at htoken
  cases hindex : tokens.toList[index]? with
  | none => simp [kindsBefore, significantBefore, List.take_add_one, hindex]
  | some token =>
    rw [hindex, Option.any_some] at htoken
    simp [kindsBefore, significantBefore, List.take_add_one, hindex, htoken]

/-- The search for the last significant token before an index finds none if there is none, and else
the nearest one, before which the other significant tokens stand. -/
theorem lastSignificantBelow?_cases (tokens : Tokens) (index : Nat) :
    (tokens.lastSignificantBelow? index = none ∧ tokens.kindsBefore index = []) ∨
      ∃ previous kind, tokens.lastSignificantBelow? index = some previous ∧
        tokens.kind? previous = some kind ∧
        tokens.kindsBefore index = kind :: tokens.kindsBefore previous := by
  induction index with
  | zero => exact .inl ⟨rfl, kindsBefore_zero tokens⟩
  | succ index ih =>
    by_cases hany : (tokens[index]?).any (·.kind.isSignificant) = true
    · obtain ⟨token, htoken, hkind⟩ := (Option.any_eq_true _ _).mp hany
      refine .inr ⟨index, token.kind, ?_, ?_, kindsBefore_succ_of_significant htoken hkind⟩
      · rw [lastSignificantBelow?, if_pos hany]
      · rw [kind?, htoken, Option.map_some]
    · rw [lastSignificantBelow?, if_neg hany]
      rw [Bool.not_eq_true] at hany
      rw [kindsBefore_succ_of_not_significant hany]
      exact ih

end Tokens

/-! ## Bare calls -/

/-- Whether a token of a kind is a bare call behind significant tokens of given kinds, nearest
first. -/
def isCallAfter : List TokenKind → TokenKind → Bool
  | _, .eval => true
  | [], .identifier => true
  | .nsSeparator :: qualifiers, .identifier => qualifiers.head? != some .identifier
  | previous :: _, .identifier => !previous.claimsName
  | _, _ => false

/-- An identifier is claimed or qualified by the kinds of the significant tokens before it. -/
theorem not_isClaimed_eq (tokens : Tokens) (index : Nat) :
    (!isClaimed tokens index) = isCallAfter (tokens.kindsBefore index) .identifier := by
  unfold isClaimed
  rcases tokens.lastSignificantBelow?_cases index with
    ⟨hnone, hkinds⟩ | ⟨previous, kind, hprevious, hkind, hkinds⟩
  · rw [hnone, hkinds]
    rfl
  · rw [hprevious, hkinds]
    simp only [hkind]
    cases kind with
    | nsSeparator =>
      rcases tokens.lastSignificantBelow?_cases previous with
        ⟨hnone, hrest⟩ | ⟨first, qualifier, hfirst, hqualifier, hrest⟩
      · simp [hnone, hrest, isCallAfter]
      · simp [hfirst, hqualifier, hrest, isCallAfter, bne]
    | _ => rfl

/-- Whether a token is a bare call is decided by its kind and by the kinds of the significant tokens
before it. -/
theorem isBareCall_eq (tokens : Tokens) (index : Nat) :
    isBareCall tokens index =
      (tokens.kind? index).any (isCallAfter (tokens.kindsBefore index)) := by
  unfold isBareCall
  cases hkind : tokens.kind? index with
  | none => rfl
  | some kind =>
    rw [Option.any_some]
    cases kind with
    | identifier => exact not_isClaimed_eq tokens index
    | _ => simp [isCallAfter]

/-- The nearest two significant tokens decide. -/
theorem isCallAfter_take_two (context : List TokenKind) (kind : TokenKind) :
    isCallAfter (context.take 2) kind = isCallAfter context kind := by
  cases kind with
  | identifier =>
    rcases context with _ | ⟨previous, _ | ⟨qualifier, rest⟩⟩
    · rfl
    · rfl
    · cases previous <;> rfl
  | _ => rcases context with _ | ⟨previous, _ | ⟨qualifier, rest⟩⟩ <;> simp [isCallAfter]

/-- Only identifiers and evaluations are bare calls. -/
theorem kind_of_isCallAfter {context : List TokenKind} {kind : TokenKind}
    (hcall : isCallAfter context kind = true) : kind = .identifier ∨ kind = .eval := by
  cases kind with
  | identifier => exact .inl rfl
  | eval => exact .inr rfl
  | _ => simp [isCallAfter] at hcall

/-! ## The tokens that decide -/

/-- Whether significant tokens, in order, keep an identifier behind them from being a call: the last
of them is {lit}`function`, {lit}`::`, {lit}`->` or {lit}`?->`, or it is a namespace separator and the
one before it is an identifier. -/
def claimNext (before : List Token) : Bool :=
  match before.getLast? with
  | none => false
  | some previous =>
    [.function, .doubleColon, .objectOperator, .nullsafeObjectOperator].contains previous.kind ||
      previous.kind == .nsSeparator && before.dropLast.getLast?.any (·.kind == .identifier)

/-- Whether what stands behind significant tokens is a bare call: a place without a token is none, an
evaluation is one, an identifier is one unless the tokens before it keep it from being one, and no
other token is. -/
def isCallBehind (before : List Token) : Option Token → Bool
  | none => false
  | some token =>
    match token.kind with
    | .eval => true
    | .identifier => !claimNext before
    | _ => false

/-- Looking back over kinds is looking at the end of the list of tokens. -/
theorem isCallAfter_reverse_kinds (before : List Token) :
    isCallAfter (before.map (·.kind)).reverse .identifier = !claimNext before := by
  rcases List.eq_nil_or_concat before with rfl | ⟨front, previous, rfl⟩
  · rfl
  · have hqualifier : (front.map (·.kind)).reverse.head? = front.getLast?.map (·.kind) := by
      rw [List.head?_reverse, List.getLast?_map]
    simp only [claimNext, List.concat_eq_append, List.map_append, List.map_singleton,
      List.reverse_append, List.reverse_singleton, List.singleton_append, List.getLast?_concat,
      List.dropLast_concat]
    cases previous.kind with
    | nsSeparator =>
      rw [isCallAfter, hqualifier]
      cases front.getLast? with
      | none => rfl
      | some qualifier => simp [bne]
    | _ => rfl

/-- Whether there is a bare call at an index is decided by the token there and by the list of the
significant tokens before it, wherever white space and comments stand. -/
theorem isBareCall_eq_isCallBehind (tokens : Tokens) (index : Nat) :
    isBareCall tokens index = isCallBehind (tokens.significantBefore index) tokens[index]? := by
  rw [isBareCall_eq, Tokens.kind?, Tokens.kindsBefore]
  cases tokens[index]? with
  | none => rfl
  | some token =>
    simp only [Option.map_some, Option.any_some, isCallBehind]
    cases token.kind with
    | identifier => exact isCallAfter_reverse_kinds _
    | _ => simp [isCallAfter]

end CallGuard
