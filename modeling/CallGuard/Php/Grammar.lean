import CallGuard.Php.Statement

/-!
# The grammar

A sign is given to the first of the goals of a position, which takes it, passes it on or refuses it.
A sign that is refused goes to the first goal below that takes it, so that a fault in the source does
not spread; if there is none, it is passed over.

Main definitions:

- {lit}`Goal.move`: what a goal does with a sign.
- {lit}`advance`: the kind of a sign, and the goals behind it.
- {lit}`endStatement`: the goals behind the end of a statement that has no semicolon.
-/

namespace CallGuard.Php

/-! ## Goals and signs -/

/-- What a goal does with a sign. -/
def Goal.move (p : Peek) : Goal → Move
  | page | shell _ => .refuse
  | mark text => if p.isMark text then .takeMark text [] else .refuse
  | optionalMark text => if p.isMark text then .takeMark text [] else .pass
  | keyword word => if p.isKeyword word then .take .other [] else .refuse
  | semicolon => if p.isMark ";" then .takeMark ";" [] else .refuse
  | name => if p.word?.isSome then .take .identifier [] else .pass
  | operand => operandMove p
  | optionalOperand => (operandStart p).orPass
  | tail => tailMove p
  | group => groupMove p
  | castEnd => castEndMove p
  | branches => branchesMove p
  | staticOperand => staticOperandMove p
  | listing => listingMove p
  | yielded => yieldedMove p
  | pairValue => pairValueMove p
  | member => memberMove p
  | dynamicName => dynamicNameMove p
  | classReference => classReferenceMove p
  | index => indexMove p
  | arguments => argumentsMove p
  | items => itemsMove p
  | arms => armsMove p
  | type returned => typeStart returned p
  | typeTail => typeTailMove p
  | returnType => returnTypeMove p
  | parameters => parametersMove p
  | parameterRest => parameterRestMove p
  | captures => capturesMove p
  | methodBody => methodBodyMove p
  | attributes => attributesMove p
  | heritage => heritageMove p
  | backing => backingMove p
  | classArguments => classArgumentsMove p
  | members => membersMove p
  | memberRest => memberRestMove p
  | propertyRest => propertyRestMove p
  | scope => scopeMove p
  | hooks => hooksMove p
  | hookRest => hookRestMove p
  | traits => traitsMove p
  | traitRules => traitRulesMove p
  | traitRule => traitRuleMove p
  | traitAlias => traitAliasMove p
  | traitLosers => traitLosersMove p
  | typedConstant => typedConstantMove p
  | constants => constantsMove p
  | caseValue => caseValueMove p
  | imports => importsMove p
  | importRest => importRestMove p
  | importPart => importPartMove p
  | statements ends => statementsMove ends p
  | statement => statementStart p
  | choiceBody => choiceBodyMove p
  | choiceRest => choiceRestMove p
  | colonRest => colonRestMove p
  | loopBody closing => loopBodyMove closing p
  | switchBody => switchBodyMove p
  | cases => casesMove p
  | caseMark => caseMarkMove p
  | handlers => handlersMove p
  | exceptions => exceptionsMove p
  | directives => directivesMove p
  | declareBody => declareBodyMove p
  | namespaceBody => namespaceBodyMove p

/-! ## Stacks of goals -/

/-- Gives a sign to the first goal that does not pass it on; none if that goal refuses it. -/
def react (p : Peek) : List Goal → Option (TokenKind × List Goal)
  | [] => none
  | goal :: below =>
    match goal.move p with
    | .take kind goals => some (kind, goals ++ below)
    | .pass => react p below
    | .refuse => none

/-- Whether a refused sign goes no further than to a goal: what is closed by a parenthesis or a
bracket does not reach out of a block. -/
def confines (p : Peek) (goal : Goal) : Bool :=
  goal == .mark closeBrace && p.isAnyMark [")", "]"]

/-- Gives a sign that was refused to the first goal that takes it. -/
def recover (p : Peek) : List Goal → Option (TokenKind × List Goal)
  | [] => none
  | goal :: below =>
    match goal.move p with
    | .take kind goals => some (kind, goals ++ below)
    | _ => if confines p goal then none else recover p below

/-- The kind of a sign, and the goals behind it. -/
def advance (goals : List Goal) (p : Peek) : TokenKind × List Goal :=
  ((react p goals).or (recover p goals)).getD (p.sign.looseKind, goals)

/-- The goals behind the end of a statement that has no semicolon. -/
def endStatement (goals : List Goal) : List Goal :=
  let behind := goals.dropWhile fun goal =>
    goal != .semicolon && goal.move ⟨.mark ";", []⟩ == .pass
  match behind with
  | .semicolon :: below => below
  | .namespaceBody :: below => below
  | .propertyRest :: below => below
  | .methodBody :: below => below
  | _ => goals

end CallGuard.Php
