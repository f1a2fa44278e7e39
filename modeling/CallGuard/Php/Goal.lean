import CallGuard.Php.Sign

/-!
# Goals

A goal is a part of the grammar that is still to come.  The goals of a position form a stack: the
next sign is for the first of them, and what it starts is put in its place.  A goal may pass a sign
on to the goals below it if its part of the grammar may be left out, or refuse it.

Main definitions:

- {lit}`Goal`: the parts of the grammar.
- {lit}`Move`: what a goal does with a sign.
-/

namespace CallGuard.Php

/-- A part of the grammar that is still to come. -/
inductive Goal where
  /-- Text outside PHP. -/
  | page
  /-- Text between backquotes, and whether it directly follows a variable. -/
  | shell (afterVariable : Bool)
  /-- A mark. -/
  | mark (text : String)
  /-- A mark that may be left out. -/
  | optionalMark (text : String)
  /-- A keyword. -/
  | keyword (word : String)
  /-- The end of a statement. -/
  | semicolon
  /-- A word of any kind as a name. -/
  | name
  /-- An expression. -/
  | operand
  /-- An expression that may be left out. -/
  | optionalOperand
  /-- What follows an operand: an operator, a call, an access, or nothing. -/
  | tail
  /-- What follows a parenthesis in the place of an operand: a cast or an expression. -/
  | group
  /-- What follows the type of a cast. -/
  | castEnd
  /-- What follows the question mark of a conditional expression. -/
  | branches
  /-- What follows the word for static scope in the place of an operand. -/
  | staticOperand
  /-- The parenthesis of a list or an array. -/
  | listing
  /-- What a generator yields. -/
  | yielded
  /-- The value of a key. -/
  | pairValue
  /-- The name of a member. -/
  | member
  /-- The name of a variable behind a dollar sign. -/
  | dynamicName
  /-- The class of a new object or of a test. -/
  | classReference
  /-- An index in running text. -/
  | index
  /-- Arguments of a call. -/
  | arguments
  /-- Expressions or pairs of them, separated by commas. -/
  | items
  /-- The arms of a match. -/
  | arms
  /-- A type, and whether it is what a function returns. -/
  | type (returned : Bool)
  /-- What follows a type: further types, or nothing. -/
  | typeTail
  /-- The type that a function returns, with its colon. -/
  | returnType
  /-- Parameters of a function. -/
  | parameters
  /-- What follows the name of a parameter. -/
  | parameterRest
  /-- Variables that a closure captures. -/
  | captures
  /-- The body of a method, or the semicolon in its place. -/
  | methodBody
  /-- Attributes. -/
  | attributes
  /-- What a class extends and implements, and the type that backs an enumeration. -/
  | heritage
  /-- The type that backs an enumeration. -/
  | backing
  /-- The arguments of an anonymous class. -/
  | classArguments
  /-- The members of a class. -/
  | members
  /-- What follows a modifier of a member. -/
  | memberRest
  /-- What follows the name of a property. -/
  | propertyRest
  /-- The scope of a visibility in parentheses. -/
  | scope
  /-- Hooks of a property. -/
  | hooks
  /-- What follows the name of a hook. -/
  | hookRest
  /-- Names of traits. -/
  | traits
  /-- Rules for the names of traits. -/
  | traitRules
  /-- What follows the name of a method in a rule. -/
  | traitRule
  /-- The alias in a rule. -/
  | traitAlias
  /-- The names of the traits that lose in a rule. -/
  | traitLosers
  /-- The name of a constant of a class, perhaps with its type. -/
  | typedConstant
  /-- Further constants. -/
  | constants
  /-- The value of a case. -/
  | caseValue
  /-- Imported names. -/
  | imports
  /-- What follows an imported name. -/
  | importRest
  /-- What follows a separator in an imported name. -/
  | importPart
  /-- Statements up to one of some words or marks. -/
  | statements (ends : List String)
  /-- A statement. -/
  | statement
  /-- What follows the condition of a choice. -/
  | choiceBody
  /-- Further branches of a choice. -/
  | choiceRest
  /-- Further branches of a choice that is written with colons. -/
  | colonRest
  /-- The body of a loop that some word closes if it is written with a colon. -/
  | loopBody (closing : String)
  /-- The body of a switch. -/
  | switchBody
  /-- The cases of a switch. -/
  | cases
  /-- The mark behind a case. -/
  | caseMark
  /-- The handlers of a try statement. -/
  | handlers
  /-- The types of exceptions that a handler takes. -/
  | exceptions
  /-- Directives of a declaration. -/
  | directives
  /-- What follows the directives of a declaration. -/
  | declareBody
  /-- What follows the word for a namespace. -/
  | namespaceBody
deriving Repr, DecidableEq

/-- What a goal does with a sign. -/
inductive Move where
  /-- It takes the sign as a token of a kind, and other goals come in its place. -/
  | take (kind : TokenKind) (goals : List Goal)
  /-- It is left out. -/
  | pass
  /-- The sign does not belong here. -/
  | refuse
deriving Repr, DecidableEq

namespace Move

/-- Puts goals behind those that come in the place of a goal. -/
def andThen (m : Move) (goals : List Goal) : Move :=
  match m with
  | take kind first => take kind (first ++ goals)
  | m => m

/-- Leaves the goal out if the sign does not belong to it. -/
def orPass (m : Move) : Move :=
  match m with
  | refuse => pass
  | m => m

/-- Does something else if the sign does not belong to the goal. -/
def orElse (m other : Move) : Move :=
  match m with
  | refuse => other
  | m => m

end Move

/-! ## Sequences of goals -/

/-- The mark that opens a block. -/
def openBrace : String := "\x7b"

/-- The mark that closes a block. -/
def closeBrace : String := "\x7d"

/-- An expression in parentheses. -/
def Goal.condition : List Goal :=
  [.mark "(", .operand, .mark ")"]

/-- What follows the brace of a block of statements. -/
def Goal.blockRest : List Goal :=
  [.statements [closeBrace], .mark closeBrace]

/-- A block of statements. -/
def Goal.block : List Goal :=
  .mark openBrace :: blockRest

/-- Parameters in parentheses. -/
def Goal.signature : List Goal :=
  [.mark "(", .parameters, .mark ")"]

/-- The members of a class in braces. -/
def Goal.classBody : List Goal :=
  [.heritage, .mark openBrace, .members, .mark closeBrace]

/-- The kind of a word that names a class or something else outside the object at hand.  In front of a
separator, the word for the current namespace keeps its kind. -/
def Peek.nameKind (p : Peek) : TokenKind :=
  if p.isKeyword "namespace" && p.leadsTo "\\" then .namespace else .identifier

/-- Takes a mark, after which the given goals are to come. -/
def Move.takeMark (mark : String) (goals : List Goal) : Move :=
  .take (operatorKind mark) goals

end CallGuard.Php
