import CallGuard.Php.Declaration

/-!
# Statements

A statement starts with a keyword of its own or with an expression.  Statements come in lists, up to
the mark or the word that closes the list.

Main definitions:

- {lit}`statementStart`: how a statement starts.
- {lit}`statementsMove`: a list of statements.
- {lit}`choiceBodyMove`, {lit}`loopBodyMove`, {lit}`casesMove`, {lit}`handlersMove`: the parts of
  compound statements.
-/

namespace CallGuard.Php

/-! ## Single statements -/

/-- Whether the word for a function starts the declaration of one, and not a closure. -/
def declaresFunction (p : Peek) : Bool :=
  let next := if p.leadsTo "&" then skipExtras p.next.tail else p.next
  next.head?.any isNameStart

/-- A label.  A word that starts an operand is none, but is taken for one. -/
def label (p : Peek) : Move :=
  match operandStart p with
  | .take kind _ => .take kind [.mark ":"]
  | m => m

/-- A statement that starts with a keyword, given in lower case. -/
def statementWord (p : Peek) (word : String) : Move :=
  match word with
  | "if" => .take .other (Goal.condition ++ [.choiceBody])
  | "while" => .take .other (Goal.condition ++ [.loopBody "endwhile"])
  | "do" => .take .other (.statement :: .keyword "while" :: Goal.condition ++ [.semicolon])
  | "for" =>
    .take .other
      [.mark "(", .items, .mark ";", .items, .mark ";", .items, .mark ")", .loopBody "endfor"]
  | "foreach" =>
    .take .other
      [.mark "(", .operand, .keyword "as", .items, .mark ")", .loopBody "endforeach"]
  | "switch" => .take .other (Goal.condition ++ [.switchBody])
  | "try" => .take .other (Goal.block ++ [.handlers])
  | "declare" => .take .other [.mark "(", .directives, .mark ")", .declareBody]
  | "goto" => .take .other [.name, .semicolon]
  | "continue" | "break" | "return" => .take .other [.optionalOperand, .semicolon]
  | "echo" | "global" => .take .other [.items, .semicolon]
  | "exit" => .take .other [.tail, .semicolon]
  | "static" => .take .other [.staticOperand, .items, .tail, .items, .semicolon]
  | "const" => .take .other (.name :: constantRest)
  | "abstract" | "final" | "readonly" => .take .other [.statement]
  | "class" | "interface" | "trait" | "enum" => .take .other (.name :: Goal.classBody)
  | "use" => .take .other [.imports, .semicolon]
  | "namespace" =>
    if p.leadsTo "\\" then (operandStart p).andThen [.semicolon]
    else .take .namespace [.namespaceBody]
  | "function" =>
    if declaresFunction p then
      .take .function
        (.optionalMark "&" :: .name :: Goal.signature ++ [.returnType] ++ Goal.block)
    else (operandStart p).andThen [.semicolon]
  | _ =>
    if p.sign == .word "unset" then .take .other [.tail, .semicolon]
    else if p.leadsToColon then label p
    else (operandStart p).andThen [.semicolon]

/-- How a statement starts. -/
def statementStart (p : Peek) : Move :=
  match p.sign with
  | .word _ => statementWord p (p.keyword?.getD "")
  | .mark ";" => .takeMark ";" []
  | .mark "#[" => .takeMark "#[" [.attributes, .mark "]", .statement]
  | .mark mark =>
    if mark == openBrace then .takeMark mark Goal.blockRest
    else (operandStart p).andThen [.semicolon]
  | .value _ => (operandStart p).andThen [.semicolon]

/-- Statements up to one of some words or marks. -/
def statementsMove (ends : List String) (p : Peek) : Move :=
  if p.isAnyMark ends || p.isAnyKeyword ends then .pass
  else (statementStart p).andThen [.statements ends]

/-! ## Choices -/

/-- The words that follow a branch of a choice that is written with colons. -/
def colonEnds : List String :=
  ["elseif", "else", "endif"]

/-- What follows the condition of a choice. -/
def choiceBodyMove (p : Peek) : Move :=
  if p.isMark ":" then .take .other [.statements colonEnds, .colonRest]
  else (statementStart p).andThen [.choiceRest]

/-- Further branches of a choice. -/
def choiceRestMove (p : Peek) : Move :=
  if p.isKeyword "elseif" then .take .other (Goal.condition ++ [.choiceBody])
  else if p.isKeyword "else" && !p.leadsTo ":" then .take .other [.statement]
  else .pass

/-- Further branches of a choice that is written with colons. -/
def colonRestMove (p : Peek) : Move :=
  if p.isKeyword "elseif" then
    .take .other (Goal.condition ++ [.mark ":", .statements colonEnds, .colonRest])
  else if p.isKeyword "else" then .take .other [.mark ":", .statements colonEnds, .colonRest]
  else if p.isKeyword "endif" then .take .other [.semicolon]
  else .refuse

/-! ## Loops -/

/-- The body of a loop. -/
def loopBodyMove (closing : String) (p : Peek) : Move :=
  if p.isMark ":" then .take .other [.statements [closing], .keyword closing, .semicolon]
  else statementStart p

/-! ## Cases -/

/-- The body of a switch. -/
def switchBodyMove (p : Peek) : Move :=
  if p.isMark ":" then .take .other [.cases, .keyword "endswitch", .semicolon]
  else if p.isMark openBrace then .take .other [.cases, .mark closeBrace]
  else .refuse

/-- What follows the statements of a case. -/
def caseEnds : List String :=
  ["case", "default", "endswitch", closeBrace]

/-- The cases of a switch. -/
def casesMove (p : Peek) : Move :=
  if p.isKeyword "case" then .take .other [.operand, .caseMark, .statements caseEnds, .cases]
  else if p.isKeyword "default" then .take .other [.caseMark, .statements caseEnds, .cases]
  else .pass

/-- The mark behind a case. -/
def caseMarkMove (p : Peek) : Move :=
  if p.isAnyMark [":", ";"] then .take .other [] else .refuse

/-! ## Handlers -/

/-- The handlers of a try statement. -/
def handlersMove (p : Peek) : Move :=
  if p.isKeyword "catch" then
    .take .other ([.mark "(", .exceptions, .mark ")"] ++ Goal.block ++ [.handlers])
  else if p.isKeyword "finally" then .take .other (Goal.block ++ [.handlers])
  else .pass

/-- The types of exceptions that a handler takes, and the variable for them. -/
def exceptionsMove (p : Peek) : Move :=
  match p.sign with
  | .word _ => .take p.nameKind [.exceptions]
  | .value .variable => .take .variable []
  | .mark "|" => .takeMark "|" [.exceptions]
  | .mark "\\" => .takeMark "\\" [.name, .exceptions]
  | _ => .pass

/-! ## Declarations of other kinds -/

/-- Directives of a declaration. -/
def directivesMove (p : Peek) : Move :=
  match p.sign with
  | .word text =>
    .take (if ["strict_types", "ticks", "encoding"].contains text then .other else .identifier)
      [.directives]
  | .mark "=" => .takeMark "=" [.operand, .directives]
  | .mark "," => .takeMark "," [.directives]
  | _ => .pass

/-- What follows the directives of a declaration. -/
def declareBodyMove (p : Peek) : Move :=
  if p.isMark ":" then .take .other [.statements ["enddeclare"], .keyword "enddeclare", .semicolon]
  else statementStart p

/-- What follows the word for a namespace: its name, and its end or its body. -/
def namespaceBodyMove (p : Peek) : Move :=
  match p.sign with
  | .word _ => .take .identifier [.namespaceBody]
  | .mark "\\" => .takeMark "\\" [.name, .namespaceBody]
  | .mark ";" => .takeMark ";" []
  | .mark mark => if mark == openBrace then .takeMark mark Goal.blockRest else .refuse
  | _ => .refuse

end CallGuard.Php
