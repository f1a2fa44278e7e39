import CallGuard.Php.Goal

/-!
# Expressions

An expression is an operand with what follows it.  In the place of an operand some words are
keywords; behind an operand others are; everywhere else in an expression a word is a name.

Main definitions:

- {lit}`operandStart`: how an operand starts.
- {lit}`tailMove`: what follows an operand.
- {lit}`argumentsMove`, {lit}`itemsMove`, {lit}`armsMove`: lists of expressions.
-/

namespace CallGuard.Php

/-! ## Operands -/

/-- The words for a type in a cast. -/
def castWords : List String :=
  ["array", "binary", "bool", "boolean", "double", "float", "int", "integer", "object", "real",
    "string", "unset"]

/-- The operators in front of an operand. -/
def prefixMarks : List String :=
  ["!", "~", "+", "-", "@", "&", "++", "--"]

/-- The operators between two operands. -/
def infixMarks : List String :=
  ["<<=", ">>=", "**=", "??=", "<=>", "===", "!==", "**", "<<", ">>", "<=", ">=", "==", "!=", "<>",
    "&&", "||", "??", "|>", "+=", "-=", "*=", "/=", ".=", "%=", "&=", "|=", "^=", "+", "-", "*",
    "/", "%", ".", "<", ">", "=", "^", "&", "|"]

/-- A word as an operand, given in lower case. -/
def operandWord (p : Peek) (word : String) : Move :=
  match word with
  | "true" | "false" | "null" | "self" | "parent" => .take .other [.tail]
  | "static" => .take .other [.staticOperand, .tail]
  | "new" => .take .other [.classReference, .tail]
  | "clone" | "print" | "include" | "include_once" | "require" | "require_once" | "throw"
  | "yield from" => .take .other [.operand]
  | "yield" => .take .other [.yielded]
  | "match" => .take .other (Goal.condition ++ [.mark openBrace, .arms, .mark closeBrace, .tail])
  | "fn" =>
    .take .other (.optionalMark "&" :: Goal.signature ++ [.returnType, .mark "=>", .operand])
  | "function" =>
    .take .function
      (.optionalMark "&" :: Goal.signature ++ [.captures, .returnType] ++ Goal.block ++ [.tail])
  | "array" | "list" => .take .other [.listing, .tail]
  | "namespace" => .take .namespace [.tail]
  | "eval" => .take (if p.leadsTo "(" then .eval else .identifier) [.tail]
  | _ => .take .identifier [.tail]

/-- How an operand starts. -/
def operandStart (p : Peek) : Move :=
  match p.sign with
  | .value kind => .take kind [.tail]
  | .word _ => operandWord p (p.keyword?.getD "")
  | .mark "`" => .take .other [.shell false, .tail]
  | .mark "(" => .takeMark "(" [.group]
  | .mark "[" => .takeMark "[" [.items, .mark "]", .tail]
  | .mark "$" => .takeMark "$" [.dynamicName, .tail]
  | .mark "\\" => .takeMark "\\" [.name, .tail]
  | .mark "#[" => .takeMark "#[" [.attributes, .mark "]", .operand]
  | .mark mark => if prefixMarks.contains mark then .takeMark mark [.operand] else .refuse

/-- What comes in the place of an operand.  An operator between operands that lacks the first of
them is taken for one that lacks the second. -/
def operandMove (p : Peek) : Move :=
  (operandStart p).orElse
    (if p.isAnyMark infixMarks then .take .other [.tail] else .refuse)

/-- What follows a parenthesis in the place of an operand. -/
def groupMove (p : Peek) : Move :=
  if p.isAnyKeyword castWords then .take .other [.castEnd]
  else (operandStart p).andThen [.mark ")", .tail]

/-- What follows a word for static scope: a function without an object, or what follows any
operand. -/
def staticOperandMove (p : Peek) : Move :=
  if p.isAnyKeyword ["function", "fn"] then operandStart p else .pass

/-- What follows the question mark of a conditional expression. -/
def branchesMove (p : Peek) : Move :=
  if p.isMark ":" then .takeMark ":" [.operand]
  else (operandStart p).andThen [.mark ":", .operand]

/-! ## Behind an operand -/

/-- What follows an operand. -/
def tailMove (p : Peek) : Move :=
  match p.sign with
  | .mark "?" => .takeMark "?" [.branches]
  | .mark "(" => .takeMark "(" [.arguments, .mark ")", .tail]
  | .mark "[" => .takeMark "[" [.items, .mark "]", .tail]
  | .mark "\\" => .takeMark "\\" [.name, .tail]
  | .mark mark =>
    if ["->", "?->", "::"].contains mark then .takeMark mark [.member, .tail]
    else if ["++", "--"].contains mark then .takeMark mark [.tail]
    else if infixMarks.contains mark then .takeMark mark [.operand]
    else .pass
  | .word _ =>
    if p.isKeyword "instanceof" then .take .other [.classReference, .tail]
    else if p.isAnyKeyword ["and", "or", "xor"] then .take .other [.operand]
    else .pass
  | .value _ => .pass

/-- What follows the type of a cast.  Without the closing parenthesis, the word is an operand. -/
def castEndMove (p : Peek) : Move :=
  match p.sign with
  | .mark ")" => .takeMark ")" [.operand]
  | .mark "(" => .takeMark "(" [.items, .mark ")", .tail, .mark ")", .tail]
  | _ =>
    match tailMove p with
    | .take kind goals => .take kind (goals ++ [.mark ")", .tail])
    | _ => .refuse

/-- The name of a member. -/
def memberMove (p : Peek) : Move :=
  match p.sign with
  | .word _ => .take .identifier []
  | .value .variable => .take .variable []
  | .mark "$" => .takeMark "$" [.dynamicName]
  | .mark mark =>
    if mark == openBrace then .takeMark mark [.operand, .mark closeBrace] else .pass
  | _ => .pass

/-- The name of a variable behind a dollar sign. -/
def dynamicNameMove (p : Peek) : Move :=
  match p.sign with
  | .value .variable => .take .variable []
  | .mark "$" => .takeMark "$" [.dynamicName]
  | .mark mark =>
    if mark == openBrace then .takeMark mark [.operand, .mark closeBrace] else .pass
  | _ => .pass

/-- The class of a new object or of a test. -/
def classReferenceMove (p : Peek) : Move :=
  match p.sign with
  | .word _ =>
    if p.isKeyword "class" then .take .other (.classArguments :: Goal.classBody)
    else if p.isKeyword "readonly" then .take .other [.classReference]
    else .take p.nameKind []
  | .mark "\\" => .takeMark "\\" [.name]
  | .mark "(" => .takeMark "(" [.operand, .mark ")"]
  | .mark "$" => .takeMark "$" [.dynamicName]
  | .mark "#[" => .takeMark "#[" [.attributes, .mark "]", .classReference]
  | _ => operandStart p

/-- An index in running text. -/
def indexMove (p : Peek) : Move :=
  match p.sign with
  | .word _ => .take .identifier []
  | .value kind => .take kind []
  | .mark "-" => .takeMark "-" [.index]
  | _ => .pass

/-! ## Lists of expressions -/

/-- The parenthesis of a list or an array. -/
def listingMove (p : Peek) : Move :=
  if p.isMark "(" then .takeMark "(" [.items, .mark ")"] else .pass

/-- Expressions or pairs of them. -/
def itemsMove (p : Peek) : Move :=
  match p.sign with
  | .mark "," | .mark "=>" | .mark "..." => .take .other [.items]
  | _ => ((operandStart p).andThen [.items]).orPass

/-- The words that stay keywords as the name of an argument. -/
def unnamableWords : List String :=
  ["clone", "include", "include_once", "list", "new", "print", "require", "require_once", "yield"]

/-- Arguments of a call, some of which have a name. -/
def argumentsMove (p : Peek) : Move :=
  match p.sign with
  | .mark "," | .mark "..." => .take .other [.arguments]
  | .word _ =>
    if p.leadsToColon then
      .take (if p.isAnyKeyword unnamableWords then .other else .identifier)
        [.mark ":", .operand, .arguments]
    else ((operandStart p).andThen [.arguments]).orPass
  | _ => ((operandStart p).andThen [.arguments]).orPass

/-- The arms of a match. -/
def armsMove (p : Peek) : Move :=
  match p.sign with
  | .mark "," => .take .other [.arms]
  | .mark "=>" => .take .other [.operand, .arms]
  | .word _ =>
    if p.isKeyword "default" then .take .other [.arms]
    else ((operandStart p).andThen [.arms]).orPass
  | _ => ((operandStart p).andThen [.arms]).orPass

/-- What a generator yields: a value, or a key with its value. -/
def yieldedMove (p : Peek) : Move :=
  ((operandStart p).andThen [.pairValue]).orPass

/-- The value of a key. -/
def pairValueMove (p : Peek) : Move :=
  if p.isMark "=>" then .take .other [.operand] else .pass

end CallGuard.Php
