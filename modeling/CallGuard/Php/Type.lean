import CallGuard.Php.Expression

/-!
# Types and parameters

In the place of a type, the words for built-in types are keywords.  Those that also stand for values
or casts are so in lower case only.  All other words name classes there.

Main definitions:

- {lit}`typeWordKind?`: the kind of a word for a built-in type.
- {lit}`typeStart`: how a type starts.
- {lit}`parametersMove`: the parameters of a function.
-/

namespace CallGuard.Php

/-! ## Types -/

/-- The words for built-in types that are keywords in lower case only. -/
def lowercaseTypeWords : List String :=
  ["array", "bool", "false", "float", "int", "null", "object", "true"]

/-- The words for built-in types that are keywords in any case. -/
def typeWords : List String :=
  ["callable", "iterable", "mixed", "void"]

/-- The kind of a word for a built-in type. -/
def typeWordKind? (p : Peek) : Option TokenKind :=
  if p.sign == .word "string" then some .constantString
  else if p.word?.any lowercaseTypeWords.contains || p.isAnyKeyword typeWords then some .other
  else none

/-- How a type starts.  Only what a function returns can be declared as nothing at all. -/
def typeStart (returned : Bool) (p : Peek) : Move :=
  match p.sign with
  | .word _ =>
    if returned && p.isKeyword "never" then .take .other []
    else .take ((typeWordKind? p).getD p.nameKind) [.typeTail]
  | .mark "?" => .takeMark "?" [.type false]
  | .mark "\\" => .takeMark "\\" [.name, .typeTail]
  | .mark "(" => .takeMark "(" [.type false, .mark ")", .typeTail]
  | _ => .refuse

/-- Whether a reference or a spread of a parameter follows. -/
def leadsToParameter (p : Peek) : Bool :=
  p.leadsTo "$" || p.leadsTo "..." || p.leadsTo "&"

/-- What follows a type. -/
def typeTailMove (p : Peek) : Move :=
  match p.sign with
  | .mark "|" => .takeMark "|" [.type false]
  | .mark "&" => if leadsToParameter p then .pass else .takeMark "&" [.type false]
  | .mark "\\" => .takeMark "\\" [.name, .typeTail]
  | _ => .pass

/-- The type that a function returns. -/
def returnTypeMove (p : Peek) : Move :=
  if p.isMark ":" then .take .other [.type true] else .pass

/-! ## Attributes -/

/-- Attributes, with their arguments. -/
def attributesMove (p : Peek) : Move :=
  match p.sign with
  | .word _ => .take p.nameKind [.attributes]
  | .mark "(" => .takeMark "(" [.arguments, .mark ")", .attributes]
  | .mark "," => .takeMark "," [.attributes]
  | .mark "\\" => .takeMark "\\" [.name, .attributes]
  | _ => .pass

/-! ## Parameters -/

/-- The words for a visibility. -/
def visibilityWords : List String :=
  ["public", "protected", "private"]

/-- Parameters of a function. -/
def parametersMove (p : Peek) : Move :=
  match p.sign with
  | .mark "," | .mark "&" | .mark "..." => .take .other [.parameters]
  | .mark "#[" => .takeMark "#[" [.attributes, .mark "]", .parameters]
  | .value .variable => .take .variable [.parameterRest, .parameters]
  | .word _ =>
    if p.isAnyKeyword visibilityWords then .take .other [.scope, .parameters]
    else if p.isKeyword "readonly" then .take .other [.parameters]
    else (typeStart false p).andThen [.parameters]
  | _ => ((typeStart false p).andThen [.parameters]).orPass

/-- What follows the name of a parameter: its default value, and hooks of a property. -/
def parameterRestMove (p : Peek) : Move :=
  match p.sign with
  | .mark "=" => .takeMark "=" [.operand, .parameterRest]
  | .mark mark =>
    if mark == openBrace then .takeMark mark [.hooks, .mark closeBrace] else .pass
  | _ => .pass

/-- The word in parentheses that limits a visibility, if it follows. -/
def scopeWord? (p : Peek) : Option String :=
  ["get", "set"].find? fun word =>
    startsWithWord word p.next && (skipExtras (p.next.drop word.length)).head? == some ')'

/-- The scope of a visibility. -/
def scopeMove (p : Peek) : Move :=
  match p.isMark "(", scopeWord? p with
  | true, some word => .takeMark "(" [.keyword word, .mark ")"]
  | _, _ => .pass

/-- Variables that a closure captures. -/
def capturesMove (p : Peek) : Move :=
  if p.isKeyword "use" then .take .other [.mark "(", .items, .mark ")"] else .pass

end CallGuard.Php
