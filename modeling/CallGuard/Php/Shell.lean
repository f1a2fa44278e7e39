import CallGuard.Php.Goal

/-!
# Text between backquotes

Between backquotes stands running text with variables, escapes and embedded expressions.  Directly
behind a variable, an index in brackets or the name of a member belongs to it.

Main definitions:

- {lit}`escapeExtent`: an escape.
- {lit}`shellExtent`: running text.
- {lit}`shellMove`: what stands at a position between backquotes.
-/

namespace CallGuard.Php

/-- The characters that make an escape behind a backslash. -/
def escapedChars : List Char :=
  ['n', 'r', 't', 'v', 'e', 'f', '\\', '$', '"', backquote]

/-- The extent of an escape of a character by its code, behind its letter. -/
def codePointExtent (cs : List Char) : Nat :=
  match cs with
  | '{' :: rest =>
    let digits := runExtent isHex rest
    if digits != 0 && (rest.drop digits).head? == some '}' then 2 + digits else 0
  | _ => 0

/-- The extent of an escape, or zero if none starts here. -/
def escapeExtent : List Char → Nat
  | '\\' :: c :: rest =>
    if escapedChars.contains c then 2
    else if isOctal c then 2 + min 2 (runExtent isOctal rest)
    else if c == 'x' && rest.head?.any isHex then 2 + min 2 (runExtent isHex rest)
    else if c == 'u' then 2 + codePointExtent rest
    else 0
  | _ => 0

/-- Whether an expression or its variable starts here. -/
def startsEmbedding : List Char → Bool
  | '{' :: '$' :: _ => true
  | '$' :: '{' :: _ => true
  | cs => variableExtent cs != 0

/-- The extent of running text. -/
def shellExtent : List Char → Nat
  | [] => 0
  | '\\' :: '{' :: rest => 2 + shellExtent rest
  | c :: rest =>
    if c == backquote || escapeExtent (c :: rest) != 0 || startsEmbedding (c :: rest) then 0
    else 1 + shellExtent rest

/-- Whether the name of a member follows an arrow at the start of a text. -/
def startsMember : List Char → Bool
  | '-' :: '>' :: c :: _ => isNamePart c
  | _ => false

/-- What stands at a position between backquotes: its kind, its extent, and what comes in the place
of the text. -/
def shellMove (afterVariable : Bool) (cs : List Char) : TokenKind × Nat × List Goal :=
  if cs.head? == some backquote then (.other, 1, [])
  else if afterVariable && cs.head? == some '[' then
    (.other, 1, [.index, .mark "]", .shell false])
  else if afterVariable && startsMember cs then (.objectOperator, 2, [.name, .shell false])
  else if variableExtent cs != 0 then (.variable, variableExtent cs, [.shell true])
  else if "$\x7b".toList.isPrefixOf cs then
    (.other, 1, [.mark openBrace, .operand, .mark closeBrace, .shell false])
  else if "\x7b$".toList.isPrefixOf cs then
    (.other, 1, [.operand, .mark closeBrace, .shell false])
  else if escapeExtent cs != 0 then (.other, escapeExtent cs, [.shell false])
  else (.other, shellExtent cs, [.shell false])

end CallGuard.Php
