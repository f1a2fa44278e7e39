import CallGuard.Php.Extent

/-!
# Signs

A sign is what the grammar sees of a stretch of the source that is neither white space nor a
comment: a word, a value, or a mark.  Whether a word is a keyword depends on what the grammar expects
where it stands.

Main definitions:

- {lit}`Sign`: the signs.
- {lit}`Sign.read?`: the sign at the start of a text.
- {lit}`Peek`: a sign with what follows it.
-/

namespace CallGuard.Php

/-- A sign of the source. -/
inductive Sign where
  /-- A name or a keyword. -/
  | word (text : String)
  /-- A variable, a number or a string. -/
  | value (kind : TokenKind)
  /-- An operator or a punctuation. -/
  | mark (text : String)
deriving Repr, DecidableEq

/-- Whether a text starts with another one, up to the case of the letters A to Z. -/
def startsWithWord (word : String) (cs : List Char) : Bool :=
  (cs.take word.length).map Char.toLower == word.toList

/-- The two words that make up one sign. -/
def yieldFrom : String := "yield from"

namespace Sign

/-- The sign at the start of a text, with its extent.  Behind an operand, a dot is an operator even
if a digit follows. -/
def read? (afterOperand : Bool) (cs : List Char) : Option (Sign × Nat) :=
  if cs.head? == some backquote then some (.mark "`", 1)
  else if spacedVariableExtent cs != 0 then some (.value .variable, spacedVariableExtent cs)
  else if let some (kind, extent) := string? cs then some (.value kind, extent)
  else if let some (literal, extent) := heredoc? cs then
    some (.value (if literal then .constantString else .doubleQuotedString), extent)
  else if numberExtent cs != 0 && !(afterOperand && cs.head? == some '.') then
    some (.value .other, numberExtent cs)
  else if startsWithWord yieldFrom cs then some (.word yieldFrom, yieldFrom.length)
  else if cs.head?.any isNameStart then
    let text := cs.takeWhile isNamePart
    some (.word (String.ofList text), text.length)
  else (operator? afterOperand cs).map fun op => (.mark op, op.length)

/-- The kind of a sign where the grammar expects nothing like it. -/
def looseKind : Sign → TokenKind
  | word _ => .identifier
  | value kind => kind
  | mark text => operatorKind text

end Sign

/-- A sign, and what is left of the source from the next one on. -/
structure Peek where
  sign : Sign
  next : List Char

namespace Peek

/-- Whether the sign is a given mark. -/
def isMark (p : Peek) (mark : String) : Bool :=
  p.sign == .mark mark

/-- Whether the sign is one of some marks. -/
def isAnyMark (p : Peek) (marks : List String) : Bool :=
  marks.any p.isMark

/-- The word that the sign is, as it is written. -/
def word? (p : Peek) : Option String :=
  match p.sign with
  | .word text => some text
  | _ => none

/-- The word that the sign is, with the letters A to Z in lower case. -/
def keyword? (p : Peek) : Option String :=
  p.word?.map fun text => String.ofList (text.toList.map Char.toLower)

/-- Whether the sign is a given word in any case. -/
def isKeyword (p : Peek) (word : String) : Bool :=
  p.keyword? == some word

/-- Whether the sign is one of some words in any case. -/
def isAnyKeyword (p : Peek) (words : List String) : Bool :=
  p.keyword?.any words.contains

/-- Whether a given text follows the sign. -/
def leadsTo (p : Peek) (text : String) : Bool :=
  text.toList.isPrefixOf p.next

/-- Whether a single colon follows the sign. -/
def leadsToColon (p : Peek) : Bool :=
  p.leadsTo ":" && !p.leadsTo "::"

end Peek

end CallGuard.Php
