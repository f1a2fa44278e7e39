import CallGuard.Token

/-!
# How far a lexeme reaches

For each form of a lexeme that is longer than a fixed text, a function counts the characters that
it takes at the start of a text.

Main definitions:

- {lit}`isSpace`, {lit}`isNameStart`, {lit}`isNamePart`: the classes of characters.
- {lit}`comment?`: a comment.
- {lit}`extrasExtent`: white space and comments.
- {lit}`variableExtent`, {lit}`spacedVariableExtent`: a variable in running text and in code.
- {lit}`string?`: a string in quotes.
- {lit}`heredoc?`: a string that ends with a label.
- {lit}`numberExtent`: a number.
- {lit}`operators`: the operators and punctuations.
-/

namespace CallGuard.Php

/-! ## Classes of characters -/

/-- The backquote. -/
def backquote : Char := Char.ofNat 0x60

/-- The characters that only separate tokens. -/
def isSpace (c : Char) : Bool :=
  let n := c.toNat
  n == 0x20 || (9 ≤ n && n ≤ 13) || n == 0xa0 || n == 0x200b || n == 0x2060 || n == 0xfeff

/-- The characters that a name starts with. -/
def isNameStart (c : Char) : Bool :=
  let n := c.toNat
  c == '_' || c.isAlpha || (0x80 ≤ n && n ≤ 0x9f) || (0xa1 ≤ n && n ≤ 0x200a) ||
    (0x200c ≤ n && n ≤ 0x205f) || (0x2061 ≤ n && n ≤ 0xfefe) || (0xff00 ≤ n && n ≤ 0xffff)

/-- The characters that a name consists of. -/
def isNamePart (c : Char) : Bool :=
  isNameStart c || c.isDigit

/-- The number of characters at the start of a text that satisfy a condition. -/
def runExtent (p : Char → Bool) (cs : List Char) : Nat :=
  (cs.takeWhile p).length

/-! ## Comments -/

/-- The rest of a comment to the end of the line.  It ends before a closing tag, and a question mark
alone at the end of the line takes the line end with it. -/
def lineTail : List Char → Nat
  | [] => 0
  | ['?'] => 0
  | '?' :: '\n' :: _ => 2
  | '?' :: '\r' :: '\n' :: _ => 3
  | '?' :: c :: rest => if c == '>' || c == '\r' then 0 else 2 + lineTail rest
  | c :: rest => if c == '\r' || c == '\n' then 0 else 1 + lineTail rest

/-- The rest of a comment to the closing mark; without one, all that is left. -/
def blockTail : List Char → Nat
  | [] => 0
  | '*' :: '/' :: _ => 2
  | _ :: rest => 1 + blockTail rest

/-- The comment at the start of a text: its kind and extent. -/
def comment? (cs : List Char) : Option (TokenKind × Nat) :=
  match cs with
  | '/' :: '/' :: rest => some (.comment, 2 + lineTail rest)
  | '/' :: '*' :: rest =>
    some (if rest.head? == some '*' then .docComment else .comment, 2 + blockTail rest)
  | '#' :: '[' :: _ => none
  | '#' :: c :: rest =>
    if c == '?' || c == '\r' || c == '\n' then some (.comment, 1)
    else some (.comment, 2 + lineTail rest)
  | ['#'] => some (.comment, 1)
  | _ => none

/-- The extent of white space and comments. -/
def extrasExtent : List Char → Nat
  | [] => 0
  | c :: rest =>
    if isSpace c then 1 + extrasExtent rest
    else
      match comment? (c :: rest) with
      | some (_, extent) => extent + extrasExtent (rest.drop (extent - 1))
      | none => 0
termination_by cs => cs.length
decreasing_by
  all_goals simp only [List.length_drop, List.length_cons]
  all_goals omega

/-- What is left of a text behind white space and comments. -/
def skipExtras (cs : List Char) : List Char :=
  cs.drop (extrasExtent cs)

/-! ## Variables -/

/-- The extent of a variable in running text, or zero if none starts here. -/
def variableExtent : List Char → Nat
  | '$' :: c :: rest => if isNameStart c then 2 + runExtent isNamePart rest else 0
  | _ => 0

/-- The extent of a variable, or zero if none starts here.  White space and comments may stand
behind the dollar sign. -/
def spacedVariableExtent : List Char → Nat
  | '$' :: rest =>
    let extras := extrasExtent rest
    let name := rest.drop extras
    if name.head?.any isNameStart then 1 + extras + runExtent isNamePart name else 0
  | _ => 0

/-! ## Strings -/

/-- The rest of a string in single quotes, with its closing quote. -/
def quotedTail : List Char → Nat
  | [] => 0
  | '\\' :: _ :: rest => 2 + quotedTail rest
  | c :: rest => if c.toNat == 39 then 1 else 1 + quotedTail rest

/-- What a position inside a string in double quotes is nested in. -/
inductive Nesting where
  /-- Text up to a quote or a backquote, with embedded expressions. -/
  | text (quote : Char)
  /-- The text of a string in single quotes. -/
  | single
  /-- An embedded expression. -/
  | braces
  /-- A comment to the end of the line. -/
  | line
  /-- A comment to its closing mark. -/
  | block

/-- The rest of a string in double quotes, with its closing quote.  Embedded expressions run to the
matching brace, and the strings and comments in them are skipped. -/
def doubleTail : List Nesting → List Char → Nat
  | [], _ => 0
  | _, [] => 0
  | .text quote :: outer, '\\' :: _ :: rest => 2 + doubleTail (.text quote :: outer) rest
  | .text quote :: outer, '{' :: '$' :: rest =>
    2 + doubleTail (.braces :: .text quote :: outer) rest
  | .text quote :: outer, '$' :: '{' :: rest =>
    2 + doubleTail (.braces :: .text quote :: outer) rest
  | .text quote :: outer, c :: rest =>
    if c == quote then 1 + doubleTail outer rest else 1 + doubleTail (.text quote :: outer) rest
  | .single :: outer, '\\' :: _ :: rest => 2 + doubleTail (.single :: outer) rest
  | .single :: outer, c :: rest =>
    if c.toNat == 39 then 1 + doubleTail outer rest else 1 + doubleTail (.single :: outer) rest
  | .line :: outer, c :: rest =>
    if c == '\n' then 1 + doubleTail outer rest else 1 + doubleTail (.line :: outer) rest
  | .block :: outer, '*' :: '/' :: rest => 2 + doubleTail outer rest
  | .block :: outer, _ :: rest => 1 + doubleTail (.block :: outer) rest
  | .braces :: outer, '/' :: '*' :: rest => 2 + doubleTail (.block :: .braces :: outer) rest
  | .braces :: outer, '/' :: '/' :: rest => 2 + doubleTail (.line :: .braces :: outer) rest
  | .braces :: outer, '#' :: '[' :: rest => 2 + doubleTail (.braces :: outer) rest
  | .braces :: outer, c :: rest =>
    if c == '}' then 1 + doubleTail outer rest
    else if c == '{' then 1 + doubleTail (.braces :: .braces :: outer) rest
    else if c == '"' || c == backquote then 1 + doubleTail (.text c :: .braces :: outer) rest
    else if c.toNat == 39 then 1 + doubleTail (.single :: .braces :: outer) rest
    else if c == '#' then 1 + doubleTail (.line :: .braces :: outer) rest
    else 1 + doubleTail (.braces :: outer) rest

/-- The string in quotes at the start of a text: its kind and extent. -/
def string? (cs : List Char) : Option (TokenKind × Nat) :=
  let skipped := if cs.head?.any (fun c => c == 'b' || c == 'B') then 1 else 0
  match cs.drop skipped with
  | c :: rest =>
    if c.toNat == 39 then some (.constantString, skipped + 1 + quotedTail rest)
    else if c == '"' then some (.doubleQuotedString, skipped + 1 + doubleTail [.text '"'] rest)
    else none
  | [] => none

/-! ## Labelled strings -/

/-- The number of characters up to the end of the closing label, which stands at the start of a line
behind optional blanks and is not part of a longer name. -/
def labelTail (label : List Char) : List Char → Option Nat
  | [] => none
  | '\n' :: rest =>
    let blanks := runExtent (fun c => c == ' ' || c == '\t') rest
    let line := rest.drop blanks
    if label.isPrefixOf line && !(line.drop label.length).head?.any isNamePart then
      some (1 + blanks + label.length)
    else
      (labelTail label rest).map (1 + ·)
  | _ :: rest => (labelTail label rest).map (1 + ·)

/-- A string between two labels at the start of a text: whether its text is literal, and its
extent. -/
def heredoc? (cs : List Char) : Option (Bool × Nat) :=
  match cs with
  | '<' :: '<' :: '<' :: rest =>
    let blanks := runExtent (fun c => c == ' ' || c == '\t') rest
    let opening := rest.drop blanks
    let quote := opening.head?.filter fun c => c == '"' || c.toNat == 39
    let body := if quote.isSome then opening.tail else opening
    let label := body.takeWhile isNamePart
    let behind := body.drop label.length
    let closed := quote.isNone || behind.head? == quote
    let behind := if quote.isSome then behind.tail else behind
    let marks := if quote.isSome then 2 else 0
    if label.head?.any isNameStart && closed && behind.head?.any (fun c => c == '\n' || c == '\r') then
      (labelTail label behind).map fun n =>
        (quote.any (·.toNat == 39), 3 + blanks + marks + label.length + n)
    else
      none
  | _ => none

/-! ## Numbers -/

/-- The extent of digits, in which single underscores may stand before a digit. -/
def digitsExtent (p : Char → Bool) : List Char → Nat
  | [] => 0
  | c :: rest =>
    if p c then 1 + digitsExtent p rest
    else if c == '_' && rest.head?.any p then 1 + digitsExtent p rest
    else 0

/-- Whether a character is an octal digit. -/
def isOctal (c : Char) : Bool :=
  '0' ≤ c && c ≤ '7'

/-- Whether a character is a binary digit. -/
def isBinary (c : Char) : Bool :=
  c == '0' || c == '1'

/-- Whether a character is a hexadecimal digit. -/
def isHex (c : Char) : Bool :=
  c.isDigit || ('a' ≤ c && c ≤ 'f') || ('A' ≤ c && c ≤ 'F')

/-- The extent of an integer. -/
def integerExtent : List Char → Nat
  | '0' :: c :: rest =>
    if (c == 'x' || c == 'X') && rest.head?.any isHex then 2 + digitsExtent isHex rest
    else if (c == 'b' || c == 'B') && rest.head?.any isBinary then 2 + digitsExtent isBinary rest
    else if c == 'o' || c == 'O' then 2 + digitsExtent isOctal rest
    else 1 + digitsExtent isOctal (c :: rest)
  | c :: rest => if c.isDigit then digitsExtent Char.isDigit (c :: rest) else 0
  | [] => 0

/-- The extent of an exponent, with its mark. -/
def exponentExtent : List Char → Nat
  | [] => 0
  | mark :: rest =>
    if mark == 'e' || mark == 'E' then
      let signs := if rest.head?.any (fun c => c == '+' || c == '-') then 1 else 0
      let digits := rest.drop signs
      if digits.head?.any Char.isDigit then 1 + signs + digitsExtent Char.isDigit digits else 0
    else
      0

/-- The extent of a number with a fraction or an exponent. -/
def floatExtent (cs : List Char) : Nat :=
  let whole := digitsExtent Char.isDigit cs
  match cs.drop whole with
  | '.' :: rest =>
    let fraction := digitsExtent Char.isDigit rest
    whole + 1 + fraction + exponentExtent (rest.drop fraction)
  | rest =>
    let exponent := exponentExtent rest
    if exponent = 0 then 0 else whole + exponent

/-- The extent of a number: the longer of its two readings, or zero if no number starts here. -/
def numberExtent (cs : List Char) : Nat :=
  match cs with
  | c :: rest =>
    if c.isDigit || (c == '.' && rest.head?.any Char.isDigit) then
      max (integerExtent cs) (floatExtent cs)
    else
      0
  | [] => 0

/-! ## Operators -/

/-- The operators and punctuations, longer ones before their beginnings. -/
def operators : List String :=
  ["<<=", ">>=", "**=", "??=", "...", "<=>", "===", "!==", "?->",
    "->", "::", "**", "++", "--", "<<", ">>", "<=", ">=", "==", "!=", "<>", "&&", "||", "??", "|>",
    "+=", "-=", "*=", "/=", ".=", "%=", "&=", "|=", "^=", "=>", "#[",
    "+", "-", "*", "/", "%", ".", "<", ">", "=", "!", "~", "^", "&", "|", "?", ":", ";", ",",
    "(", ")", "[", "]", "\x7b", "\x7d", "@", "$", "\\"]

/-- The operator at the start of a text.  Behind an operand, dots are never those of a spread. -/
def operator? (afterOperand : Bool) (cs : List Char) : Option String :=
  operators.find? fun op => op.toList.isPrefixOf cs && !(afterOperand && op == "...")

/-- The kind of an operator or punctuation. -/
def operatorKind (op : String) : TokenKind :=
  match op with
  | "::" => .doubleColon
  | "->" => .objectOperator
  | "?->" => .nullsafeObjectOperator
  | "\\" => .nsSeparator
  | "(" => .openParenthesis
  | ")" => .closeParenthesis
  | _ => .other

end CallGuard.Php
