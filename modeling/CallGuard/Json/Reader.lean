import CallGuard.Json.Basic

/-!
# Reading JSON

The reader works on the characters that are left and hands on what follows the value it has read.
Its depth is bounded by the length of the text.

Main definitions:

- {lit}`Json.readString`: a quoted string.
- {lit}`Json.parse?`: the value that a text stands for.
-/

namespace CallGuard.Json

/-- What is left behind the blanks that may stand between two parts. -/
def skipBlanks (cs : List Char) : List Char :=
  cs.dropWhile fun c => c == ' ' || c == '\n' || c == '\r' || c == '\t'

/-- The value of a hexadecimal digit. -/
def hexValue? (c : Char) : Option Nat :=
  if '0' ≤ c ∧ c ≤ '9' then some (c.toNat - 48)
  else if 'a' ≤ c ∧ c ≤ 'f' then some (c.toNat - 87)
  else if 'A' ≤ c ∧ c ≤ 'F' then some (c.toNat - 55)
  else none

/-- The value of four hexadecimal digits. -/
def hexQuad? (a b c d : Char) : Option Nat :=
  match hexValue? a, hexValue? b, hexValue? c, hexValue? d with
  | some a, some b, some c, some d => some (((a * 16 + b) * 16 + c) * 16 + d)
  | _, _, _, _ => none

/-- The character of an escape with one letter. -/
def escaped? (c : Char) : Option Char :=
  match c with
  | '"' => some '"'
  | '\\' => some '\\'
  | '/' => some '/'
  | 'b' => some (Char.ofNat 8)
  | 'f' => some (Char.ofNat 12)
  | 'n' => some '\n'
  | 'r' => some '\r'
  | 't' => some '\t'
  | _ => none

/-- Reads a string behind its opening quote; {lit}`taken` holds the characters read so far, last
first. -/
def readString (taken : List Char) : List Char → Option (String × List Char)
  | [] => none
  | '"' :: rest => some (String.ofList taken.reverse, rest)
  | '\\' :: 'u' :: a :: b :: c :: d :: rest =>
    match hexQuad? a b c d with
    | none => none
    | some high =>
      if 0xd800 ≤ high ∧ high < 0xdc00 then
        match rest with
        | '\\' :: 'u' :: e :: f :: g :: h :: rest =>
          match hexQuad? e f g h with
          | some low =>
            if 0xdc00 ≤ low ∧ low < 0xe000 then
              let n := 0x10000 + (high - 0xd800) * 0x400 + (low - 0xdc00)
              readString (Char.ofNat n :: taken) rest
            else none
          | none => none
        | _ => none
      else if 0xdc00 ≤ high ∧ high < 0xe000 then none
      else readString (Char.ofNat high :: taken) rest
  | '\\' :: c :: rest =>
    match escaped? c with
    | some c => readString (c :: taken) rest
    | none => none
  | c :: rest => if c.toNat < 0x20 then none else readString (c :: taken) rest

/-- The value of a list of decimal digits. -/
def digitsValue (cs : List Char) : Nat :=
  cs.foldl (fun n c => 10 * n + (c.toNat - 48)) 0

/-- Whether a character is part of a number. -/
def isNumeric (c : Char) : Bool :=
  c.isDigit || c == '-' || c == '+' || c == '.' || c == 'e' || c == 'E'

/-- Whether a literal is a number: an optional sign, digits without a leading zero, and an optional
fraction and exponent. -/
def isNumber (cs : List Char) : Bool :=
  let body := if cs.head? = some '-' then cs.tail else cs
  let whole := body.takeWhile Char.isDigit
  let rest := body.dropWhile Char.isDigit
  let fraction := if rest.head? = some '.' then rest.tail.takeWhile Char.isDigit else []
  let fractionFine := rest.head? != some '.' || !fraction.isEmpty
  let rest := if rest.head? = some '.' then rest.tail.dropWhile Char.isDigit else rest
  let exponent :=
    match rest with
    | 'e' :: '+' :: ds | 'e' :: '-' :: ds | 'E' :: '+' :: ds | 'E' :: '-' :: ds => some ds
    | 'e' :: ds | 'E' :: ds => some ds
    | _ => none
  !whole.isEmpty && (whole.length = 1 || whole.head? != some '0') && fractionFine &&
    match exponent with
    | some ds => !ds.isEmpty && ds.all Char.isDigit
    | none => rest.isEmpty

/-- Reads a number. -/
def readNumber (cs : List Char) : Option (Json × List Char) :=
  let literal := cs.takeWhile isNumeric
  let rest := cs.dropWhile isNumeric
  if !isNumber literal then none
  else if literal.all Char.isDigit then some (natural (digitsValue literal), rest)
  else some (number (String.ofList literal), rest)

mutual

/-- Reads a value of at most {lit}`depth` levels. -/
def readValue (depth : Nat) (cs : List Char) : Option (Json × List Char) :=
  match depth with
  | 0 => none
  | depth + 1 =>
    match skipBlanks cs with
    | '{' :: rest =>
      match skipBlanks rest with
      | '}' :: rest => some (object [], rest)
      | rest => readFields depth [] rest
    | '[' :: rest =>
      match skipBlanks rest with
      | ']' :: rest => some (array [], rest)
      | rest => readItems depth [] rest
    | '"' :: rest => (readString [] rest).map fun (s, rest) => (string s, rest)
    | 't' :: 'r' :: 'u' :: 'e' :: rest => some (bool true, rest)
    | 'f' :: 'a' :: 'l' :: 's' :: 'e' :: rest => some (bool false, rest)
    | 'n' :: 'u' :: 'l' :: 'l' :: rest => some (null, rest)
    | rest => readNumber rest

/-- Reads the items of an array up to its end; {lit}`items` are those read so far, last first. -/
def readItems (depth : Nat) (items : List Json) (cs : List Char) : Option (Json × List Char) :=
  match depth with
  | 0 => none
  | depth + 1 =>
    match readValue depth cs with
    | none => none
    | some (item, rest) =>
      match skipBlanks rest with
      | ',' :: rest => readItems depth (item :: items) rest
      | ']' :: rest => some (array (item :: items).reverse, rest)
      | _ => none

/-- Reads the fields of an object up to its end; {lit}`fields` are those read so far, last
first. -/
def readFields (depth : Nat) (fields : List (String × Json)) (cs : List Char) :
    Option (Json × List Char) :=
  match depth with
  | 0 => none
  | depth + 1 =>
    match skipBlanks cs with
    | '"' :: rest =>
      match readString [] rest with
      | none => none
      | some (key, rest) =>
        match skipBlanks rest with
        | ':' :: rest =>
          match readValue depth rest with
          | none => none
          | some (value, rest) =>
            match skipBlanks rest with
            | ',' :: rest => readFields depth ((key, value) :: fields) rest
            | '}' :: rest => some (object ((key, value) :: fields).reverse, rest)
            | _ => none
        | _ => none
    | _ => none

end

/-- The value that a text stands for. -/
def parse? (s : String) : Option Json :=
  match readValue (s.length + 1) s.toList with
  | some (value, rest) => if (skipBlanks rest).isEmpty then some value else none
  | none => none

end CallGuard.Json
