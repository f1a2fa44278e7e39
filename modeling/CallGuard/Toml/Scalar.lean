import CallGuard.Toml.Float
import CallGuard.Toml.Value

/-!
# Scalars of TOML

Strings are read from the front of a text and hand on what is left.  Numbers, truth values and dates
are words: stretches without a blank or a separator, which are taken as a whole or refused.

Main definitions:

- {lit}`readBasic`, {lit}`readLiteral`, {lit}`readBasicLines`, {lit}`readLiteralLines`: the four
  forms of strings.
- {lit}`readString`: a string of any form.
- {lit}`wordValue?`: the value of a word.
-/

namespace CallGuard.Toml

/-! ## Characters -/

/-- A blank inside a line. -/
def isBlank (c : Char) : Bool :=
  c == ' ' || c == '\t'

/-- A character that may stand in a line: no control character but the tab. -/
def isPlain (c : Char) : Bool :=
  c == '\t' || (0x20 ≤ c.toNat && c.toNat != 0x7f)

/-- What is left behind the blanks. -/
def skipBlanks (cs : List Char) : List Char :=
  cs.dropWhile isBlank

/-- What is left behind a line end. -/
def newline? : List Char → Option (List Char)
  | '\n' :: rest => some rest
  | '\r' :: '\n' :: rest => some rest
  | _ => none

/-- The value of a digit in bases up to sixteen. -/
def digitValue? (c : Char) : Option Nat :=
  if '0' ≤ c ∧ c ≤ '9' then some (c.toNat - 48)
  else if 'a' ≤ c ∧ c ≤ 'f' then some (c.toNat - 87)
  else if 'A' ≤ c ∧ c ≤ 'F' then some (c.toNat - 55)
  else none

/-- The character with a code in hexadecimal digits. -/
def codeChar? (digits : List Char) : Option Char :=
  match digits.mapM digitValue? with
  | some values =>
    let n := values.foldl (fun n d => 16 * n + d) 0
    if n < 0xd800 ∨ (0xdfff < n ∧ n < 0x110000) then some (Char.ofNat n) else none
  | none => none

/-- The character of an escape with one letter. -/
def escaped? (c : Char) : Option Char :=
  match c with
  | 'b' => some (Char.ofNat 8)
  | 't' => some '\t'
  | 'n' => some '\n'
  | 'f' => some (Char.ofNat 12)
  | 'r' => some '\r'
  | '"' => some '"'
  | '\\' => some '\\'
  | _ => none

/-! ## Strings -/

/-- Reads a string in double quotes behind its opening quote; {lit}`taken` holds what was read so
far, last first. -/
def readBasic (taken : List Char) : List Char → Option (String × List Char)
  | [] => none
  | '"' :: rest => some (String.ofList taken.reverse, rest)
  | '\\' :: 'u' :: a :: b :: c :: d :: rest =>
    match codeChar? [a, b, c, d] with
    | some c => readBasic (c :: taken) rest
    | none => none
  | '\\' :: 'U' :: a :: b :: c :: d :: e :: f :: g :: h :: rest =>
    match codeChar? [a, b, c, d, e, f, g, h] with
    | some c => readBasic (c :: taken) rest
    | none => none
  | '\\' :: c :: rest =>
    match escaped? c with
    | some c => readBasic (c :: taken) rest
    | none => none
  | c :: rest => if isPlain c then readBasic (c :: taken) rest else none

/-- Reads a string in single quotes behind its opening quote. -/
def readLiteral (taken : List Char) : List Char → Option (String × List Char)
  | [] => none
  | c :: rest =>
    if c.toNat == 39 then some (String.ofList taken.reverse, rest)
    else if isPlain c then readLiteral (c :: taken) rest
    else none

/-- Ends a string behind three closing quotes; up to two more of them belong to the string. -/
def closeLines (quote : Char) (taken rest : List Char) : String × List Char :=
  let extra := ((rest.take 2).takeWhile (· == quote)).length
  (String.ofList (taken.reverse ++ List.replicate extra quote), rest.drop extra)

/-- Whether a backslash before this text joins two lines. -/
def joinsLines (cs : List Char) : Bool :=
  (newline? (skipBlanks cs)).isSome

/-- Reads a string of several lines in double quotes behind its opening; while {lit}`joining`, blanks
and line ends are passed over. -/
def readBasicLines (joining : Bool) (taken : List Char) : List Char → Option (String × List Char)
  | [] => none
  | '"' :: '"' :: '"' :: rest => some (closeLines '"' taken rest)
  | '\r' :: '\n' :: rest =>
    if joining then readBasicLines true taken rest else readBasicLines false ('\n' :: taken) rest
  | '\\' :: 'u' :: a :: b :: c :: d :: rest =>
    match codeChar? [a, b, c, d] with
    | some c => readBasicLines false (c :: taken) rest
    | none => none
  | '\\' :: 'U' :: a :: b :: c :: d :: e :: f :: g :: h :: rest =>
    match codeChar? [a, b, c, d, e, f, g, h] with
    | some c => readBasicLines false (c :: taken) rest
    | none => none
  | '\\' :: c :: rest =>
    if joinsLines (c :: rest) then readBasicLines true taken (c :: rest)
    else
      match escaped? c with
      | some c => readBasicLines false (c :: taken) rest
      | none => none
  | c :: rest =>
    if joining && (isBlank c || c == '\n') then readBasicLines true taken rest
    else if c == '\n' || isPlain c then readBasicLines false (c :: taken) rest
    else none

/-- Reads a string of several lines in single quotes behind its opening. -/
def readLiteralLines (taken : List Char) : List Char → Option (String × List Char)
  | [] => none
  | '\r' :: '\n' :: rest => readLiteralLines ('\n' :: taken) rest
  | c :: rest =>
    if c.toNat == 39 then
      match rest with
      | d :: e :: more =>
        if d.toNat == 39 && e.toNat == 39 then some (closeLines c taken more)
        else readLiteralLines (c :: taken) (d :: e :: more)
      | _ => none
    else if c == '\n' || isPlain c then readLiteralLines (c :: taken) rest
    else none

/-- What is left behind a line end, if there is one. -/
def skipNewline (cs : List Char) : List Char :=
  (newline? cs).getD cs

/-- Reads a string of any form. -/
def readString (cs : List Char) : Option (String × List Char) :=
  match cs with
  | '"' :: '"' :: '"' :: rest => readBasicLines false [] (skipNewline rest)
  | '"' :: rest => readBasic [] rest
  | c :: rest =>
    if c.toNat == 39 then
      match rest with
      | d :: e :: more =>
        if d.toNat == 39 && e.toNat == 39 then readLiteralLines [] (skipNewline more)
        else readLiteral [] rest
      | _ => readLiteral [] rest
    else none
  | [] => none

/-! ## Numbers -/

/-- Digits without the underscores, each of which stands between two digits. -/
def plainDigits? (isDigit : Char → Bool) : List Char → Option (List Char)
  | [] => none
  | [c] => if isDigit c then some [c] else none
  | c :: '_' :: d :: rest =>
    if isDigit c && isDigit d then (plainDigits? isDigit (d :: rest)).map (c :: ·) else none
  | c :: rest => if isDigit c then (plainDigits? isDigit rest).map (c :: ·) else none

/-- The value of digits in a base. -/
def digitsValue (base : Nat) (cs : List Char) : Nat :=
  cs.foldl (fun n c => base * n + (digitValue? c).getD 0) 0

/-- Whether a character is a digit of a base. -/
def isDigitOf (base : Nat) (c : Char) : Bool :=
  (digitValue? c).any (· < base)

/-- An integer of 64 bits. -/
def word? (n : Int) : Option Value :=
  if -9223372036854775808 ≤ n ∧ n < 9223372036854775808 then some (.integer n) else none

/-- Splits a sign off: whether it is negative, and the rest. -/
def splitSign : List Char → Bool × List Char
  | '-' :: rest => (true, rest)
  | '+' :: rest => (false, rest)
  | cs => (false, cs)

/-- The digits of a decimal integer without sign: no zero stands before other digits. -/
def wholeDigits? (cs : List Char) : Option (List Char) :=
  match plainDigits? Char.isDigit cs with
  | some ds => if ds.length = 1 ∨ ds.head? ≠ some '0' then some ds else none
  | none => none

/-- The value of an integer. -/
def integer? (cs : List Char) : Option Value :=
  match cs with
  | '0' :: 'x' :: ds => (plainDigits? (isDigitOf 16) ds).bind fun ds => word? (digitsValue 16 ds)
  | '0' :: 'o' :: ds => (plainDigits? (isDigitOf 8) ds).bind fun ds => word? (digitsValue 8 ds)
  | '0' :: 'b' :: ds => (plainDigits? (isDigitOf 2) ds).bind fun ds => word? (digitsValue 2 ds)
  | cs =>
    let (negative, body) := splitSign cs
    (wholeDigits? body).bind fun ds =>
      let n : Int := digitsValue 10 ds
      word? (if negative then -n else n)

/-- The value of an exponent without its mark. -/
def exponent? (cs : List Char) : Option Int :=
  let (negative, body) := splitSign cs
  (plainDigits? Char.isDigit body).map fun ds =>
    let n : Int := digitsValue 10 ds
    if negative then -n else n

/-- The text of a floating-point number; a positive one beyond the greatest is refused. -/
def floatOf (negative : Bool) (digits : List Char) (power : Int) : Option Value :=
  match decimalText? (digitsValue 10 digits) power with
  | some text => some (.float (if negative then "-" ++ text else text))
  | none => if negative then some (.float "-inf") else none

/-- The value of a floating-point number. -/
def float? (cs : List Char) : Option Value :=
  let (negative, body) := splitSign cs
  if body = "inf".toList then some (.float (if negative then "-inf" else "inf"))
  else if body = "nan".toList then some (.float "NaN")
  else
    let isMark (c : Char) : Bool := c == 'e' || c == 'E'
    let mantissa := body.takeWhile (!isMark ·)
    let behind := body.dropWhile (!isMark ·)
    let whole := mantissa.takeWhile (· != '.')
    let fraction := mantissa.dropWhile (· != '.')
    let power? := if behind.isEmpty then some 0 else exponent? behind.tail
    let fraction? := if fraction.isEmpty then some [] else plainDigits? Char.isDigit fraction.tail
    if behind.isEmpty && fraction.isEmpty then none
    else
      match wholeDigits? whole, fraction?, power? with
      | some ds, some fs, some power => floatOf negative (ds ++ fs) (power - fs.length)
      | _, _, _ => none

/-! ## Dates and times -/

/-- The value of two digits within bounds. -/
def twoDigits? (a b : Char) (low high : Nat) : Option Nat :=
  if a.isDigit && b.isDigit then
    let n := digitsValue 10 [a, b]
    if low ≤ n ∧ n ≤ high then some n else none
  else none

/-- The number of days of a month. -/
def daysIn (year month : Nat) : Nat :=
  if month = 2 then
    if year % 4 = 0 ∧ (year % 100 ≠ 0 ∨ year % 400 = 0) then 29 else 28
  else if [4, 6, 9, 11].contains month then 30
  else 31

/-- Whether ten characters are a date. -/
def isDate : List Char → Bool
  | [a, b, c, d, '-', e, f, '-', g, h] =>
    [a, b, c, d].all Char.isDigit &&
      match twoDigits? e f 1 12, twoDigits? g h 1 31 with
      | some month, some day => day ≤ daysIn (digitsValue 10 [a, b, c, d]) month
      | _, _ => false
  | _ => false

/-- Reads a time of day: its text, with at most nine places and no zeros at the end, and what is
left. -/
def readTime : List Char → Option (List Char × List Char)
  | a :: b :: ':' :: c :: d :: ':' :: e :: f :: rest =>
    if (twoDigits? a b 0 23).isSome && (twoDigits? c d 0 59).isSome &&
        (twoDigits? e f 0 60).isSome then
      let clock := [a, b, ':', c, d, ':', e, f]
      match rest with
      | '.' :: more =>
        let digits := more.takeWhile Char.isDigit
        let kept := ((digits.take 9).reverse.dropWhile (· == '0')).reverse
        let text := if kept.isEmpty then clock else clock ++ '.' :: kept
        if digits.isEmpty then none else some (text, more.dropWhile Char.isDigit)
      | _ => some (clock, rest)
    else none
  | _ => none

/-- The text of an offset from universal time; that of no hours and no minutes is positive. -/
def offset? : List Char → Option (List Char)
  | [] => some []
  | ['Z'] | ['z'] => some ['Z']
  | ['-', '0', '0', ':', '0', '0'] => some ['+', '0', '0', ':', '0', '0']
  | [sign, a, b, ':', c, d] =>
    if (sign == '+' || sign == '-') && (twoDigits? a b 0 23).isSome &&
        (twoDigits? c d 0 59).isSome then
      some [sign, a, b, ':', c, d]
    else none
  | _ => none

/-- The text of a time of day with an optional offset. -/
def timeText? (cs : List Char) : Option (List Char) :=
  (readTime cs).bind fun (time, rest) => (offset? rest).map (time ++ ·)

/-- The value of a date, a time, or both. -/
def datetime? (cs : List Char) : Option Value :=
  let date := cs.take 10
  let text? :=
    if isDate date then
      match cs.drop 10 with
      | [] => some date
      | mark :: time =>
        if mark == 'T' || mark == 't' || mark == ' ' then
          (timeText? time).map (date ++ 'T' :: ·)
        else none
    else
      match readTime cs with
      | some (time, []) => some time
      | _ => none
  text?.map fun text => .datetime (String.ofList text)

/-! ## Words -/

/-- Whether a character belongs to a word. -/
def isWordChar (c : Char) : Bool :=
  c.isAlphanum || c == '_' || c == '+' || c == '-' || c == '.' || c == ':'

/-- The value of a word. -/
def wordValue? (cs : List Char) : Option Value :=
  if cs = "true".toList then some (.boolean true)
  else if cs = "false".toList then some (.boolean false)
  else ((datetime? cs).or (float? cs)).or (integer? cs)

/-- Reads a word.  A date may be followed by a blank and a time. -/
def readWord (cs : List Char) : Option (Value × List Char) :=
  let word := cs.takeWhile isWordChar
  let rest := cs.dropWhile isWordChar
  match rest with
  | ' ' :: d :: more =>
    if isDate word && d.isDigit then
      let time := (d :: more).takeWhile isWordChar
      (wordValue? (word ++ ' ' :: time)).map (·, (d :: more).dropWhile isWordChar)
    else
      (wordValue? word).map (·, rest)
  | _ => (wordValue? word).map (·, rest)

end CallGuard.Toml
