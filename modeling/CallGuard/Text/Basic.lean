/-!
# Characters and texts

Texts are processed as lists of characters and kept as strings.  This file holds what every other
part needs from them: white space and trimming, cutting a text at a separator, the number of
bytes a text takes in UTF-8, the part of a text between two offsets, and searching for a part of a
text.

Main definitions:

- {lit}`isBlank`: the white space characters.
- {lit}`trim`: a text without the white space at its two ends.
- {lit}`cut`: the pieces of a text between the occurrences of a separator.
- {lit}`slice?`: the part of a text between two offsets in bytes.
- {lit}`occursIn`: whether a text is part of another one.
-/

namespace CallGuard.Text

/-! ## White space -/

/-- White space: the code points with the Unicode property of that name. -/
def isBlank (c : Char) : Bool :=
  let n := c.toNat
  (9 ≤ n && n ≤ 13) || n == 0x20 || n == 0x85 || n == 0xa0 || n == 0x1680 ||
    (0x2000 ≤ n && n ≤ 0x200a) || n == 0x2028 || n == 0x2029 || n == 0x202f || n == 0x205f ||
    n == 0x3000

/-- A list of characters without the white space at its end. -/
def trimRight (cs : List Char) : List Char :=
  (cs.reverse.dropWhile isBlank).reverse

/-- A list of characters without the white space at both ends. -/
def trimChars (cs : List Char) : List Char :=
  trimRight (cs.dropWhile isBlank)

/-- A text without the white space at both ends. -/
def trim (s : String) : String :=
  String.ofList (trimChars s.toList)

/-! ## Cutting -/

/-- The pieces between the occurrences of {lit}`sep`; there is one more piece than there are
separators. -/
def cut {α : Type} [DecidableEq α] (sep : α) : List α → List (List α)
  | [] => [[]]
  | c :: rest =>
    if c = sep then
      [] :: cut sep rest
    else
      match cut sep rest with
      | [] => [[c]]
      | piece :: pieces => (c :: piece) :: pieces

/-- A text is never cut into no piece at all. -/
theorem cut_ne_nil {α : Type} [DecidableEq α] (sep : α) (cs : List α) : cut sep cs ≠ [] := by
  cases cs with
  | nil => simp [cut]
  | cons c rest =>
    by_cases h : c = sep
    · simp [cut, h]
    · simp only [cut, h, if_false]
      split <;> simp

/-- The lines of a list: cut at line feeds, where a carriage return in front of a line feed belongs
to the end of the line, and without an empty line at the end. -/
def linesBy {α : Type} [DecidableEq α] (lineFeed carriageReturn : α) (cs : List α) :
    List (List α) :=
  let pieces := cut lineFeed cs
  let ended := pieces.dropLast.map fun line =>
    if line.getLast? = some carriageReturn then line.dropLast else line
  let last := pieces.getLast?.getD []
  if last.isEmpty then ended else ended ++ [last]

/-- The lines of a text. -/
def lines (cs : List Char) : List (List Char) :=
  linesBy '\n' '\r' cs

/-! ## Measuring and searching -/

/-- The number of bytes that a list of characters takes in UTF-8. -/
def byteLength : List Char → Nat
  | [] => 0
  | c :: rest => c.utf8Size + byteLength rest

/-- The part of a text between two offsets in bytes.  There is none unless both offsets stand
between characters and the first is not behind the second. -/
def slice? (s : String) (start stop : Nat) : Option String :=
  let first : String.Pos.Raw := ⟨start⟩
  let last : String.Pos.Raw := ⟨stop⟩
  if h : first.IsValid s ∧ last.IsValid s ∧ start ≤ stop then
    some (s.extract ⟨first, h.1⟩ ⟨last, h.2.1⟩)
  else
    none

/-- Whether {lit}`part` stands somewhere in a list of characters. -/
def occursIn (part : List Char) : List Char → Bool
  | [] => part.isEmpty
  | c :: rest => part.isPrefixOf (c :: rest) || occursIn part rest

/-- The same text up to the case of the letters A to Z. -/
def sameIgnoringAsciiCase (s t : String) : Bool :=
  s.toList.map Char.toLower == t.toList.map Char.toLower

end CallGuard.Text
