/-!
# Texts and bytes

Texts are written as bytes in UTF-8.

Bytes are read from left to right.  Where no character can be read, the longest part that could
still have been the start of one is one fault, and reading goes on behind it.

Main definitions:

- {lit}`decode`: the characters of a list of bytes, with {lit}`none` for each fault.
- {lit}`decode?`: the text of a list of bytes without fault.
- {lit}`decodeLossy`: the text of any list of bytes, with a replacement character for each fault.
- {lit}`encode`: the bytes of a list of characters.
-/

namespace CallGuard.Text.Utf8

/-- Whether a byte continues a character. -/
def isTail (b : UInt8) : Bool :=
  0x80 ≤ b && b ≤ 0xbf

/-- Whether {lit}`second` may follow the first byte of a character of three bytes. -/
def opensThree (first second : UInt8) : Bool :=
  (first == 0xe0 && 0xa0 ≤ second && second ≤ 0xbf) ||
    (0xe1 ≤ first && first ≤ 0xec && isTail second) ||
    (first == 0xed && 0x80 ≤ second && second ≤ 0x9f) ||
    (0xee ≤ first && first ≤ 0xef && isTail second)

/-- Whether {lit}`second` may follow the first byte of a character of four bytes. -/
def opensFour (first second : UInt8) : Bool :=
  (first == 0xf0 && 0x90 ≤ second && second ≤ 0xbf) ||
    (0xf1 ≤ first && first ≤ 0xf3 && isTail second) ||
    (first == 0xf4 && 0x80 ≤ second && second ≤ 0x8f)

/-- The payload of a byte that continues a character. -/
def tailBits (b : UInt8) : Nat :=
  b.toNat % 64

/-- Reads one character: the character, or {lit}`none` for a fault, and the number of further
bytes that it takes. -/
def step (b : UInt8) (rest : List UInt8) : Option Char × Nat :=
  if b < 0x80 then
    (some (Char.ofNat b.toNat), 0)
  else if 0xc2 ≤ b && b ≤ 0xdf then
    match rest with
    | c :: _ =>
      if isTail c then (some (Char.ofNat (b.toNat % 32 * 64 + tailBits c)), 1) else (none, 0)
    | [] => (none, 0)
  else if 0xe0 ≤ b && b ≤ 0xef then
    match rest with
    | c :: d :: _ =>
      if !opensThree b c then (none, 0)
      else if !isTail d then (none, 1)
      else (some (Char.ofNat ((b.toNat % 16 * 64 + tailBits c) * 64 + tailBits d)), 2)
    | [c] => (none, if opensThree b c then 1 else 0)
    | [] => (none, 0)
  else if 0xf0 ≤ b && b ≤ 0xf4 then
    match rest with
    | c :: d :: e :: _ =>
      if !opensFour b c then (none, 0)
      else if !isTail d then (none, 1)
      else if !isTail e then (none, 2)
      else
        let high := (b.toNat % 8 * 64 + tailBits c) * 64 + tailBits d
        (some (Char.ofNat (high * 64 + tailBits e)), 3)
    | [c, d] => (none, if !opensFour b c then 0 else if isTail d then 2 else 1)
    | [c] => (none, if opensFour b c then 1 else 0)
    | [] => (none, 0)
  else
    (none, 0)

/-- The characters of a list of bytes, with {lit}`none` for each fault. -/
def decode : List UInt8 → List (Option Char)
  | [] => []
  | b :: rest => (step b rest).1 :: decode (rest.drop (step b rest).2)
termination_by bytes => bytes.length
decreasing_by simp only [List.length_drop, List.length_cons]; omega

/-- The text of bytes without fault. -/
def decode? (bytes : ByteArray) : Option String :=
  ((decode bytes.toList).mapM id).map String.ofList

/-- The text of any bytes, with the replacement character in the place of each fault. -/
def decodeLossy (bytes : ByteArray) : String :=
  String.ofList ((decode bytes.toList).map (·.getD (Char.ofNat 0xfffd)))

/-- The bytes of a list of characters. -/
def encode (cs : List Char) : List UInt8 :=
  (String.ofList cs).toUTF8.toList

end CallGuard.Text.Utf8
