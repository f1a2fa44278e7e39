import CallGuard.Text.Basic
import CallGuard.Token

/-!
# From leaves to tokens

A leaf is a stretch of the source with a kind, given by the offsets and the points of its two ends.
Leaves become tokens in the order in which they come; a leaf that is empty or starts before the end
of the last token is passed over, and the text between two tokens becomes a token of its own.

The end of the last token is known by its offset, and the point that goes with it by the last leaf.
A gap moves the offset alone, since a leaf that follows it brings its own points.

Main definitions:

- {lit}`Point`: row and column of a position.
- {lit}`Leaf`: a stretch of the source with its kind.
- {lit}`Emission`: the tokens so far and where they end.
- {lit}`tokensOfLeaves`: the tokens of a source with given leaves.
-/

namespace CallGuard.Php

/-! ## Points -/

/-- A point in the source: its row and its column, counted from zero.  Columns count bytes. -/
structure Point where
  row : Nat
  column : Nat
deriving Repr, DecidableEq

namespace Point

/-- The start of a source. -/
def start : Point := ⟨0, 0⟩

/-- The point behind a character. -/
def next (p : Point) (c : Char) : Point :=
  if c = '\n' then ⟨p.row + 1, 0⟩ else ⟨p.row, p.column + c.utf8Size⟩

/-- The point behind a text. -/
def advance (p : Point) (cs : List Char) : Point :=
  cs.foldl next p

end Point

/-! ## Leaves -/

/-- A stretch of the source: its kind, the offsets of its two ends in bytes, and their points. -/
structure Leaf where
  kind : TokenKind
  start : Nat
  stop : Nat
  startPoint : Point
  stopPoint : Point
deriving Repr, DecidableEq

/-- The token of the source between two offsets, the first of which has a given point. -/
def tokenBetween (source : String) (kind : String → TokenKind) (start stop : Nat) (p : Point) :
    Token :=
  let text := (Text.slice? source start stop).getD ""
  ⟨kind text, text, p.row + 1, p.column + 1, start⟩

/-- The kind of text between two leaves. -/
def gapKind (text : String) : TokenKind :=
  if text.toList.all Text.isBlank then .whitespace else .other

/-- The tokens so far, last first, the offset behind them, and the point behind the last leaf among
them. -/
structure Emission where
  tokens : List Token
  stop : Nat
  point : Point

namespace Emission

/-- There is no token yet. -/
def begin : Emission := ⟨[], 0, .start⟩

/-- Takes the text up to an offset as one token, unless there is none. -/
def gap (e : Emission) (source : String) (stop : Nat) : Emission :=
  if stop ≤ e.stop then e
  else
    let token := tokenBetween source gapKind e.stop stop e.point
    { e with tokens := token :: e.tokens, stop := stop }

/-- Takes a leaf, and the text before it. -/
def leaf (source : String) (e : Emission) (l : Leaf) : Emission :=
  if l.start = l.stop ∨ l.start < e.stop then e
  else
    let token := tokenBetween source (fun _ => l.kind) l.start l.stop l.startPoint
    ⟨token :: (e.gap source l.start).tokens, l.stop, l.stopPoint⟩

/-- Takes all that is left. -/
def finish (e : Emission) (source : String) : List Token :=
  (e.gap source source.utf8ByteSize).tokens.reverse

end Emission

/-- The tokens of a source with given leaves. -/
def tokensOfLeaves (source : String) (leaves : List Leaf) : List Token :=
  (leaves.foldl (Emission.leaf source) .begin).finish source

end CallGuard.Php
