import CallGuard.Text.Basic
import CallGuard.Text.Marks

/-!
# Globs and excluded paths

A glob is a pattern for whole paths.  A question mark stands for one character, a star for any
text, brackets for a character of a set or outside of it, and two stars that make up a whole part
of the pattern for any number of folders.  Three stars, two stars elsewhere and an open bracket
make a pattern invalid.

A pattern excludes a path if the path matches it as a glob, or if the pattern without its double
stars stands somewhere in the path.

Main definitions:

- {lit}`Glob`: a glob as a list of items.
- {lit}`Glob.parse?`: reading a pattern.
- {lit}`Glob.isMatch`: whether a path matches a glob.
- {lit}`isExcluded`: whether some of a list of patterns excludes a path.

Main results:

- Theorem {lit}`Glob.isMatch_eq`: the matcher decides what it is to match a glob.
-/

namespace CallGuard

open Text

namespace Glob

/-! ## Items -/

/-- An item of a glob. -/
inductive Item where
  /-- A character that stands for itself. -/
  | char (c : Char)
  /-- One character. -/
  | any
  /-- Any text. -/
  | sequence
  /-- Any number of folders. -/
  | folders
  /-- A character in one of some ranges. -/
  | within (ranges : List (Char × Char))
  /-- A character in none of some ranges. -/
  | except (ranges : List (Char × Char))
deriving Repr, DecidableEq

/-- Whether a character lies in one of some ranges. -/
def inRanges (ranges : List (Char × Char)) (c : Char) : Bool :=
  ranges.any fun r => r.1 ≤ c && c ≤ r.2

/-- Whether an item stands for a character. -/
def Item.accepts : Item → Char → Bool
  | char d, c => c == d
  | any, _ => true
  | within ranges, c => inRanges ranges c
  | except ranges, c => !inRanges ranges c
  | sequence, _ | folders, _ => false

end Glob

/-- A glob is a list of items. -/
abbrev Glob := List Glob.Item

namespace Glob

/-! ## Reading -/

/-- The ranges of the text between brackets, where a character alone is a range of its own. -/
def ranges : List Char → List (Char × Char)
  | first :: '-' :: last :: rest => (first, last) :: ranges rest
  | c :: rest => (c, c) :: ranges rest
  | [] => []

/-- Splits a text at its first closing bracket. -/
def closeBracket? (cs : List Char) : Option (List Char × List Char) :=
  match cs.dropWhile (· != ']') with
  | [] => none
  | _ :: rest => some (cs.takeWhile (· != ']'), rest)

/-- What follows the closing bracket is shorter than the text. -/
theorem closeBracket?_length {cs inner rest : List Char}
    (h : closeBracket? cs = some (inner, rest)) : rest.length < cs.length := by
  unfold closeBracket? at h
  split at h
  · simp at h
  · next d tail hd =>
    simp only [Option.some.injEq, Prod.mk.injEq] at h
    have hle := (List.dropWhile_suffix (p := (· != ']')) (l := cs)).length_le
    rw [hd, List.length_cons] at hle
    rw [← h.2]
    omega

/-- Reads what follows an opening bracket.  The first character of the set never closes it. -/
def readSet? : List Char → Option (Item × List Char)
  | '!' :: first :: rest =>
    (closeBracket? rest).map fun (inner, rest) => (.except (ranges (first :: inner)), rest)
  | ['!'] => none
  | first :: rest =>
    (closeBracket? rest).map fun (inner, rest) => (.within (ranges (first :: inner)), rest)
  | [] => none

/-- What follows a set is shorter than the text. -/
theorem readSet?_length {cs rest : List Char} {item : Item}
    (h : readSet? cs = some (item, rest)) : rest.length < cs.length := by
  unfold readSet? at h
  split at h
  · obtain ⟨⟨inner, after⟩, hc, he⟩ := Option.map_eq_some_iff.1 h
    have := closeBracket?_length hc
    simp only [Prod.mk.injEq] at he
    simp only [List.length_cons, ← he.2]
    omega
  · simp at h
  · obtain ⟨⟨inner, after⟩, hc, he⟩ := Option.map_eq_some_iff.1 h
    have := closeBracket?_length hc
    simp only [Prod.mk.injEq] at he
    simp only [List.length_cons, ← he.2]
    omega
  · simp at h

/-- Reads a pattern, where {lit}`partStart` tells whether a part of the pattern starts here. -/
def parseFrom (partStart : Bool) (pattern : List Char) : Option Glob :=
  match pattern with
  | [] => some []
  | '*' :: '*' :: '*' :: _ => none
  | ['*', '*'] => if partStart then some [.folders] else none
  | '*' :: '*' :: '/' :: rest =>
    if partStart then (parseFrom true rest).map (.folders :: ·) else none
  | '*' :: '*' :: _ => none
  | '*' :: rest => (parseFrom false rest).map (.sequence :: ·)
  | '?' :: rest => (parseFrom false rest).map (.any :: ·)
  | '[' :: rest =>
    match _h : readSet? rest with
    | some (item, after) => (parseFrom false after).map (item :: ·)
    | none => none
  | c :: rest => (parseFrom (c == '/') rest).map (.char c :: ·)
termination_by pattern.length
decreasing_by
  all_goals simp only [List.length_cons]
  all_goals try omega
  have := readSet?_length _h
  omega

/-- The glob of a pattern, if the pattern is valid. -/
def parse? (pattern : String) : Option Glob :=
  parseFrom true pattern.toList

/-! ## Matching -/

/-- Whether a character is the slash between two parts of a path. -/
def isSlash (c : Char) : Bool :=
  c == '/'

/-- Whether a text as a whole matches a glob. -/
def matchesFrom : Glob → List Char → Bool
  | [], text => text.isEmpty
  | .sequence :: items, text => (ends text).any (matchesFrom items)
  | .folders :: items, text =>
    matchesFrom items text || (endsBehind isSlash text).any (matchesFrom items) ||
      matchesFrom items []
  | _ :: _, [] => false
  | item :: items, c :: text => item.accepts c && matchesFrom items text

/-- The marks for an item in front of marks: the positions from which the item leads to a marked
one. -/
def Item.marks (item : Item) (text : List Char) (next : List Bool) : List Bool :=
  match item with
  | .sequence => markThrough (fun _ => true) text next
  | .folders =>
    (markEither next (markAhead isSlash text next)).map (· || next.getLastD false)
  | item => markBefore item.accepts text next

/-- The positions of a text from which the rest matches a glob. -/
def marks (glob : Glob) (text : List Char) : List Bool :=
  glob.foldr (fun item next => item.marks text next) (markEnd text)

/-- Whether a path matches a glob. -/
def isMatch (glob : Glob) (path : String) : Bool :=
  (marks glob path.toList).headD false

/-- The last of the ends of a text is empty. -/
theorem getLastD_map_ends (f : List Char → Bool) (text : List Char) :
    ((ends text).map f).getLastD false = f [] := by
  induction text with
  | nil => rfl
  | cons c rest ih =>
    cases rest with
    | nil => rfl
    | cons d more => simpa [ends, List.getLastD] using ih

/-- The marks tell from which positions the rest of a text matches. -/
theorem marks_eq (glob : Glob) (text : List Char) :
    marks glob text = (ends text).map (matchesFrom glob) := by
  induction glob with
  | nil =>
    rw [marks, List.foldr_nil, markEnd_eq]
    exact List.map_congr_left fun t _ => by cases t <;> simp [matchesFrom]
  | cons item items ih =>
    have hstep : marks (item :: items) text = item.marks text (marks items text) := rfl
    rw [hstep, ih]
    cases item with
    | sequence =>
      simp only [Item.marks, markThrough_ends]
      exact List.map_congr_left fun t _ => by simp [matchesFrom]
    | folders =>
      simp only [Item.marks, markAhead_ends, markEither_map, getLastD_map_ends, List.map_map]
      exact List.map_congr_left fun t _ => by simp [matchesFrom]
    | char | any | within | except =>
      simp only [Item.marks, markBefore_ends]
      exact List.map_congr_left fun t _ => by cases t <;> simp [matchesFrom]

/-- A path matches a glob if its text does as a whole. -/
theorem isMatch_eq (glob : Glob) (path : String) :
    isMatch glob path = matchesFrom glob path.toList := by
  rw [isMatch, marks_eq, headD_map_ends]

end Glob

/-! ## Excluded paths -/

/-- A pattern without its double stars. -/
def dropDoubleStars : List Char → List Char
  | '*' :: '*' :: rest => dropDoubleStars rest
  | c :: rest => c :: dropDoubleStars rest
  | [] => []

/-- Whether a path matches a pattern as a glob. -/
def excludesAsGlob (pattern path : String) : Bool :=
  (Glob.parse? pattern).any (·.isMatch path)

/-- Whether a pattern without its double stars stands somewhere in a path. -/
def excludesAsText (pattern path : String) : Bool :=
  let plain := dropDoubleStars pattern.toList
  !plain.isEmpty && Text.occursIn plain path.toList

/-- Whether some of a list of patterns excludes a path. -/
def isExcluded (patterns : List String) (path : String) : Bool :=
  patterns.any fun pattern => excludesAsGlob pattern path || excludesAsText pattern path

end CallGuard
