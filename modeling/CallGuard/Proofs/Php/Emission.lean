import Mathlib.Data.List.DropRight
import Mathlib.Data.List.Induction
import CallGuard.Php.Tokenizer
import CallGuard.Proofs.Text.Bytes

/-!
# Tokens make up the source

The tokens of a source are cut out of it by leaves that may come in any order, overlap or be empty.
Whatever the leaves are, as long as each of them is a stretch of the source with the points of its
ends, nothing of the source is lost, nothing is added, and every token stands where it says.

The end of the last token is kept twice, as an offset and as a point.  Between two leaves the two
belong to the same position; this is the invariant that carries the proofs.

Main results:

- Theorem {lit}`Splits.concat`: what one more token does to tokens that make up a text.
- Theorem {lit}`Emission.InStep.leaf`: a leaf keeps offset, point and tokens in step.
- Theorem {lit}`Emission.InStep.foldl_leaf`: so does any number of leaves.
- Theorem {lit}`liesIn_of_mem_leaves`: the leaves of the tokenizer are stretches of the source.
- Theorem {lit}`tokens_split_source`: the tokens of a source make it up.
-/

namespace CallGuard

open Text (byteLength)

/-! ## Tokens that make up a text -/

/-- A token stands behind a text: the offset of the token counts the bytes of the text, its line the
line feeds, and its column the bytes behind the last line feed; lines and columns start at one. -/
structure Token.StandsBehind (t : Token) (before : String) : Prop where
  offset : t.offset = before.utf8ByteSize
  line : t.line = 1 + before.toList.count '\n'
  column : t.column = 1 + byteLength (before.toList.rtakeWhile (· ≠ '\n'))

/-- The text of tokens. -/
def textOf (tokens : List Token) : String :=
  String.join (tokens.map (·.content))

/-- Tokens make up a text: their contents are the text, none of them is empty, and each stands
behind the contents of those before it. -/
structure Splits (text : String) (tokens : List Token) : Prop where
  contents : textOf tokens = text
  nonempty : ∀ t ∈ tokens, t.content ≠ ""
  places : ∀ (i : Nat) (t : Token), tokens[i]? = some t → t.StandsBehind (textOf (tokens.take i))

/-- No token makes up the empty text. -/
theorem splits_nil : Splits "" [] where
  contents := rfl
  nonempty := by simp
  places := by simp

/-- A token that stands behind a text makes up one text with the tokens of that text. -/
theorem Splits.concat {text : String} {tokens : List Token} (h : Splits text tokens) {t : Token}
    (hcontent : t.content ≠ "") (hplace : t.StandsBehind text) :
    Splits (text ++ t.content) (tokens ++ [t]) := by
  refine ⟨?_, ?_, ?_⟩
  · rw [← h.contents]
    simp [textOf]
  · intro other hother
    rcases List.mem_append.mp hother with hmem | hmem
    · exact h.nonempty other hmem
    · rw [List.mem_singleton.mp hmem]
      exact hcontent
  · intro i other hother
    rcases Nat.lt_trichotomy i tokens.length with hlt | heq | hgt
    · rw [List.getElem?_append_left hlt] at hother
      rw [List.take_append_of_le_length (Nat.le_of_lt hlt)]
      exact h.places i other hother
    · subst heq
      rw [List.getElem?_concat_length, Option.some.injEq] at hother
      rw [← hother, List.take_left, h.contents]
      exact hplace
    · have hnone : (tokens ++ [t])[i]? = none := by
        rw [List.getElem?_eq_none_iff, List.length_append, List.length_singleton]
        omega
      rw [hnone] at hother
      cases hother

namespace Php

/-! ## Points -/

namespace Point

/-- The point behind a text: the number of its line feeds, and of the bytes behind the last one. -/
def behind (cs : List Char) : Point :=
  ⟨cs.count '\n', byteLength (cs.rtakeWhile (· ≠ '\n'))⟩

/-- The point behind one more character. -/
theorem next_behind (cs : List Char) (c : Char) : (behind cs).next c = behind (cs ++ [c]) := by
  by_cases h : c = '\n'
  · subst h
    simp [next, behind, byteLength]
  · have hcount : [c].count '\n' = 0 := List.count_eq_zero.mpr (by simpa using Ne.symm h)
    simp [next, behind, h, hcount, byteLength]

/-- The point behind one more text. -/
theorem advance_behind (cs ds : List Char) : (behind cs).advance ds = behind (cs ++ ds) := by
  induction ds using List.reverseRecOn with
  | nil => simp [advance]
  | append_singleton ds d ih =>
    rw [← List.append_assoc, ← next_behind, ← ih, advance, List.foldl_append]
    rfl

end Point

/-! ## Leaves in a source -/

/-- A leaf lies in a source: its offsets cut the source between characters, in this order, and its
points are those of its offsets. -/
def Leaf.LiesIn (l : Leaf) (source : String) : Prop :=
  ∃ before text after, source = before ++ text ++ after ∧
    l.start = before.utf8ByteSize ∧ l.startPoint = .behind before.toList ∧
    l.stop = (before ++ text).utf8ByteSize ∧ l.stopPoint = .behind (before ++ text).toList

/-- The token between two texts that start a source. -/
theorem tokenBetween_append (before text after : String) (kind : String → TokenKind) (p : Point) :
    tokenBetween (before ++ text ++ after) kind before.utf8ByteSize
        (before ++ text).utf8ByteSize p =
      ⟨kind text, text, p.row + 1, p.column + 1, before.utf8ByteSize⟩ := by
  rw [tokenBetween, Text.slice?_append, Option.getD_some]

/-- Such a token stands behind the first text if it starts at the point of that text. -/
theorem standsBehind_of_point (before text : String) (kind : TokenKind) :
    (⟨kind, text, (Point.behind before.toList).row + 1, (Point.behind before.toList).column + 1,
      before.utf8ByteSize⟩ : Token).StandsBehind before where
  offset := rfl
  line := Nat.add_comm _ 1
  column := Nat.add_comm _ 1

/-! ## Emission -/

namespace Emission

/-- The tokens so far make up a text that starts the source, and offset and point are those of the
position behind it. -/
def InStep (e : Emission) (source : String) : Prop :=
  ∃ before after, source = before ++ after ∧ Splits before e.tokens.reverse ∧
    e.stop = before.utf8ByteSize ∧ e.point = .behind before.toList

/-- The first emission is in step. -/
theorem inStep_begin (source : String) : begin.InStep source :=
  ⟨"", source, by simp, splits_nil, rfl, rfl⟩

/-- Behind a gap, the tokens make up the text in front of it and the gap. -/
theorem splits_gap {e : Emission} {before : String} (htokens : Splits before e.tokens.reverse)
    (hstop : e.stop = before.utf8ByteSize) (hpoint : e.point = .behind before.toList)
    (text after : String) :
    Splits (before ++ text)
      (e.gap (before ++ text ++ after) (before ++ text).utf8ByteSize).tokens.reverse := by
  by_cases hempty : text = ""
  · subst hempty
    rw [gap, hstop, String.append_empty, if_pos (Nat.le_refl _)]
    exact htokens
  · have hsize : text.utf8ByteSize ≠ 0 := fun h => hempty (String.utf8ByteSize_eq_zero_iff.mp h)
    have hlt : ¬ (before ++ text).utf8ByteSize ≤ before.utf8ByteSize := by
      rw [String.utf8ByteSize_append]
      omega
    rw [gap, hstop, if_neg hlt]
    simp only [tokenBetween_append, hpoint, List.reverse_cons]
    exact htokens.concat hempty (standsBehind_of_point before text _)

/-- A leaf that lies in the source keeps an emission in step. -/
theorem InStep.leaf {e : Emission} {source : String} (h : e.InStep source) {l : Leaf}
    (hl : l.LiesIn source) : (Emission.leaf source e l).InStep source := by
  unfold Emission.leaf
  split
  · exact h
  · rename_i hskip
    obtain ⟨before, rest, hsource, htokens, hstop, hpoint⟩ := h
    obtain ⟨front, text, after, hleaf, hstart, hstartPoint, hend, hendPoint⟩ := hl
    rw [not_or, Nat.not_lt, hstart, hstop, hend] at hskip
    obtain ⟨hsize, hle⟩ := hskip
    -- The leaf starts behind the tokens, so the text in front of it is theirs and a gap.
    have hstarts : before ++ rest = front ++ (text ++ after) := by
      rw [← hsource, hleaf, String.append_assoc]
    obtain ⟨between, hfront⟩ := Text.exists_eq_append_of_utf8ByteSize_le hstarts hle
    have hgap : Splits front (e.gap source l.start).tokens.reverse := by
      have hsplits := splits_gap htokens hstop hpoint between (text ++ after)
      rwa [← hfront, ← hstarts, ← hsource, ← hstart] at hsplits
    have hcontent : text ≠ "" := by
      rintro rfl
      exact hsize (by rw [String.append_empty])
    refine ⟨front ++ text, after, hleaf, ?_, hend, hendPoint⟩
    simp only [List.reverse_cons, hleaf, hstart, hend, hstartPoint, tokenBetween_append]
    rw [hleaf, hstart] at hgap
    exact hgap.concat hcontent (standsBehind_of_point front text _)

/-- Leaves that lie in the source keep an emission in step. -/
theorem InStep.foldl_leaf {e : Emission} {source : String} (h : e.InStep source)
    {leaves : List Leaf} (hleaves : ∀ l ∈ leaves, l.LiesIn source) :
    (leaves.foldl (Emission.leaf source) e).InStep source := by
  induction leaves generalizing e with
  | nil => exact h
  | cons l leaves ih =>
    rw [List.foldl_cons]
    exact ih (h.leaf (hleaves l (by simp))) fun k hk => hleaves k (List.mem_cons_of_mem l hk)

/-- When all that is left is taken, the tokens of an emission that is in step make up the source. -/
theorem InStep.splits_finish {e : Emission} {source : String} (h : e.InStep source) :
    Splits source (e.finish source) := by
  obtain ⟨before, rest, hsource, htokens, hstop, hpoint⟩ := h
  have hgap := splits_gap htokens hstop hpoint rest ""
  rwa [String.append_empty, ← hsource] at hgap

end Emission

/-- The tokens of leaves that lie in the source make it up. -/
theorem splits_tokensOfLeaves {source : String} {leaves : List Leaf}
    (hleaves : ∀ l ∈ leaves, l.LiesIn source) : Splits source (tokensOfLeaves source leaves) :=
  ((Emission.inStep_begin source).foldl_leaf hleaves).splits_finish

/-! ## The leaves of the tokenizer -/

/-- The leaves of lexemes behind a text lie in the text that both make up. -/
theorem liesIn_of_mem_leavesFrom {l : Leaf} (before : List Char) (lexemes : List Lexeme)
    (hmem : l ∈ leavesFrom (byteLength before) (.behind before) lexemes) :
    l.LiesIn (String.ofList (before ++ lexemes.flatMap (·.text))) := by
  induction lexemes generalizing before with
  | nil => simp [leavesFrom] at hmem
  | cons lexeme rest ih =>
    have hrest : l ∈ leavesFrom (byteLength before + byteLength lexeme.text)
          ((Point.behind before).advance lexeme.text) rest →
        l.LiesIn (String.ofList (before ++ (lexeme :: rest).flatMap (·.text))) := by
      intro hl
      rw [← Text.byteLength_append, Point.advance_behind] at hl
      rw [List.flatMap_cons, ← List.append_assoc]
      exact ih _ hl
    rw [leavesFrom] at hmem
    split at hmem
    · exact hrest hmem
    · rcases List.mem_cons.mp hmem with rfl | hmem
      · refine ⟨String.ofList before, String.ofList lexeme.text,
          String.ofList (rest.flatMap (·.text)), ?_, ?_, ?_, ?_, ?_⟩
        · rw [List.flatMap_cons, ← List.append_assoc, String.ofList_append, String.ofList_append]
        · exact (Text.utf8ByteSize_ofList before).symm
        · rw [String.toList_ofList]
        · rw [← String.ofList_append, Text.utf8ByteSize_ofList, Text.byteLength_append]
        · rw [← String.ofList_append, String.toList_ofList, Point.advance_behind]
      · exact hrest hmem

/-- The leaves of a source lie in it. -/
theorem liesIn_of_mem_leaves {source : String} {l : Leaf} (hmem : l ∈ leaves source.toList) :
    l.LiesIn source := by
  have hl := liesIn_of_mem_leavesFrom [] (lexemes source.toList) hmem
  rwa [List.nil_append, flatMap_text_lexemes, String.ofList_toList] at hl

/-! ## The tokens of a source -/

/-- Nothing of a source is lost or invented.  Let each of any leaves, in any order, be a stretch of
the source with the points of its ends; it may be empty or overlap others.  Then the tokens of the
leaves make up the source: their contents are the source, none of them is empty, and the offset, the
line and the column of each are those of the position behind the contents before it.  So are the
tokens that the tokenizer gives for any source. -/
theorem tokens_split_source :
    (∀ (source : String) (leaves : List Leaf), (∀ l ∈ leaves, l.LiesIn source) →
      Splits source (tokensOfLeaves source leaves)) ∧
    ∀ (source : String) (tokens : Tokens), tokenizer.tokenize source = .ok tokens →
      Splits source tokens.toList := by
  constructor
  · intro source leaves hleaves
    exact splits_tokensOfLeaves hleaves
  · intro source tokens htokens
    obtain rfl : Php.tokens source = tokens := Except.ok.inj htokens
    exact splits_tokensOfLeaves fun l hl => liesIn_of_mem_leaves hl

/-- Two lines, the first with a character of two bytes. -/
def twoLines : String := "é\nab c"

/-- A leaf on the second line, then one before it, one inside it, and an empty one. -/
def unorderedLeaves : List Leaf :=
  [⟨.identifier, 3, 5, ⟨1, 0⟩, ⟨1, 2⟩⟩, ⟨.variable, 0, 2, ⟨0, 0⟩, ⟨0, 2⟩⟩,
    ⟨.eval, 4, 5, ⟨1, 1⟩, ⟨1, 2⟩⟩, ⟨.function, 7, 7, ⟨1, 4⟩, ⟨1, 4⟩⟩]

/-- Only the first of the leaves becomes a token, and the text around it is not lost. -/
theorem tokens_split_source_unordered :
    (∀ l ∈ unorderedLeaves, l.LiesIn twoLines) ∧
      Splits twoLines (tokensOfLeaves twoLines unorderedLeaves) ∧
      tokensOfLeaves twoLines unorderedLeaves =
        [⟨.other, "é\n", 1, 1, 0⟩, ⟨.identifier, "ab", 2, 1, 3⟩, ⟨.other, " c", 2, 3, 5⟩] ∧
      tokenizer.tokenize twoLines = .ok (Php.tokens twoLines) ∧
      Splits twoLines (Php.tokens twoLines).toList := by
  have hleaves : ∀ l ∈ unorderedLeaves, l.LiesIn twoLines := by
    simp only [unorderedLeaves, List.forall_mem_cons]
    refine ⟨⟨"é\n", "ab", " c", ?_⟩, ⟨"", "é", "\nab c", ?_⟩, ⟨"é\na", "b", " c", ?_⟩,
      ⟨"é\nab c", "", "", ?_⟩, by simp⟩ <;> decide +kernel
  exact ⟨hleaves, tokens_split_source.1 twoLines unorderedLeaves hleaves, by decide +kernel, rfl,
    tokens_split_source.2 twoLines _ rfl⟩

end Php

end CallGuard
