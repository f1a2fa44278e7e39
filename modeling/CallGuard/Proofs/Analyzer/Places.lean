import Mathlib.Data.Prod.Lex
import CallGuard.Proofs.Analyzer.Run
import CallGuard.Proofs.Php.Emission

/-!
# Findings point at their text

A rule that reports at the token it is shown gives its finding the place and the text of this token.
The positions of the tokens of a source ascend strictly, also across tokens of several lines and
characters of several bytes.  So what a scan finds is in order from the start, and each finding
points at its own text.

Main results:

- Theorem {lit}`Php.Point.rank_lt_next`, {lit}`Php.Point.rank_lt_advance`: text moves a point
  forward.
- Theorem {lit}`Splits.position_lt`: the positions of the tokens of a text ascend.
- Theorem {lit}`Finding.StandsAt.pointsAt`: a finding that stands at a token of a source points at
  its text.
- Theorem {lit}`Analyzer.pairwise_scan`: the findings of a scan are in order.
- Theorem {lit}`Analyzer.analyzeSource_points_at_text`: the findings in a source that leaves cut.
-/

namespace CallGuard

open Text (byteLength)

/-! ## Points of a text -/

namespace Php.Point

/-- Points are ordered by their rows, and those of a row by their columns. -/
def rank (p : Point) : ℕ ×ₗ ℕ :=
  toLex (p.row, p.column)

/-- A character moves a point forward. -/
theorem rank_lt_next (p : Point) (c : Char) : p.rank < (p.next c).rank := by
  rw [next]
  split
  · exact Prod.Lex.toLex_lt_toLex.mpr (.inl (Nat.lt_succ_self p.row))
  · exact Prod.Lex.toLex_lt_toLex.mpr (.inr ⟨rfl, Nat.lt_add_of_pos_right c.utf8Size_pos⟩)

/-- A text does not move a point back. -/
theorem rank_le_advance (p : Point) (cs : List Char) : p.rank ≤ (p.advance cs).rank := by
  induction cs generalizing p with
  | nil => exact le_refl p.rank
  | cons c cs ih => exact (p.rank_lt_next c).le.trans (ih (p.next c))

/-- A text that is not empty moves a point forward. -/
theorem rank_lt_advance (p : Point) {cs : List Char} (hne : cs ≠ []) :
    p.rank < (p.advance cs).rank := by
  cases cs with
  | nil => exact absurd rfl hne
  | cons c cs => exact (p.rank_lt_next c).trans_le ((p.next c).rank_le_advance cs)

end Php.Point

/-! ## Positions of tokens -/

/-- The position of a token: its line and its column. -/
def Token.position (t : Token) : ℕ ×ₗ ℕ :=
  toLex (t.line, t.column)

/-- A token behind more text has a later position. -/
theorem Token.position_lt {s t : Token} {before text : String} (hs : s.StandsBehind before)
    (ht : t.StandsBehind (before ++ text)) (htext : text ≠ "") : s.position < t.position := by
  have hne : text.toList ≠ [] := fun h => htext (String.toList_eq_nil_iff.mp h)
  have hpoint := (Php.Point.behind before.toList).rank_lt_advance hne
  rw [Php.Point.advance_behind, ← String.toList_append] at hpoint
  rw [Php.Point.rank, Php.Point.rank, Prod.Lex.toLex_lt_toLex] at hpoint
  rw [position, position, Prod.Lex.toLex_lt_toLex, hs.line, hs.column, ht.line, ht.column]
  simpa only [Php.Point.behind, Nat.add_lt_add_iff_left, Nat.add_left_cancel_iff] using hpoint

/-- The text of tokens is that of the tokens before one of them, its own, and that of the others. -/
theorem textOf_eq_of_getElem? {tokens : List Token} {i : Nat} {t : Token}
    (h : tokens[i]? = some t) :
    textOf tokens = textOf (tokens.take i) ++ t.content ++ textOf (tokens.drop (i + 1)) := by
  obtain ⟨hlt, rfl⟩ := List.getElem?_eq_some_iff.mp h
  have hparts : tokens = tokens.take i ++ tokens[i] :: tokens.drop (i + 1) := by
    rw [← List.drop_eq_getElem_cons hlt, List.take_append_drop]
  conv_lhs => rw [hparts]
  simp only [textOf, List.map_append, List.map_cons, String.join_append, String.join_cons,
    String.append_assoc]

/-- A token of a text stands behind what is before its own part of the text. -/
theorem Splits.exists_standsBehind {text : String} {tokens : List Token} (h : Splits text tokens)
    {i : Nat} {t : Token} (ht : tokens[i]? = some t) :
    ∃ before after, text = before ++ t.content ++ after ∧ t.StandsBehind before :=
  ⟨textOf (tokens.take i), textOf (tokens.drop (i + 1)),
    h.contents.symm.trans (textOf_eq_of_getElem? ht), h.places i t ht⟩

/-- The positions of the tokens that make up a text ascend. -/
theorem Splits.position_lt {text : String} {tokens : List Token} (h : Splits text tokens)
    {i j : Nat} (hlt : i < j) {s t : Token} (hs : tokens[i]? = some s) (ht : tokens[j]? = some t) :
    s.position < t.position := by
  -- The text before the later token ends behind the earlier one, which is not empty.
  have hfront : (tokens.take j)[i]? = some s := by rw [List.getElem?_take_of_lt hlt, hs]
  have hplace := h.places j t ht
  rw [textOf_eq_of_getElem? hfront, List.take_take, min_eq_left hlt.le,
    String.append_assoc] at hplace
  have hcontent := h.nonempty s (List.mem_of_getElem? hs)
  apply Token.position_lt (h.places i s hs) hplace
  intro hempty
  exact hcontent (String.append_eq_empty_iff.mp hempty).1

/-! ## Findings at tokens -/

namespace Finding

/-- A finding in a file stands at the token with an index: it has the place of the token, and its
text is that of the token. -/
def StandsAt (f : Finding) (file : String) (tokens : Tokens) (index : Nat) : Prop :=
  ∃ t, tokens[index]? = some t ∧ f.location = .ofToken file t index ∧ f.matched = t.content

/-- A finding points at its text in a source with these tokens: the bytes from its offset on are its
text, as many as its length says, its index is that of the token there, which has this text, and its
line and its column are those of its offset: the line feeds before it and the bytes behind the last
of them, counted from one. -/
structure PointsAt (f : Finding) (source : String) (tokens : Tokens) : Prop where
  bytes : source.toByteArray.extract f.location.offset (f.location.offset + f.location.length) =
    f.matched.toByteArray
  token : ∃ t, tokens[f.location.token]? = some t ∧ t.offset = f.location.offset ∧
    t.content = f.matched
  place : ∃ before after, source = before ++ f.matched ++ after ∧
    f.location.offset = before.utf8ByteSize ∧
    f.location.line = 1 + before.toList.count '\n' ∧
    f.location.column = 1 + byteLength (before.toList.rtakeWhile (· ≠ '\n'))

namespace StandsAt

variable {f g : Finding} {file : String} {tokens : Tokens}

/-- A finding at a token of a source points at its text. -/
theorem pointsAt {index : Nat} (h : f.StandsAt file tokens index) {source : String}
    (hsplits : Splits source tokens.toList) : f.PointsAt source tokens := by
  obtain ⟨t, htoken, hlocation, hmatched⟩ := h
  obtain ⟨before, after, rfl, hplace⟩ := hsplits.exists_standsBehind
    (Array.getElem?_toList.trans htoken)
  have hend : t.offset + t.content.utf8ByteSize = (before ++ t.content).utf8ByteSize := by
    rw [hplace.offset, String.utf8ByteSize_append]
  constructor
  · rw [hlocation, hmatched, Location.ofToken, hend, hplace.offset]
    exact Text.extract_toByteArray_append before t.content after
  · rw [hlocation, hmatched]
    exact ⟨t, htoken, rfl, rfl⟩
  · rw [hlocation, hmatched]
    exact ⟨before, after, rfl, hplace.offset, hplace.line, hplace.column⟩

/-- The position of a finding at a token is that of the token, in its file. -/
theorem position_eq {index : Nat} (h : f.StandsAt file tokens index) :
    ∃ t, tokens[index]? = some t ∧ f.position = toLex (Path.key file, t.position) := by
  obtain ⟨t, htoken, hlocation, -⟩ := h
  exact ⟨t, htoken, by rw [position, hlocation]; rfl⟩

/-- Findings at one token may come in any order. -/
theorem precedes_of_eq {index : Nat} (hf : f.StandsAt file tokens index)
    (hg : g.StandsAt file tokens index) : f.precedes g = true := by
  obtain ⟨s, hs, hfPosition⟩ := hf.position_eq
  obtain ⟨t, ht, hgPosition⟩ := hg.position_eq
  obtain rfl : s = t := Option.some.inj (hs.symm.trans ht)
  rw [precedes_iff, hfPosition, hgPosition]

/-- A finding at an earlier token comes first. -/
theorem precedes_of_lt {text : String} (hsplits : Splits text tokens.toList) {i j : Nat}
    (hlt : i < j) (hf : f.StandsAt file tokens i) (hg : g.StandsAt file tokens j) :
    f.precedes g = true := by
  obtain ⟨s, hs, hfPosition⟩ := hf.position_eq
  obtain ⟨t, ht, hgPosition⟩ := hg.position_eq
  rw [← Array.getElem?_toList] at hs ht
  rw [precedes_iff, hfPosition, hgPosition, Prod.Lex.toLex_le_toLex]
  exact .inr ⟨rfl, (hsplits.position_lt hlt hs ht).le⟩

end StandsAt

end Finding

/-- A rule reports all that it finds at the token that it is shown. -/
def Rule.ReportsAtToken (r : Rule) : Prop :=
  ∀ file tokens index, ∀ f ∈ r.inspect file tokens index, f.StandsAt file tokens index

/-- A guard reports at the token that it is shown. -/
theorem Guard.reportsAtToken_rule (g : Guard) : g.rule.ReportsAtToken := by
  intro file tokens index f hf
  obtain ⟨token, htoken, -, group, -, -, -, rfl⟩ := (g.mem_inspect_iff file tokens index f).mp hf
  exact ⟨token, htoken, rfl, rfl⟩

/-! ## Findings of a scan -/

namespace Analyzer

variable {a : Analyzer}

/-- The settings do not move a finding. -/
theorem standsAt_adjust {f : Finding} {file : String} {tokens : Tokens} {index : Nat}
    (h : f.StandsAt file tokens index) : (a.adjust f).StandsAt file tokens index := by
  rw [adjust_eq]
  exact h

/-- What rules that report at the token find at a token stands there. -/
theorem standsAt_of_mem_inspectAt (hrules : ∀ r ∈ a.rules, r.ReportsAtToken) {file : String}
    {tokens : Tokens} {index : Nat} {f : Finding} (h : f ∈ a.inspectAt file tokens index) :
    f.StandsAt file tokens index := by
  obtain ⟨r, hr, hf⟩ := exists_of_mem_inspectAt h
  exact hrules r hr file tokens index f hf

/-- The findings of a scan point at their text. -/
theorem pointsAt_of_mem_scan (hrules : ∀ r ∈ a.rules, r.ReportsAtToken) {source : String}
    {tokens : Tokens} (hsplits : Splits source tokens.toList) {file : String} {f : Finding}
    (h : f ∈ a.scan file tokens) : f.PointsAt source tokens := by
  obtain ⟨index, g, hg, rfl⟩ := exists_of_mem_scan h
  exact (standsAt_adjust (standsAt_of_mem_inspectAt hrules hg)).pointsAt hsplits

/-- The findings of a scan are in order. -/
theorem pairwise_scan (hrules : ∀ r ∈ a.rules, r.ReportsAtToken) {source : String}
    {tokens : Tokens} (hsplits : Splits source tokens.toList) (file : String) :
    (a.scan file tokens).Pairwise fun f g => f.precedes g = true := by
  -- Findings at one token have one position; those at two tokens are ordered as the tokens are.
  rw [scan_eq_map_adjust, List.pairwise_map, List.pairwise_flatMap]
  constructor
  · intro index _
    apply List.pairwise_of_forall_mem_list
    intro f hf g hg
    exact (standsAt_adjust (standsAt_of_mem_inspectAt hrules hf)).precedes_of_eq
      (standsAt_adjust (standsAt_of_mem_inspectAt hrules hg))
  · apply List.pairwise_lt_range.imp
    intro i j hlt f hf g hg
    exact (standsAt_adjust (standsAt_of_mem_inspectAt hrules hf)).precedes_of_lt hsplits hlt
      (standsAt_adjust (standsAt_of_mem_inspectAt hrules hg))

end Analyzer

/-! ## Findings in a source -/

/-- A tokenizer cuts at leaves: whenever it splits a source, the tokens are those of leaves that lie
in the source. -/
def Tokenizer.CutsAtLeaves (tokenizer : Tokenizer) : Prop :=
  ∀ source tokens, tokenizer.tokenize source = .ok tokens →
    ∃ leaves : List Php.Leaf, (∀ l ∈ leaves, l.LiesIn source) ∧
      tokens = (Php.tokensOfLeaves source leaves).toArray

/-- The tokens of such a tokenizer make up the source. -/
theorem Tokenizer.CutsAtLeaves.splits {tokenizer : Tokenizer} (h : tokenizer.CutsAtLeaves)
    {source : String} {tokens : Tokens} (htokens : tokenizer.tokenize source = .ok tokens) :
    Splits source tokens.toList := by
  obtain ⟨leaves, hleaves, rfl⟩ := h source tokens htokens
  exact Php.splits_tokensOfLeaves hleaves

/-- The tokenizer for PHP cuts at leaves. -/
theorem Php.cutsAtLeaves_tokenizer : Php.tokenizer.CutsAtLeaves := by
  intro source tokens htokens
  obtain rfl : Php.tokens source = tokens := Except.ok.inj htokens
  exact ⟨leaves source.toList, fun l hl => liesIn_of_mem_leaves hl, rfl⟩

namespace Analyzer

/-- Let the rules of an analyzer report at the token that they are shown, as a guard does, and let
its tokenizer cut at leaves, whatever leaves it takes, as the tokenizer for PHP does.  Then the
findings in any source that can be split are those of the scan of its tokens, since sorting changes
nothing, and each of them points at its own text. -/
theorem analyzeSource_points_at_text :
    Php.tokenizer.CutsAtLeaves ∧
      ∀ (a : Analyzer), (∀ r ∈ a.rules, r.ReportsAtToken) → a.tokenizer.CutsAtLeaves →
        ∀ (base : List Path.Component) (path source : String) (tokens : Tokens),
          a.tokenizer.tokenize source = .ok tokens →
          a.analyzeSource base path source = .ok (a.scan (Path.relativeTo base path) tokens) ∧
            ∀ f ∈ a.scan (Path.relativeTo base path) tokens, f.PointsAt source tokens := by
  refine ⟨Php.cutsAtLeaves_tokenizer, fun a hrules hcuts base path source tokens htokens => ?_⟩
  have hsplits := hcuts.splits htokens
  constructor
  · exact analyzeSource_eq htokens rfl (pairwise_scan hrules hsplits _)
  · intro f hf
    exact pointsAt_of_mem_scan hrules hsplits hf

/-- An analyzer of PHP that looks for code that is run from a text. -/
def evalAnalyzer : Analyzer :=
  let guard := Guard.buildWithin (Group.withinLimit 1000)
    [.group (.ofTexts "code" .error "%s() runs code" ["eval"] [] none)]
  { folder := "/"
    root := "/"
    rules := [guard.rule]
    listeners := .ofRules [guard.rule]
    tokenizer := Php.tokenizer
    excludes := []
    extensions := [".php"]
    settings := .default
    strict := false }

/-- A source in which characters of two bytes and a text over two lines stand before two calls. -/
def evalSource : String :=
  "é<?php\n'ü\n' . eval(1) . Eval(2);"

/-- A call in the source, as it is reported. -/
def evalCall (name : String) (column offset token : Nat) : Finding :=
  ⟨Guard.ruleName, "code", .error, ⟨"a.php", 3, column, offset, 4, token⟩, name ++ "() runs code",
    name, none⟩

/-- The two calls are reported where they stand. -/
theorem analyzeSource_points_at_text_eval :
    (∀ r ∈ evalAnalyzer.rules, r.ReportsAtToken) ∧ evalAnalyzer.tokenizer.CutsAtLeaves ∧
      evalAnalyzer.analyzeSource [] "a.php" evalSource =
        .ok [evalCall "eval" 5 16 7, evalCall "Eval" 15 26 14] ∧
      (evalCall "Eval" 15 26 14).PointsAt evalSource (Php.tokens evalSource) := by
  have hrules : ∀ r ∈ evalAnalyzer.rules, r.ReportsAtToken := by
    intro r hr
    rw [List.mem_singleton.mp hr]
    exact Guard.reportsAtToken_rule _
  have hcuts : evalAnalyzer.tokenizer.CutsAtLeaves := analyzeSource_points_at_text.1
  have hscan : evalAnalyzer.scan (Path.relativeTo [] "a.php") (Php.tokens evalSource) =
      [evalCall "eval" 5 16 7, evalCall "Eval" 15 26 14] := by decide +kernel
  obtain ⟨hreport, hpoints⟩ := analyzeSource_points_at_text.2 evalAnalyzer hrules hcuts [] "a.php"
    evalSource _ rfl
  refine ⟨hrules, hcuts, ?_, ?_⟩
  · rw [hreport]
    exact congrArg Except.ok hscan
  · apply hpoints
    rw [hscan]
    simp

end Analyzer

end CallGuard
