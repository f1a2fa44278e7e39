import CallGuard.NamePattern.Basic

/-!
# The segments of a pattern

The written form of a pattern is made in three passes over its text, and in a shorter way if the
text has no star.  Both ways come down to the segments of the pattern: the text cut at every star,
where a cut takes one dot directly before the star.

Main results:

- Theorem {lit}`cut_dropDots`: dropping dots and cutting at stars gives the segments.
- Theorem {lit}`segments_of_not_mem`: a text without a star is one segment.
- Theorem {lit}`NamePattern.toList_expression`: the written form of every pattern is made of its
  segments.
- Theorem {lit}`toList_alternation`: the written form of a list of patterns, as characters.
-/

namespace CallGuard

/-! ## Cutting a text -/

/-- Cutting at a separator puts any other character in front of the first piece. -/
theorem cut_cons_of_ne {sep c : Char} (hne : c ≠ sep) (rest : List Char) :
    Text.cut sep (c :: rest) = consSegment c (Text.cut sep rest) := by
  rw [Text.cut, if_neg hne]
  cases Text.cut sep rest <;> rfl

/-- Cutting at a separator starts a new piece at it. -/
theorem cut_cons_self (sep : Char) (rest : List Char) :
    Text.cut sep (sep :: rest) = [] :: Text.cut sep rest := by
  rw [Text.cut, if_pos rfl]

/-- Dropping the dots before stars and cutting at the stars gives the segments. -/
theorem cut_dropDots (text : List Char) : Text.cut '*' (dropDots text) = segments text := by
  fun_induction segments text with
  | case1 => rfl
  | case2 rest ih =>
    rw [dropDots, cut_cons_self, ih]
  | case3 rest ih =>
    have hdrop : dropDots ('*' :: rest) = '*' :: dropDots rest := by
      rw [dropDots]
      simp
    rw [hdrop, cut_cons_self, ih]
  | case4 c rest hdot hstar ih =>
    have hdrop : dropDots (c :: rest) = c :: dropDots rest := by
      rw [dropDots]
      exact hdot
    rw [hdrop, cut_cons_of_ne hstar, ih]

/-! ## Segments -/

/-- Putting a character in front leaves at least one segment. -/
theorem consSegment_ne_nil (c : Char) (segs : List (List Char)) : consSegment c segs ≠ [] := by
  cases segs <;> simp [consSegment]

/-- A text has at least one segment. -/
theorem segments_ne_nil (text : List Char) : segments text ≠ [] := by
  fun_cases segments text with
  | case1 => simp
  | case2 rest => simp
  | case3 rest => simp
  | case4 c rest => exact consSegment_ne_nil c _

/-- A text without a star is one segment. -/
theorem segments_of_not_mem {text : List Char} (hstar : '*' ∉ text) : segments text = [text] := by
  fun_induction segments text with
  | case1 => rfl
  | case2 rest => simp at hstar
  | case3 rest => simp at hstar
  | case4 c rest hdot hc ih =>
    have hrest : '*' ∉ rest := fun hmem => hstar (List.mem_cons_of_mem c hmem)
    rw [ih hrest]
    rfl

/-- Only the empty text has no more than one empty segment. -/
theorem eq_nil_of_segments_eq {text : List Char} (h : segments text = [[]]) : text = [] := by
  fun_cases segments text with
  | case1 => rfl
  | case2 rest =>
    rw [segments] at h
    simp [segments_ne_nil] at h
  | case3 rest =>
    rw [segments] at h
    simp [segments_ne_nil] at h
  | case4 c rest hdot hstar =>
    rw [segments] at h
    · cases hsegs : segments rest <;> simp [hsegs, consSegment] at h
    · exact hdot
    · exact hstar

/-! ## The written form -/

/-- The written form of a pattern text joins its segments. -/
theorem toList_expression (text : String) :
    (expression text).toList = joinSegments (segments text.toList) := by
  rw [expression, String.toList_ofList, cut_dropDots]

namespace NamePattern

/-- A pattern without a star has its text as the only segment. -/
theorem segments_of_hasWildcard_eq_false {p : NamePattern} (h : p.hasWildcard = false) :
    p.segments = [p.text.toList] := by
  apply segments_of_not_mem
  simpa [hasWildcard] using h

/-- The written form of a pattern joins its segments, whether it has a star or not. -/
theorem toList_expression (p : NamePattern) : p.expression.toList = joinSegments p.segments := by
  unfold NamePattern.expression
  split
  · exact CallGuard.toList_expression p.text
  · rename_i hstar
    have hsegs := segments_of_hasWildcard_eq_false (by simpa using hstar)
    rw [String.toList_ofList, hsegs]
    simp [joinSegments]

/-- A pattern has more than one empty segment, as its text is not empty. -/
theorem segments_ne_singleton_nil (p : NamePattern) : p.segments ≠ [[]] := by
  intro h
  have htext : p.text.toList = [] := eq_nil_of_segments_eq h
  exact p.text_ne_empty (by simpa using htext)

end NamePattern

/-- The written form of a list of patterns: their written forms with bars between them, in a group
between two word boundaries. -/
theorem toList_alternation (patterns : List NamePattern) :
    (alternation patterns).toList =
      ['\\', 'b', '(', '?', ':'] ++
        List.intercalate ['|'] (patterns.map fun p => joinSegments p.segments) ++
        [')', '\\', 'b'] := by
  have hparts : (patterns.map NamePattern.expression).map String.toList =
      patterns.map fun p => joinSegments p.segments := by
    rw [List.map_map]
    apply List.map_congr_left
    intro p _
    exact p.toList_expression
  rw [alternation, String.toList_append, String.toList_append, String.toList_intercalate, hparts]
  rfl

end CallGuard
