import CallGuard.Proofs.NamePattern.Segments
import CallGuard.Proofs.Regex.Grammar

/-!
# Reading the written form of patterns

The written form of a list of patterns is a regular expression whose shape does not depend on the
characters of the patterns: a word boundary, a group with one branch for each pattern, and a word
boundary.  A branch holds the segments of its pattern as literal characters, and any characters
between two segments.

The signs of an escaped text are found without looking at what follows it, so the signs of the whole
text are those of its parts, and the machine takes them branch by branch.

Main results:

- Theorem {lit}`scan_escape`: an escaped text is read as literal characters.
- Theorem {lit}`scan_joinSegments`: the signs of the written form of one pattern.
- Theorem {lit}`State.run_branchSigns`, {lit}`State.run_alternatives`: what the machine does with
  them.
- Theorem {lit}`parse_alternation`: the written form is read as that shape.
- Theorem {lit}`alternation_read_back`: the same, and the written form determines the segments of
  every pattern.
-/

namespace CallGuard.Regex

/-! ## The shape of a branch -/

/-- Any characters but line feeds. -/
def anything : Node := .repeated .any true .dot

/-- The branch of a pattern: its segments as literal characters, with any characters between two of
them. -/
def branch (segs : List (List Char)) : List Node :=
  List.intercalate [anything] (segs.map (·.map Node.literal))

/-- A branch of several segments starts with the first of them and any characters. -/
theorem branch_cons_cons (seg next : List Char) (segs : List (List Char)) :
    branch (seg :: next :: segs) =
      seg.map Node.literal ++ anything :: branch (next :: segs) := by
  simp [branch, List.intercalate_cons_cons]

/-- The segments that a branch was made of. -/
def segmentsOf : List Node → List (List Char)
  | [] => [[]]
  | .literal c :: rest => consSegment c (segmentsOf rest)
  | _ :: rest => [] :: segmentsOf rest

/-- Literal characters in front of a branch belong to its first segment. -/
theorem segmentsOf_literals (seg : List Char) (rest : List Node) {first : List Char}
    {segs : List (List Char)} (h : segmentsOf rest = first :: segs) :
    segmentsOf (seg.map Node.literal ++ rest) = (seg ++ first) :: segs := by
  induction seg with
  | nil => exact h
  | cons c seg ih =>
    rw [List.map_cons, List.cons_append, segmentsOf, ih]
    rfl

/-- A branch determines its segments. -/
theorem segmentsOf_branch {segs : List (List Char)} (hne : segs ≠ []) :
    segmentsOf (branch segs) = segs := by
  induction segs with
  | nil => exact absurd rfl hne
  | cons seg segs ih =>
    cases segs with
    | nil => simpa [branch] using segmentsOf_literals seg [] rfl
    | cons next segs =>
      have hrest : segmentsOf (anything :: branch (next :: segs)) = [] :: next :: segs := by
        rw [anything, segmentsOf, ih (by simp)]
        simp
      rw [branch_cons_cons, segmentsOf_literals seg _ hrest, List.append_nil]

/-! ## Signs -/

/-- The signs of literal characters. -/
def literalSigns (text : List Char) : List Sign :=
  (text.map Node.literal).map Sign.leaf

/-- The signs of a branch. -/
def branchSigns (segs : List (List Char)) : List Sign :=
  List.intercalate [.leaf .dot, .times .any] (segs.map literalSigns)

/-- The signs of a branch of several segments start with those of the first segment. -/
theorem branchSigns_cons_cons (seg next : List Char) (segs : List (List Char)) :
    branchSigns (seg :: next :: segs) =
      literalSigns seg ++ .leaf .dot :: .times .any :: branchSigns (next :: segs) := by
  simp [branchSigns, List.intercalate_cons_cons]

/-- A character without a meaning of its own is read as itself. -/
theorem scan_cons_of_not_meta {c : Char} (h : metaCharacters.contains c = false)
    (rest : List Char) : scan (c :: rest) = (scan rest).map (.leaf (.literal c) :: ·) := by
  have hsign : sign? c = some (.leaf (.literal c)) := by
    unfold sign?
    split
    all_goals first | rfl | simp [metaCharacters] at h
  rw [scan, hsign, Option.bind_some]
  · rintro d tail rfl
    simp [metaCharacters] at h
  · rintro tail rfl
    simp [metaCharacters] at h

/-- A character with a meaning of its own is read as itself behind a backslash. -/
theorem scan_backslash_cons_of_meta {c : Char} (h : metaCharacters.contains c = true)
    (rest : List Char) :
    scan ('\\' :: c :: rest) = (scan rest).map (.leaf (.literal c) :: ·) := by
  have hb : c ≠ 'b' := by
    rintro rfl
    simp [metaCharacters] at h
  have hB : c ≠ 'B' := by
    rintro rfl
    simp [metaCharacters] at h
  have hescaped : escaped? c = some (.leaf (.literal c)) := by
    rw [escaped?, if_neg hb, if_neg hB, if_pos h]
  rw [scan, hescaped, Option.bind_some]

/-- An escaped text is read as literal characters, whatever follows it. -/
theorem scan_escape (text rest : List Char) :
    scan (escape text ++ rest) = (scan rest).map (literalSigns text ++ ·) := by
  induction text with
  | nil => simp [escape, literalSigns]
  | cons c text ih =>
    rw [escape]
    split
    · rename_i hmeta
      rw [List.cons_append, List.cons_append, scan_backslash_cons_of_meta hmeta, ih, Option.map_map]
      rfl
    · rename_i hmeta
      have hmeta : metaCharacters.contains c = false := by simpa using hmeta
      rw [List.cons_append, scan_cons_of_not_meta hmeta, ih, Option.map_map]
      rfl

/-- The text between two segments is a dot and its repetition, whatever follows it. -/
theorem scan_dot_star (rest : List Char) :
    scan ('.' :: '*' :: rest) = (scan rest).map (.leaf .dot :: .times .any :: ·) := by
  rw [scan, scan]
  · simp [sign?, Option.map_map, Function.comp_def]
  all_goals simp

/-- The bar between two patterns is a bar, whatever follows it. -/
theorem scan_bar (rest : List Char) : scan ('|' :: rest) = (scan rest).map (.bar :: ·) := by
  rw [scan]
  · rfl
  all_goals simp

/-- The written form of a pattern is read as the signs of its branch, whatever follows it. -/
theorem scan_joinSegments {segs : List (List Char)} (hne : segs ≠ []) (rest : List Char) :
    scan (joinSegments segs ++ rest) = (scan rest).map (branchSigns segs ++ ·) := by
  induction segs with
  | nil => exact absurd rfl hne
  | cons seg segs ih =>
    cases segs with
    | nil => simpa [joinSegments, branchSigns] using scan_escape seg rest
    | cons next segs =>
      have hjoin : joinSegments (seg :: next :: segs) ++ rest =
          escape seg ++ ('.' :: '*' :: (joinSegments (next :: segs) ++ rest)) := by
        simp [joinSegments, List.intercalate_cons_cons]
      rw [hjoin, scan_escape, scan_dot_star, ih (by simp), branchSigns_cons_cons, Option.map_map,
        Option.map_map]
      simp [Function.comp_def]

/-- The written forms of patterns with bars between them are read as the signs of their branches with
bars between them, whatever follows. -/
theorem scan_alternatives {alternatives : List (List (List Char))} (hne : alternatives ≠ [])
    (hsegs : ∀ segs ∈ alternatives, segs ≠ []) (rest : List Char) :
    scan (List.intercalate ['|'] (alternatives.map joinSegments) ++ rest) =
      (scan rest).map (List.intercalate [.bar] (alternatives.map branchSigns) ++ ·) := by
  induction alternatives with
  | nil => exact absurd rfl hne
  | cons segs others ih =>
    have hfirst : segs ≠ [] := hsegs segs (by simp)
    cases others with
    | nil => simpa using scan_joinSegments hfirst rest
    | cons next others =>
      have hrest := ih (by simp) fun s hs => hsegs s (List.mem_cons_of_mem segs hs)
      simp only [List.map_cons, List.intercalate_cons_cons, List.append_assoc, List.cons_append,
        List.nil_append] at hrest ⊢
      rw [scan_joinSegments hfirst, scan_bar, hrest, Option.map_map, Option.map_map]
      simp [Function.comp_def]

/-! ## Running the machine -/

namespace State

/-- The signs of a branch add the branch to the unfinished one. -/
theorem run_branchSigns (s : State) (segs : List (List Char)) :
    s.run (branchSigns segs) = some { s with current := s.current ++ branch segs } := by
  induction segs generalizing s with
  | nil => simp [branchSigns, branch]
  | cons seg segs ih =>
    cases segs with
    | nil =>
      rw [branchSigns, branch, List.map_singleton, List.map_singleton, List.intercalate_singleton,
        List.intercalate_singleton, literalSigns, run_leaves]
    | cons next segs =>
      rw [branchSigns_cons_cons, run_append, literalSigns, run_leaves, Option.bind_some, run_cons,
        step, Option.bind_some, run_cons, step, repeatLast_append, Option.map_some,
        Option.bind_some, ih, branch_cons_cons]
      simp [Node.times, anything]

/-- The signs of branches with bars between them complete the branches one after the other. -/
theorem run_alternatives {alternatives : List (List (List Char))} (hne : alternatives ≠ [])
    (s : State) (hcurrent : s.current = []) :
    ∃ t, s.run (List.intercalate [.bar] (alternatives.map branchSigns)) = some t ∧
      t.outer = s.outer ∧ t.allBranches = s.branches ++ alternatives.map branch := by
  induction alternatives generalizing s with
  | nil => exact absurd rfl hne
  | cons segs others ih =>
    cases others with
    | nil =>
      refine ⟨{ s with current := branch segs }, ?_, rfl, rfl⟩
      simp [run_branchSigns, hcurrent]
    | cons next others =>
      obtain ⟨t, hrun, houter, hbranches⟩ :=
        ih (by simp) ⟨s.outer, s.branches ++ [branch segs], []⟩ rfl
      refine ⟨t, ?_, houter, ?_⟩
      · rw [List.map_cons, List.map_cons, List.intercalate_cons_cons, List.append_assoc, run_append,
          run_branchSigns, Option.bind_some, List.singleton_append, run_cons, step, Option.bind_some,
          hcurrent]
        exact hrun
      · rw [hbranches]
        simp

end State

/-! ## The written form of patterns -/

/-- The shape of the written form of patterns: a word boundary, a group with a branch for each
pattern, and a word boundary. -/
def shape (patterns : List NamePattern) : List (List Node) :=
  [[.boundary, .group false (patterns.map fun p => branch p.segments), .boundary]]

/-- The signs of the written form of patterns. -/
theorem scan_alternation {patterns : List NamePattern} (hne : patterns ≠ []) :
    scan (alternation patterns).toList =
      some ([.leaf .boundary, .opening false] ++
        List.intercalate [.bar] ((patterns.map (·.segments)).map branchSigns) ++
        [.closing, .leaf .boundary]) := by
  have hsegs : ∀ segs ∈ patterns.map (·.segments), segs ≠ [] := by
    intro segs hmem
    obtain ⟨p, -, rfl⟩ := List.mem_map.mp hmem
    exact segments_ne_nil p.text.toList
  have hstart : ∀ rest, scan ('\\' :: 'b' :: '(' :: '?' :: ':' :: rest) =
      (scan rest).map (.leaf .boundary :: .opening false :: ·) := by
    intro rest
    rw [scan, scan]
    simp [escaped?, Option.map_map, Function.comp_def]
  have hstop : scan [')', '\\', 'b'] = some [.closing, .leaf .boundary] := rfl
  have hnonempty : patterns.map (·.segments) ≠ [] := by simpa using hne
  have hinner := scan_alternatives hnonempty hsegs [')', '\\', 'b']
  rw [List.map_map, Function.comp_def] at hinner
  rw [toList_alternation]
  simp only [List.cons_append, List.nil_append]
  rw [hstart, hinner, hstop]
  simp

/-- The written form of patterns is read as its shape. -/
theorem parse_alternation {patterns : List NamePattern} (hne : patterns ≠ []) :
    parse (alternation patterns) = some (shape patterns) := by
  have hnonempty : patterns.map (·.segments) ≠ [] := by simpa using hne
  obtain ⟨t, hrun, houter, hbranches⟩ := State.run_alternatives hnonempty
    ⟨[⟨false, [], [.boundary]⟩], [], []⟩ rfl
  have hgroup : t.allBranches = patterns.map fun p => branch p.segments := by
    rw [hbranches, List.map_map]
    rfl
  have hopen : State.initial.run [.leaf .boundary, .opening false] =
      some ⟨[⟨false, [], [.boundary]⟩], [], []⟩ := rfl
  rw [parse, scan_alternation hne, Option.bind_some, List.append_assoc, State.run_append, hopen,
    Option.bind_some, State.run_append, hrun, Option.bind_some, State.run_cons, State.step, houter,
    hgroup]
  rfl

/-- The shape of the written form determines the segments of the patterns. -/
theorem map_segments_eq_of_shape_eq {patterns others : List NamePattern}
    (h : shape others = shape patterns) :
    others.map (·.segments) = patterns.map (·.segments) := by
  have hback : ∀ ps : List NamePattern,
      (ps.map fun p => branch p.segments).map segmentsOf = ps.map (·.segments) := by
    intro ps
    rw [List.map_map]
    apply List.map_congr_left
    intro p _
    exact segmentsOf_branch (segments_ne_nil p.text.toList)
  simp only [shape, List.cons.injEq, Node.group.injEq, and_true, true_and] at h
  rw [← hback others, h, hback patterns]

/-- The segments of the patterns determine the written form. -/
theorem alternation_eq_of_map_segments_eq {patterns others : List NamePattern}
    (h : others.map (·.segments) = patterns.map (·.segments)) :
    alternation others = alternation patterns := by
  have hparts : ∀ ps : List NamePattern, (ps.map fun p => joinSegments p.segments) =
      (ps.map (·.segments)).map joinSegments := by
    intro ps
    rw [List.map_map]
    rfl
  rw [← String.toList_inj, toList_alternation, toList_alternation, hparts, hparts, h]

/-- The written form of patterns, whatever characters they hold, is read as a word boundary, one
group with a branch for each pattern in order, and a word boundary, where a branch holds the segments
of its pattern as literal characters with any characters between them.  Two lists of patterns have
the same written form exactly if they have the same segments. -/
theorem alternation_read_back (patterns : List NamePattern) (hne : patterns ≠ []) :
    parse (alternation patterns) =
        some [[.boundary, .group false (patterns.map fun p => branch p.segments), .boundary]] ∧
      ∀ others : List NamePattern, others ≠ [] →
        (alternation others = alternation patterns ↔
          others.map (·.segments) = patterns.map (·.segments)) := by
  refine ⟨parse_alternation hne, ?_⟩
  intro others hothers
  constructor
  · intro htext
    have hshape : some (shape others) = some (shape patterns) := by
      rw [← parse_alternation hothers, htext, parse_alternation hne]
    exact map_segments_eq_of_shape_eq (Option.some.inj hshape)
  · exact alternation_eq_of_map_segments_eq

/-- Patterns full of characters with a meaning of their own, where the last one may have a dot before
its star. -/
def hostilePatterns (last : String) (hne : last ≠ "") : List NamePattern :=
  [⟨"a|b)", by decide⟩, ⟨"..*?{2}", by decide⟩, ⟨last, hne⟩]

/-- The written form of patterns full of characters with a meaning of their own, which does not show
a dot before a star. -/
theorem alternation_read_back_hostile :
    hostilePatterns "[*" (by decide) ≠ [] ∧ hostilePatterns "[.*" (by decide) ≠ [] ∧
      parse (alternation (hostilePatterns "[*" (by decide))) =
        some [[.boundary,
          .group false
            [[.literal 'a', .literal '|', .literal 'b', .literal ')'],
              [.literal '.', anything, .literal '?', .literal '{', .literal '2', .literal '}'],
              [.literal '[', anything]],
          .boundary]] ∧
      alternation (hostilePatterns "[.*" (by decide)) =
        alternation (hostilePatterns "[*" (by decide)) := by
  have hread := alternation_read_back (hostilePatterns "[*" (by decide)) (by simp [hostilePatterns])
  have hne : hostilePatterns "[.*" (by decide) ≠ [] := by simp [hostilePatterns]
  exact ⟨by simp [hostilePatterns], hne, hread.1, (hread.2 _ hne).mpr rfl⟩

end CallGuard.Regex
