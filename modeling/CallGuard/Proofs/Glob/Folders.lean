import CallGuard.Proofs.Glob.Reach

/-!
# Patterns for folders

A pattern that asks for a folder of some name excludes an absolute path in two ways: as a glob, and as
a text that stands somewhere in the path.  Both come to the same.  What stands between two slashes is a
piece of the path other than the first, which is empty, and the last.  So the pattern excludes exactly
what lies in such a folder, at any depth.

Main results:

- Theorem {lit}`Text.occursIn_iff_infix`: when a text is part of another one.
- Theorem {lit}`Text.infix_iff_mem_cut`: a text between two separators is a piece between two others.
- Theorem {lit}`excludesAsText_folderPattern_iff`, {lit}`excludesAsGlob_folderPattern_iff`: what a
  pattern for a folder excludes as a text and as a glob.
- Theorem {lit}`excludesAsGlob_eq_excludesAsText`: for absolute paths this is the same.
- Theorem {lit}`folder_pattern_excludes_what_lies_inside`: what it excludes.
-/

namespace CallGuard

open Text

/-! ## Texts between separators -/

/-- A text is part of another one if it stands somewhere in it. -/
theorem Text.occursIn_iff_infix (part text : List Char) :
    occursIn part text = true ↔ part <:+: text := by
  induction text with
  | nil => simp [occursIn]
  | cons c text ih => simp [occursIn, ih, List.infix_cons_iff]

/-- All members but the last are those with another one behind them. -/
theorem mem_dropLast_iff {α : Type} {x : α} {xs : List α} :
    x ∈ xs.dropLast ↔ ∃ front behind, xs = front ++ x :: behind ∧ behind ≠ [] := by
  constructor
  · intro hx
    have hne : xs ≠ [] := by
      rintro rfl
      cases hx
    obtain ⟨front, behind, hparts⟩ := List.mem_iff_append.mp hx
    refine ⟨front, behind ++ [xs.getLast hne], ?_, by simp⟩
    conv_lhs => rw [← List.dropLast_append_getLast hne, hparts]
    simp
  · rintro ⟨front, behind, rfl, hbehind⟩
    simp [List.dropLast_cons_of_ne_nil hbehind]

/-- A text without separators stands between two of them if and only if it is a piece other than the
first and the last. -/
theorem Text.infix_iff_mem_cut {α : Type} [DecidableEq α] {sep : α} {name : List α}
    (hname : sep ∉ name) (text : List α) :
    sep :: (name ++ [sep]) <:+: text ↔ name ∈ (cut sep text).tail.dropLast := by
  constructor
  · rintro ⟨front, behind, rfl⟩
    have htext : front ++ sep :: (name ++ [sep]) ++ behind =
        front ++ sep :: (name ++ sep :: behind) := by simp
    obtain ⟨first, pieces, hfront⟩ := List.exists_cons_of_ne_nil (cut_ne_nil sep front)
    rw [htext, cut_append, cut_append, cut_of_notMem hname, hfront]
    exact mem_dropLast_iff.mpr ⟨pieces, cut sep behind, rfl, cut_ne_nil sep behind⟩
  · intro hpiece
    obtain ⟨first, pieces, hcut⟩ := List.exists_cons_of_ne_nil (cut_ne_nil sep text)
    rw [hcut, List.tail_cons, mem_dropLast_iff] at hpiece
    obtain ⟨front, behind, rfl, hbehind⟩ := hpiece
    have hpieces : ∀ piece ∈ first :: front ++ name :: behind, sep ∉ piece := by
      intro piece hmem
      rw [List.cons_append, ← hcut] at hmem
      exact notMem_of_mem_cut hmem
    have hbefore : cut sep (List.intercalate [sep] (first :: front)) = first :: front :=
      cut_intercalate (by simp) fun piece hmem => hpieces piece (List.mem_append_left _ hmem)
    have hafter : cut sep (List.intercalate [sep] behind) = behind :=
      cut_intercalate hbehind fun piece hmem => hpieces piece (by simp [hmem])
    refine ⟨List.intercalate [sep] (first :: front), List.intercalate [sep] behind, ?_⟩
    -- A text is determined by its pieces.
    rw [← intercalate_cut sep text, hcut, List.append_assoc, List.cons_append, List.append_assoc,
      List.singleton_append, ← intercalate_cut sep (List.intercalate [sep] (first :: front) ++ _),
      cut_append, cut_append, cut_of_notMem hname, hbefore, hafter]
    rfl

/-- A slash and a text behind it stand in another text if what follows one of its slashes starts with
the text. -/
theorem Text.infix_slash_cons_iff (part text : List Char) :
    '/' :: part <:+: text ↔ ∃ tail ∈ endsBehind Glob.isSlash text, part <+: tail := by
  induction text with
  | nil => simp [endsBehind]
  | cons c text ih =>
    rw [List.infix_cons_iff, ih, List.cons_prefix_cons]
    by_cases hslash : c = '/'
    · simp [endsBehind, Glob.isSlash, hslash]
    · simp [endsBehind, Glob.isSlash, hslash, Ne.symm hslash]

/-! ## The two ways to exclude -/

/-- As a text, a pattern for a folder excludes the paths that have the name between two slashes. -/
theorem excludesAsText_folderPattern_iff {name : String}
    (hplain : ∀ c ∈ name.toList, c ≠ '*' ∧ c ≠ '?' ∧ c ≠ '[') (path : String) :
    excludesAsText (folderPattern name) path = true ↔
      '/' :: (name.toList ++ ['/']) <:+: path.toList := by
  simp [excludesAsText, dropDoubleStars_folderPattern hplain, occursIn_iff_infix]

/-- As a glob, it also excludes the paths that start with the name and a slash. -/
theorem excludesAsGlob_folderPattern_iff {name : String}
    (hplain : ∀ c ∈ name.toList, c ≠ '*' ∧ c ≠ '?' ∧ c ≠ '[') (path : String) :
    excludesAsGlob (folderPattern name) path = true ↔
      name.toList ++ ['/'] <+: path.toList ∨ '/' :: (name.toList ++ ['/']) <:+: path.toList := by
  rw [excludesAsGlob, parse?_folderPattern hplain, Option.any_some, Glob.isMatch_eq, Glob.matchesFrom,
    Bool.or_eq_true, Bool.or_eq_true, List.any_eq_true, infix_slash_cons_iff]
  simp only [Glob.matchesFrom_chars_folders]
  simp

/-- An absolute path is excluded as a glob if and only if it is excluded as a text. -/
theorem excludesAsGlob_eq_excludesAsText {name : String} (hname : name ≠ "")
    (hplain : ∀ c ∈ name.toList, c ≠ '/' ∧ c ≠ '*' ∧ c ≠ '?' ∧ c ≠ '[') {path : String}
    (hpath : Path.isAbsolute path = true) :
    excludesAsGlob (folderPattern name) path = excludesAsText (folderPattern name) path := by
  have hchars : ∀ c ∈ name.toList, c ≠ '*' ∧ c ≠ '?' ∧ c ≠ '[' := fun c hc => (hplain c hc).2
  -- The path starts with a slash, and the name with another character.
  have hstart : ¬name.toList ++ ['/'] <+: path.toList := by
    intro hstart
    rw [Path.isAbsolute, decide_eq_true_eq] at hpath
    obtain ⟨rest, hrest⟩ := List.head?_eq_some_iff.mp hpath
    cases hchar : name.toList with
    | nil => exact hname (String.toList_eq_nil_iff.mp hchar)
    | cons c cs =>
      rw [hchar, hrest, List.cons_append, List.cons_prefix_cons] at hstart
      exact (hplain c (by simp [hchar])).1 hstart.1
  rw [Bool.eq_iff_iff, excludesAsGlob_folderPattern_iff hchars, or_iff_right hstart,
    excludesAsText_folderPattern_iff hchars]

/-! ## Paths with given components -/

/-- The pieces of an absolute path whose components are written one after the other. -/
theorem cut_slash_intercalate {names : List String} (hne : names ≠ [])
    (hnames : ∀ n ∈ names, '/' ∉ n.toList) :
    cut '/' ("/" ++ String.intercalate "/" names).toList = [] :: names.map String.toList := by
  have hpieces : ∀ piece ∈ names.map String.toList, '/' ∉ piece := by
    intro piece hpiece
    obtain ⟨n, hn, rfl⟩ := List.mem_map.mp hpiece
    exact hnames n hn
  have htext : ("/" ++ String.intercalate "/" names).toList =
      '/' :: List.intercalate ['/'] (names.map String.toList) := by
    rw [String.toList_append, String.toList_intercalate]
    rfl
  rw [htext, cut, if_pos rfl, cut_intercalate (by simpa using hne) hpieces]

/-- A text stands between two slashes of such a path if it is a component other than the last. -/
theorem infix_slash_intercalate_iff {name : String} (hname : '/' ∉ name.toList)
    {names : List String} (hnames : ∀ n ∈ names, '/' ∉ n.toList) :
    '/' :: (name.toList ++ ['/']) <:+: ("/" ++ String.intercalate "/" names).toList ↔
      name ∈ names.dropLast := by
  have hinjective : Function.Injective String.toList := fun _ _ => String.toList_injective
  rw [infix_iff_mem_cut hname]
  by_cases hne : names = []
  · -- Nothing stands between two slashes, as there is only one.
    subst hne
    simp [cut]
  · rw [cut_slash_intercalate hne hnames, List.tail_cons, ← List.map_dropLast,
      List.mem_map_of_injective hinjective]

/-- The components of such a path, if its pieces are proper names. -/
theorem components_slash_intercalate {names : List String}
    (hnames : ∀ n ∈ names, Path.isName n = true) :
    Path.components ("/" ++ String.intercalate "/" names) = .root :: names.map .name := by
  by_cases hne : names = []
  · subst hne
    decide +kernel
  · have hrelative := Path.isAbsolute_intercalate_names hne hnames
    have hjoin : Path.join "/" (String.intercalate "/" names) = "/" ++ String.intercalate "/" names := by
      simp [Path.join, hrelative]
    have hroot : Path.components "/" = [.root] := by decide +kernel
    rw [← hjoin, Path.components_join_names (by decide) hne hnames, hroot, List.singleton_append]

/-- Let the only pattern of excluded paths ask for a folder of some name, which has no slash and none
of the characters with a meaning in patterns.  An absolute path whose components are written one after
the other is excluded if and only if a component other than the last is that name.  As a glob and as a
text, the pattern excludes the same absolute paths. -/
theorem folder_pattern_excludes_what_lies_inside (name : String) (hname : name ≠ "")
    (hplain : ∀ c ∈ name.toList, c ≠ '/' ∧ c ≠ '*' ∧ c ≠ '?' ∧ c ≠ '[') (names : List String)
    (hnames : ∀ n ∈ names, '/' ∉ n.toList) :
    (isExcluded [folderPattern name] ("/" ++ String.intercalate "/" names) = true ↔
      name ∈ names.dropLast) ∧
    ((∀ n ∈ names, Path.isName n = true) →
      (isExcluded [folderPattern name] ("/" ++ String.intercalate "/" names) = true ↔
        .name name ∈ (Path.components ("/" ++ String.intercalate "/" names)).dropLast)) ∧
    ∀ path, Path.isAbsolute path = true →
      excludesAsGlob (folderPattern name) path = excludesAsText (folderPattern name) path := by
  have hslash : '/' ∉ name.toList := fun hmem => (hplain '/' hmem).1 rfl
  have hchars : ∀ c ∈ name.toList, c ≠ '*' ∧ c ≠ '?' ∧ c ≠ '[' := fun c hc => (hplain c hc).2
  have hways : ∀ path, Path.isAbsolute path = true →
      excludesAsGlob (folderPattern name) path = excludesAsText (folderPattern name) path :=
    fun path => excludesAsGlob_eq_excludesAsText hname hplain
  have hexcluded : isExcluded [folderPattern name] ("/" ++ String.intercalate "/" names) = true ↔
      name ∈ names.dropLast := by
    have habsolute : Path.isAbsolute ("/" ++ String.intercalate "/" names) = true := by
      simp [Path.isAbsolute]
    rw [isExcluded, List.any_cons, List.any_nil, Bool.or_false, hways _ habsolute, Bool.or_self,
      excludesAsText_folderPattern_iff hchars, infix_slash_intercalate_iff hslash hnames]
  refine ⟨hexcluded, ?_, hways⟩
  intro hproper
  rw [hexcluded, components_slash_intercalate hproper]
  by_cases hne : names = []
  · simp [hne]
  · have hinjective : Function.Injective Path.Component.name := fun _ _ => Path.Component.name.inj
    rw [List.dropLast_cons_of_ne_nil (by simpa using hne), ← List.map_dropLast, List.mem_cons,
      List.mem_map_of_injective hinjective]
    simp

/-- A folder inside a folder of the name is excluded, though it has the name itself; a file of the name
in a folder whose name ends with it is not. -/
theorem folder_pattern_excludes_what_lies_inside_vendor :
    isExcluded ["**/vendor/**"] "/vendor/lib/vendor" = true ∧
      isExcluded ["**/vendor/**"] "/srv/my-vendor/vendor" = false := by
  have hplain : ∀ c ∈ "vendor".toList, c ≠ '/' ∧ c ≠ '*' ∧ c ≠ '?' ∧ c ≠ '[' := by simp
  constructor
  · exact (folder_pattern_excludes_what_lies_inside "vendor" (by decide) hplain
      ["vendor", "lib", "vendor"] (by decide)).1.mpr (by decide)
  · rw [← Bool.not_eq_true]
    exact mt (folder_pattern_excludes_what_lies_inside "vendor" (by decide) hplain
      ["srv", "my-vendor", "vendor"] (by decide)).1.mp (by decide)

end CallGuard
