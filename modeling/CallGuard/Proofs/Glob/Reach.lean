import CallGuard.Glob
import CallGuard.Proofs.Path.Below

/-!
# How far an exclusion reaches

Patterns that start with a double star are matched against whole paths, though they are written with
the files below a root in mind.  A path below a root is excluded if it is excluded on its own, which
has nothing to do with the root, or if a pattern matches a part of it that starts above the root.  A
pattern that asks for a folder of some name reaches above exactly those roots that lie in such a
folder or are one.

Main results:

- Theorem {lit}`Glob.matchesFrom_folders_append`, {lit}`Text.occursIn_append`: what is found in a text
  of two parts starts in the first or lies in the second.
- Theorem {lit}`isExcluded_join`: a path is excluded on its own, or by what reaches above the root.
- Theorem {lit}`isExcluded_join_eq_iff`: when the root makes no difference.
- Theorem {lit}`reachesAbove_folderPattern_iff`: the roots that a pattern for a folder reaches above.
-/

namespace CallGuard

open Text

/-! ## Texts of two parts -/

/-- The ends of a text of two parts start in the first or in the second. -/
theorem Text.endsBehind_append {α : Type} (p : α → Bool) (front rest : List α) :
    endsBehind p (front ++ rest) = (endsBehind p front).map (· ++ rest) ++ endsBehind p rest := by
  induction front with
  | nil => rfl
  | cons c front ih =>
    by_cases hc : p c = true
    · simp [endsBehind, hc, ih]
    · simp [endsBehind, hc, ih]

/-- The ends of a text that are not empty. -/
theorem Text.dropLast_ends_cons {α : Type} (c : α) (rest : List α) :
    (ends (c :: rest)).dropLast = (c :: rest) :: (ends rest).dropLast := by
  rw [ends]
  cases rest <;> rfl

/-- None of them is empty. -/
theorem Text.nil_notMem_dropLast_ends {α : Type} (text : List α) : [] ∉ (ends text).dropLast := by
  induction text with
  | nil => simp [ends]
  | cons c text ih => simp [dropLast_ends_cons, ih]

/-- A text is part of another one if it stands behind some of its characters. -/
theorem Text.occursIn_append (part front rest : List Char) :
    occursIn part (front ++ rest) =
      ((ends front).dropLast.any (fun tail => part.isPrefixOf (tail ++ rest)) ||
        occursIn part rest) := by
  induction front with
  | nil => rfl
  | cons c front ih =>
    rw [List.cons_append, occursIn, ih, dropLast_ends_cons, List.any_cons, List.cons_append,
      Bool.or_assoc]

/-- A text with folders in front matches a glob from the start, behind one of the slashes in the first
part, or in the second part alone. -/
theorem Glob.matchesFrom_folders_append (items : Glob) (front rest : List Char) :
    matchesFrom (.folders :: items) (front ++ '/' :: rest) =
      (matchesFrom (.folders :: items) rest ||
        (front :: endsBehind isSlash front).any fun tail =>
          matchesFrom items (tail ++ '/' :: rest)) := by
  have hends : endsBehind isSlash (front ++ '/' :: rest) =
      (endsBehind isSlash front).map (· ++ '/' :: rest) ++ rest :: endsBehind isSlash rest := by
    rw [endsBehind_append]
    rfl
  simp only [matchesFrom, hends, List.any_append, List.any_cons, List.any_map]
  ac_rfl

/-! ## Paths below a root -/

/-- A pattern starts with any number of folders. -/
def IsRecursive (pattern : String) : Prop :=
  ['*', '*', '/'] <+: pattern.toList

instance (pattern : String) : Decidable (IsRecursive pattern) :=
  inferInstanceAs (Decidable (_ <+: _))

/-- A pattern excludes a path below any root. -/
def excludesBelow (pattern path : String) : Bool :=
  excludesAsGlob pattern path || excludesAsText pattern ("/" ++ path)

/-- Some of a list of patterns excludes a path below any root. -/
def isExcludedBelow (patterns : List String) (path : String) : Bool :=
  patterns.any (excludesBelow · path)

/-- A glob that starts with any number of folders is matched by a path from above the root on. -/
def Glob.reachesAbove (glob : Glob) (root path : String) : Bool :=
  match glob with
  | .folders :: items =>
    (Path.front root :: endsBehind isSlash (Path.front root)).any fun tail =>
      matchesFrom items (tail ++ '/' :: path.toList)
  | _ => false

/-- A pattern excludes a path below a root by what starts above the root. -/
def reachesAbove (pattern root path : String) : Bool :=
  (Glob.parse? pattern).any (·.reachesAbove root path) ||
    (ends (Path.front root)).dropLast.any fun tail =>
      (dropDoubleStars pattern.toList).isPrefixOf (tail ++ '/' :: path.toList)

/-- The glob of a pattern that starts with any number of folders. -/
theorem IsRecursive.parse?_eq {pattern : String} (h : IsRecursive pattern) :
    Glob.parse? pattern = none ∨ ∃ items, Glob.parse? pattern = some (.folders :: items) := by
  obtain ⟨rest, hrest⟩ := h
  rw [Glob.parse?, ← hrest]
  change Glob.parseFrom true ('*' :: '*' :: '/' :: rest) = none ∨
    ∃ items, Glob.parseFrom true ('*' :: '*' :: '/' :: rest) = some (.folders :: items)
  rw [Glob.parseFrom, if_pos rfl]
  cases Glob.parseFrom true rest with
  | none => exact .inl rfl
  | some items => exact .inr ⟨items, rfl⟩

/-- Such a pattern matches a path below a root on its own or from above the root on. -/
theorem IsRecursive.excludesAsGlob_join {pattern root path : String} (h : IsRecursive pattern)
    (hroot : root ≠ "") (hpath : Path.isAbsolute path = false) :
    excludesAsGlob pattern (Path.join root path) =
      (excludesAsGlob pattern path || (Glob.parse? pattern).any (·.reachesAbove root path)) := by
  rw [excludesAsGlob, excludesAsGlob]
  rcases h.parse?_eq with hparse | ⟨items, hparse⟩
  · rw [hparse]
    rfl
  · rw [hparse, Option.any_some, Option.any_some, Option.any_some, Glob.isMatch_eq, Glob.isMatch_eq,
      Path.toList_join hroot hpath, Glob.matchesFrom_folders_append]
    rfl

/-- The text of such a pattern occurs in a path below a root behind the root or from above it on. -/
theorem IsRecursive.excludesAsText_join {pattern root path : String} (h : IsRecursive pattern)
    (hroot : root ≠ "") (hpath : Path.isAbsolute path = false) :
    excludesAsText pattern (Path.join root path) =
      (excludesAsText pattern ("/" ++ path) ||
        (ends (Path.front root)).dropLast.any fun tail =>
          (dropDoubleStars pattern.toList).isPrefixOf (tail ++ '/' :: path.toList)) := by
  obtain ⟨rest, hrest⟩ := h
  have hplain : (dropDoubleStars pattern.toList).isEmpty = false := by
    rw [← hrest]
    rfl
  have hslash : ("/" ++ path).toList = '/' :: path.toList := by
    rw [String.toList_append]
    rfl
  simp only [excludesAsText, hplain, Path.toList_join hroot hpath, occursIn_append, hslash,
    Bool.not_false, Bool.true_and, Bool.or_comm]

/-! ## Where the root makes no difference -/

/-- A path below a root is excluded on its own, or by a pattern that reaches above the root. -/
theorem isExcluded_join {patterns : List String} (h : ∀ pattern ∈ patterns, IsRecursive pattern)
    {root path : String} (hroot : root ≠ "") (hpath : Path.isAbsolute path = false) :
    isExcluded patterns (Path.join root path) =
      (isExcludedBelow patterns path || patterns.any (reachesAbove · root path)) := by
  induction patterns with
  | nil => rfl
  | cons pattern patterns ih =>
    have hpattern := h pattern (by simp)
    have hrest := ih fun other hother => h other (List.mem_cons_of_mem pattern hother)
    rw [isExcluded] at hrest ⊢
    rw [List.any_cons, hrest, hpattern.excludesAsGlob_join hroot hpath,
      hpattern.excludesAsText_join hroot hpath]
    simp only [isExcludedBelow, excludesBelow, reachesAbove, List.any_cons]
    ac_rfl

/-- Whatever reaches above a root excludes a path that is excluded on its own. -/
def DecidedBelow (patterns : List String) (root path : String) : Prop :=
  ∀ pattern ∈ patterns, reachesAbove pattern root path = true → isExcludedBelow patterns path = true

instance (patterns : List String) (root path : String) : Decidable (DecidedBelow patterns root path) :=
  inferInstanceAs (Decidable (∀ pattern ∈ patterns, _ → _))

/-- The root makes no difference exactly if nothing that reaches above it does. -/
theorem isExcluded_join_eq_iff {patterns : List String}
    (h : ∀ pattern ∈ patterns, IsRecursive pattern) {root path : String} (hroot : root ≠ "")
    (hpath : Path.isAbsolute path = false) :
    isExcluded patterns (Path.join root path) = isExcludedBelow patterns path ↔
      DecidedBelow patterns root path := by
  rw [isExcluded_join h hroot hpath, DecidedBelow]
  cases isExcludedBelow patterns path with
  | true => simp
  | false => simp

/-! ## Patterns for folders -/

/-- The pattern that asks for a folder of some name. -/
def folderPattern (name : String) : String :=
  "**/" ++ name ++ "/**"

/-- A name without characters that have a meaning in patterns. -/
def IsPlainName (name : String) : Prop :=
  Path.isName name = true ∧ ∀ c ∈ name.toList, c ≠ '*' ∧ c ≠ '?' ∧ c ≠ '['

instance (name : String) : Decidable (IsPlainName name) :=
  decidable_of_iff
    (Path.isName name = true ∧ name.toList.all (fun c => c ≠ '*' ∧ c ≠ '?' ∧ c ≠ '[') = true)
    (by simp [IsPlainName])

/-- Characters without a meaning of their own stand for themselves. -/
theorem Glob.parseFrom_append {cs : List Char} (h : ∀ c ∈ cs, c ≠ '*' ∧ c ≠ '?' ∧ c ≠ '[')
    (partStart : Bool) : parseFrom partStart (cs ++ ['/', '*', '*']) =
      some (cs.map .char ++ [.char '/', .folders]) := by
  induction cs generalizing partStart with
  | nil => simp [parseFrom]
  | cons c cs ih =>
    obtain ⟨hstar, hmark, hbracket⟩ := h c (by simp)
    rw [List.cons_append, parseFrom]
    · rw [ih fun d hd => h d (List.mem_cons_of_mem c hd)]
      rfl
    all_goals simp_all

/-- Characters that stand for themselves match the start of a text. -/
theorem Glob.matchesFrom_chars (cs : List Char) (items : Glob) (text : List Char) :
    matchesFrom (cs.map .char ++ items) text = true ↔
      ∃ rest, text = cs ++ rest ∧ matchesFrom items rest = true := by
  induction cs generalizing text with
  | nil => simp
  | cons c cs ih =>
    cases text with
    | nil => simp [matchesFrom]
    | cons d text => simp [matchesFrom, Item.accepts, ih, and_assoc]

/-- A text without stars keeps all its characters. -/
theorem dropDoubleStars_append {cs : List Char} (h : '*' ∉ cs) (rest : List Char) :
    dropDoubleStars (cs ++ rest) = cs ++ dropDoubleStars rest := by
  induction cs with
  | nil => rfl
  | cons c cs ih =>
    rw [List.mem_cons, not_or] at h
    rw [List.cons_append, dropDoubleStars, ih h.2, List.cons_append]
    intro _ hc
    exact absurd hc.symm h.1

/-- A text and a slash stand in front of a text of two parts if the first piece of it is the text. -/
theorem Text.prefix_iff_head?_cut {name : List Char} (hname : '/' ∉ name) (tail rest : List Char) :
    name ++ ['/'] <+: tail ++ '/' :: rest ↔ (cut '/' tail).head? = some name := by
  obtain ⟨first, pieces, hcut⟩ := List.exists_cons_of_ne_nil (cut_ne_nil '/' tail)
  rw [hcut, List.head?_cons, Option.some_inj]
  constructor
  · rintro ⟨more, hmore⟩
    rw [List.append_assoc, List.singleton_append] at hmore
    have hpieces := congrArg (cut '/') hmore
    rw [cut_append, cut_append, hcut, cut_of_notMem hname, List.cons_append, List.cons_append,
      List.cons.injEq] at hpieces
    exact hpieces.1.symm
  · rintro rfl
    have htail := intercalate_cut '/' tail
    rw [hcut] at htail
    rw [← htail]
    cases pieces with
    | nil => exact ⟨rest, by simp⟩
    | cons next pieces =>
      rw [List.intercalate_cons_cons, List.append_assoc]
      exact List.prefix_append _ _

/-- Behind the slashes of a text stand its pieces. -/
theorem Text.map_head?_cut (text : List Char) :
    (text :: endsBehind Glob.isSlash text).map (fun tail => (cut '/' tail).head?) =
      (cut '/' text).map some := by
  induction text with
  | nil => rfl
  | cons c text ih =>
    obtain ⟨first, pieces, hcut⟩ := List.exists_cons_of_ne_nil (cut_ne_nil '/' text)
    rw [List.map_cons, hcut, List.head?_cons, List.map_cons, List.cons.injEq] at ih
    by_cases hc : c = '/'
    · simp [cut, endsBehind, Glob.isSlash, hc, hcut, ih.2]
    · simp [cut, endsBehind, Glob.isSlash, hc, hcut, ih.2]

/-- What follows a slash in a text is one of its ends behind slashes. -/
theorem Text.mem_endsBehind_of_mem_ends {text tail : List Char}
    (h : '/' :: tail ∈ (ends text).dropLast) : tail ∈ endsBehind Glob.isSlash text := by
  induction text with
  | nil => cases h
  | cons c text ih =>
    rw [dropLast_ends_cons, List.mem_cons, List.cons.injEq] at h
    rcases h with ⟨rfl, rfl⟩ | hrest
    · simp [endsBehind, Glob.isSlash]
    · rw [endsBehind]
      split
      · exact List.mem_cons_of_mem _ (ih hrest)
      · exact ih hrest

/-- The text of a pattern for a folder. -/
theorem toList_folderPattern (name : String) :
    (folderPattern name).toList = '*' :: '*' :: '/' :: (name.toList ++ ['/', '*', '*']) := by
  rw [folderPattern, String.toList_append, String.toList_append, List.append_assoc]
  rfl

/-- The glob of a pattern for a folder. -/
theorem parse?_folderPattern {name : String}
    (h : ∀ c ∈ name.toList, c ≠ '*' ∧ c ≠ '?' ∧ c ≠ '[') :
    Glob.parse? (folderPattern name) =
      some (.folders :: ((name.toList ++ ['/']).map .char ++ [.folders])) := by
  rw [Glob.parse?, toList_folderPattern, Glob.parseFrom, if_pos rfl, Glob.parseFrom_append h,
    List.map_append, List.append_assoc]
  rfl

/-- A pattern for a folder without its double stars. -/
theorem dropDoubleStars_folderPattern {name : String}
    (h : ∀ c ∈ name.toList, c ≠ '*' ∧ c ≠ '?' ∧ c ≠ '[') :
    dropDoubleStars (folderPattern name).toList = '/' :: (name.toList ++ ['/']) := by
  have hstar : '*' ∉ name.toList := fun hmem => (h '*' hmem).1 rfl
  rw [toList_folderPattern, dropDoubleStars, dropDoubleStars, dropDoubleStars_append hstar]
  · rfl
  · intro _ hslash
    cases hslash

/-- Any number of folders at the end match every text. -/
theorem Glob.matchesFrom_chars_folders (cs text : List Char) :
    matchesFrom (cs.map .char ++ [.folders]) text = true ↔ cs <+: text := by
  have hfolders : ∀ rest, matchesFrom [.folders] rest = true := by
    intro rest
    simp [matchesFrom]
  rw [matchesFrom_chars]
  constructor
  · rintro ⟨rest, htext, -⟩
    exact ⟨rest, htext.symm⟩
  · rintro ⟨rest, htext⟩
    exact ⟨rest, htext.symm, hfolders rest⟩

/-- A pattern for a folder reaches above exactly those roots that lie in such a folder or are one. -/
theorem reachesAbove_folderPattern_iff {name : String} (hname : IsPlainName name) {root : String}
    (hroot : Path.isAbsolute root = true) (path : String) :
    reachesAbove (folderPattern name) root path = true ↔ .name name ∈ Path.components root := by
  have hslash : '/' ∉ name.toList := ((Path.isName_iff name).mp hname.1).2.2.2
  have hpieces : (∃ tail ∈ Path.front root :: endsBehind Glob.isSlash (Path.front root),
      name.toList ++ ['/'] <+: tail ++ '/' :: path.toList) ↔
        .name name ∈ Path.components root := by
    have hpiece : name.toList ∈ cut '/' (Path.front root) ↔
        some name.toList ∈ (cut '/' (Path.front root)).map some := by simp
    rw [Path.name_mem_components_iff hroot hname.1, hpiece, ← map_head?_cut, List.mem_map]
    simp only [prefix_iff_head?_cut hslash]
  rw [reachesAbove, parse?_folderPattern hname.2, dropDoubleStars_folderPattern hname.2,
    Option.any_some, Bool.or_eq_true, ← hpieces]
  constructor
  · rintro (hglob | htext)
    · simpa only [Glob.reachesAbove, List.any_eq_true, Glob.matchesFrom_chars_folders] using hglob
    · -- The text starts with a slash, so what follows starts behind a slash of the root.
      obtain ⟨tail, htail, hstart⟩ := List.any_eq_true.mp htext
      cases tail with
      | nil => exact absurd htail (nil_notMem_dropLast_ends _)
      | cons c tail =>
        rw [List.isPrefixOf_iff_prefix, List.cons_append, List.cons_prefix_cons] at hstart
        obtain ⟨rfl, hrest⟩ := hstart
        exact ⟨tail, List.mem_cons_of_mem _ (mem_endsBehind_of_mem_ends htail), hrest⟩
  · intro hfound
    left
    simpa only [Glob.reachesAbove, List.any_eq_true, Glob.matchesFrom_chars_folders] using hfound

/-- Patterns for folders that a root neither is nor lies in leave the root no say. -/
theorem decidedBelow_folderPatterns {names : List String} (hnames : ∀ name ∈ names, IsPlainName name)
    {root : String} (hroot : Path.isAbsolute root = true)
    (houtside : ∀ name ∈ names, .name name ∉ Path.components root) (path : String) :
    DecidedBelow (names.map folderPattern) root path := by
  intro pattern hpattern hreach
  obtain ⟨name, hname, rfl⟩ := List.mem_map.mp hpattern
  rw [reachesAbove_folderPattern_iff (hnames name hname) hroot] at hreach
  exact absurd hreach (houtside name hname)

end CallGuard
