import CallGuard.Proofs.NamePattern.Segments
import CallGuard.Text.Fold
import CallGuard.Text.Word
import Mathlib.Data.List.Forall2

/-!
# Occurrences of a pattern

What it means that a pattern occurs in a name, without a way to search for it.  A text is spelled by
segments if it consists of them, in order and up to case, with any characters but line feeds between
two of them.  A pattern occurs in a name if the part of the name between two word boundaries is
spelled by its segments.

In a name of word characters the only word boundaries are its two ends.  A pattern that occurs
between them therefore spells the whole name, unless it spells the empty text; but then it consists
of stars and spells the name as well.

Main results:

- Theorem {lit}`spells_part_iff`: a part of a name is spelled piece by piece.
- Theorem {lit}`isWordBoundary_iff_of_word`: the boundaries of a name of word characters.
- Theorem {lit}`NamePattern.occursIn_iff_spells`: in such a name, a pattern occurs exactly if it
  spells the whole name.
- Theorem {lit}`NamePattern.spells_iff_sameText`: without a star, that is equality up to case.
-/

namespace CallGuard

open Text

/-! ## Parts of a name -/

/-- The part of a name from one position to another. -/
def part (name : List Char) (i j : Nat) : List Char :=
  (name.drop i).take (j - i)

@[simp]
theorem part_self (name : List Char) (i : Nat) : part name i i = [] := by
  simp [part]

@[simp]
theorem part_zero_length (name : List Char) : part name 0 name.length = name := by
  simp [part]

/-- A part behind the first character does not depend on it. -/
@[simp]
theorem part_cons_succ_succ (c : Char) (name : List Char) (i j : Nat) :
    part (c :: name) (i + 1) (j + 1) = part name i j := by
  simp [part]

/-- A first part that is not empty starts with the first character. -/
@[simp]
theorem part_cons_zero_succ (c : Char) (name : List Char) (j : Nat) :
    part (c :: name) 0 (j + 1) = c :: part name 0 j := by
  simp [part]

/-- A part within a name is as long as its positions are apart. -/
theorem length_part {name : List Char} {i j : Nat} (hj : j ≤ name.length) :
    (part name i j).length = j - i := by
  rw [part, List.length_take, List.length_drop]
  omega

/-- Two parts that meet make one part. -/
theorem part_append_part {name : List Char} {i k j : Nat} (hik : i ≤ k) (hkj : k ≤ j) :
    part name i k ++ part name k j = part name i j := by
  have hdrop : name.drop k = (name.drop i).drop (k - i) := by
    rw [List.drop_drop]
    congr 1
    omega
  have hlen : j - i = (k - i) + (j - k) := by omega
  rw [part, part, part, hdrop, hlen, List.take_add]

/-- Two pieces of a part are parts that meet. -/
theorem part_eq_append {name first rest : List Char} {i j : Nat} (hij : i ≤ j)
    (hj : j ≤ name.length) (h : part name i j = first ++ rest) :
    ∃ k, i ≤ k ∧ k ≤ j ∧ first = part name i k ∧ rest = part name k j := by
  have hlen : first.length + rest.length = j - i := by
    rw [← List.length_append, ← h, length_part hj]
  refine ⟨i + first.length, by omega, by omega, ?_, ?_⟩
  · have htake := congrArg (List.take first.length) h
    have hmin : min first.length (j - i) = i + first.length - i := by omega
    rw [List.take_left, part, List.take_take, hmin] at htake
    exact htake.symm
  · have hdrop := congrArg (List.drop first.length) h
    have hsub : j - i - first.length = j - (i + first.length) := by omega
    rw [List.drop_left, part, List.drop_take, List.drop_drop, hsub] at hdrop
    exact hdrop.symm

/-- A part that is not empty starts with the character at its first position. -/
theorem part_eq_cons {name : List Char} {i j : Nat} {c : Char} (hc : name[i]? = some c)
    (hij : i < j) : part name i j = c :: part name (i + 1) j := by
  obtain ⟨hi, hget⟩ := List.getElem?_eq_some_iff.mp hc
  have hlen : j - i = (j - (i + 1)) + 1 := by omega
  rw [part, List.drop_eq_getElem_cons hi, hget, hlen, List.take_succ_cons, part]

/-! ## Spelling -/

/-- Equality of texts up to case. -/
def SameText (text other : List Char) : Prop :=
  List.Forall₂ SameLetter text other

/-- A text consists of segments, in order and up to case, with any characters but line feeds between
two of them. -/
def Spells : List (List Char) → List Char → Prop
  | [], text => text = []
  | [seg], text => SameText seg text
  | seg :: next :: segs, text =>
    ∃ first gap rest, text = first ++ gap ++ rest ∧ SameText seg first ∧ '\n' ∉ gap ∧
      Spells (next :: segs) rest

/-- Texts that are equal up to case have the same length. -/
theorem SameText.length_eq {text other : List Char} (h : SameText text other) :
    text.length = other.length :=
  List.Forall₂.length_eq h

/-- Only the empty text is equal to the empty text up to case. -/
theorem sameText_nil_right {text : List Char} : SameText text [] ↔ text = [] :=
  List.forall₂_nil_right_iff

/-- A part of a name is spelled by several segments if it falls into a part for the first segment, a
part without line feeds and a part for the other segments. -/
theorem spells_part_iff {name seg next : List Char} {segs : List (List Char)} {i j : Nat}
    (hij : i ≤ j) (hj : j ≤ name.length) :
    Spells (seg :: next :: segs) (part name i j) ↔
      ∃ k l, i ≤ k ∧ k ≤ l ∧ l ≤ j ∧ SameText seg (part name i k) ∧ '\n' ∉ part name k l ∧
        Spells (next :: segs) (part name l j) := by
  constructor
  · rintro ⟨first, gap, rest, hparts, hfirst, hgap, hrest⟩
    rw [List.append_assoc] at hparts
    obtain ⟨k, hik, hkj, rfl, hmore⟩ := part_eq_append hij hj hparts
    obtain ⟨l, hkl, hlj, rfl, rfl⟩ := part_eq_append hkj hj hmore.symm
    exact ⟨k, l, hik, hkl, hlj, hfirst, hgap, hrest⟩
  · rintro ⟨k, l, hik, hkl, hlj, hfirst, hgap, hrest⟩
    refine ⟨part name i k, part name k l, part name l j, ?_, hfirst, hgap, hrest⟩
    rw [part_append_part hik hkl, part_append_part (Nat.le_trans hik hkl) hlj]

/-- Segments that spell the empty text are all empty. -/
theorem eq_nil_of_spells_nil {segs : List (List Char)} (h : Spells segs []) :
    ∀ seg ∈ segs, seg = [] := by
  induction segs with
  | nil => simp
  | cons seg segs ih =>
    cases segs with
    | nil =>
      intro s hs
      rw [List.mem_singleton] at hs
      subst hs
      exact sameText_nil_right.mp h
    | cons next segs =>
      obtain ⟨first, gap, rest, hparts, hfirst, -, hrest⟩ := h
      obtain ⟨hfront, rfl⟩ := List.append_eq_nil_iff.mp hparts.symm
      obtain ⟨rfl, rfl⟩ := List.append_eq_nil_iff.mp hfront
      intro s hs
      rcases List.mem_cons.mp hs with rfl | hs
      · exact sameText_nil_right.mp hfirst
      · exact ih hrest s hs

/-- Empty segments spell the empty text. -/
theorem spells_nil_of_eq_nil {segs : List (List Char)} (h : ∀ seg ∈ segs, seg = []) :
    Spells segs [] := by
  induction segs with
  | nil => rfl
  | cons seg segs ih =>
    have hseg : seg = [] := h seg (by simp)
    subst hseg
    cases segs with
    | nil => exact List.Forall₂.nil
    | cons next segs =>
      have hrest := ih fun s hs => h s (List.mem_cons_of_mem _ hs)
      exact ⟨[], [], [], rfl, List.Forall₂.nil, by simp, hrest⟩

/-! ## Word boundaries -/

/-- The character before a position of a name. -/
def charBefore (name : List Char) : Nat → Option Char
  | 0 => none
  | k + 1 => name[k]?

/-- A word starts or ends at a position of a name. -/
def IsWordBoundary (name : List Char) (k : Nat) : Prop :=
  isBoundary (charBefore name k) name[k]? = true

/-- There is no word boundary outside a name. -/
theorem IsWordBoundary.le_length {name : List Char} {k : Nat} (h : IsWordBoundary name k) :
    k ≤ name.length := by
  by_contra hlt
  have hafter : name[k]? = none := List.getElem?_eq_none (by omega)
  have hbefore : charBefore name k = none := by
    cases k with
    | zero => rfl
    | succ k => exact List.getElem?_eq_none (by omega)
  rw [IsWordBoundary, hafter, hbefore] at h
  simp [isBoundary] at h

/-- The only word boundaries of a name of word characters are its two ends. -/
theorem isWordBoundary_iff_of_word {name : List Char} (hne : name ≠ [])
    (hword : ∀ c ∈ name, isWord c = true) (k : Nat) :
    IsWordBoundary name k ↔ k = 0 ∨ k = name.length := by
  have hany : ∀ m < name.length, (name[m]?).any isWord = true := by
    intro m hm
    rw [List.getElem?_eq_getElem hm, Option.any_some]
    exact hword _ (List.getElem_mem hm)
  have hpos : 0 < name.length := List.length_pos_iff.mpr hne
  cases k with
  | zero => simp [IsWordBoundary, charBefore, isBoundary, hany 0 hpos]
  | succ k =>
    constructor
    · intro h
      have hle := h.le_length
      by_contra hinner
      have hlt : k + 1 < name.length := by omega
      simp [IsWordBoundary, charBefore, isBoundary, hany k (by omega), hany (k + 1) hlt] at h
    · intro h
      have hlast : name.length = k + 1 := by omega
      have hend : name[k + 1]? = none := List.getElem?_eq_none (by omega)
      simp [IsWordBoundary, charBefore, isBoundary, hany k (by omega), hend]

/-! ## Occurrences -/

namespace NamePattern

/-- A pattern spells a text with its segments. -/
def Spells (p : NamePattern) (text : List Char) : Prop :=
  CallGuard.Spells p.segments text

/-- The part of a name between two word boundaries is spelled by a pattern. -/
def OccursIn (p : NamePattern) (name : List Char) : Prop :=
  ∃ i j, i ≤ j ∧ IsWordBoundary name i ∧ IsWordBoundary name j ∧ p.Spells (part name i j)

/-- A pattern that spells the empty text spells every text without line feeds. -/
theorem spells_of_spells_nil {p : NamePattern} (h : p.Spells []) {text : List Char}
    (hline : '\n' ∉ text) : p.Spells text := by
  have hempty := eq_nil_of_spells_nil h
  unfold Spells at h ⊢
  match hsegs : p.segments with
  | [] => exact absurd hsegs (segments_ne_nil p.text.toList)
  | [seg] =>
    rw [hsegs] at hempty
    rw [hempty seg (by simp)] at hsegs
    exact absurd hsegs p.segments_ne_singleton_nil
  | seg :: next :: segs =>
    -- The first star takes the whole text, and all segments are empty.
    rw [hsegs] at hempty
    have hseg : SameText seg [] := sameText_nil_right.mpr (hempty seg (by simp))
    have hrest := spells_nil_of_eq_nil fun s hs => hempty s (List.mem_cons_of_mem seg hs)
    exact ⟨[], text, [], by simp, hseg, hline, hrest⟩

/-- A pattern occurs in a name of word characters exactly if it spells the whole name. -/
theorem occursIn_iff_spells (p : NamePattern) {name : List Char} (hne : name ≠ [])
    (hword : ∀ c ∈ name, isWord c = true) : p.OccursIn name ↔ p.Spells name := by
  have hline : '\n' ∉ name := by
    intro hmem
    have hnot : isWord '\n' = false := by decide
    rw [hword _ hmem] at hnot
    exact absurd hnot (by decide)
  constructor
  · rintro ⟨i, j, hij, hi, hj, hspells⟩
    rw [isWordBoundary_iff_of_word hne hword] at hi hj
    rcases hi with rfl | rfl
    · rcases hj with rfl | rfl
      · exact spells_of_spells_nil (by simpa using hspells) hline
      · simpa using hspells
    · have hend : j = name.length := by omega
      subst hend
      exact spells_of_spells_nil (by simpa using hspells) hline
  · intro hspells
    refine ⟨0, name.length, Nat.zero_le _, ?_, ?_, by simpa using hspells⟩
    · exact (isWordBoundary_iff_of_word hne hword 0).mpr (Or.inl rfl)
    · exact (isWordBoundary_iff_of_word hne hword name.length).mpr (Or.inr rfl)

/-- A pattern without a star spells exactly the texts that are equal to it up to case. -/
theorem spells_iff_sameText {p : NamePattern} (h : p.hasWildcard = false) (text : List Char) :
    p.Spells text ↔ SameText p.text.toList text := by
  rw [Spells, segments_of_hasWildcard_eq_false h, CallGuard.Spells]

end NamePattern

end CallGuard
