import CallGuard.NamePattern.Matching
import CallGuard.Proofs.NamePattern.Occurrence

/-!
# The search for a pattern

The search keeps one mark for each position of the name.  Each of its passes is described by the
positions that are marked afterwards: behind an occurrence of a segment, or behind any characters but
line feeds.  Put together, the positions marked at the end are those at which a part of the name ends
that starts at a word boundary and is spelled by the segments.

Main results:

- Theorem {lit}`marked_land_iff`: a segment leads from a marked position to its end.
- Theorem {lit}`marked_sweep_iff`: any characters but line feeds lead on from a marked position.
- Theorem {lit}`marked_reach_iff`: the segments lead from a marked position to the end of a part that
  they spell.
- Theorem {lit}`NamePattern.occurs_iff`: the search finds a pattern exactly if it occurs.
-/

namespace CallGuard

open Text

/-- A position is marked. -/
def Marked (marks : List Bool) (k : Nat) : Prop :=
  marks[k]? = some true

@[simp]
theorem marked_cons_zero (mark : Bool) (marks : List Bool) :
    Marked (mark :: marks) 0 ↔ mark = true := by
  simp [Marked]

@[simp]
theorem marked_cons_succ (mark : Bool) (marks : List Bool) (k : Nat) :
    Marked (mark :: marks) (k + 1) ↔ Marked marks k := by
  simp [Marked]

@[simp]
theorem not_marked_nil (k : Nat) : ¬ Marked [] k := by
  simp [Marked]

/-! ## Boundaries -/

/-- There is a mark for every position of the name. -/
theorem length_boundaryMarks (before : Option Char) (name : List Char) :
    (boundaryMarks before name).length = name.length + 1 := by
  induction name generalizing before with
  | nil => rfl
  | cons c rest ih => simp [boundaryMarks, ih]

/-- The marks of the word boundaries behind the first position. -/
theorem marked_boundaryMarks_succ (before : Option Char) (name : List Char) (k : Nat) :
    Marked (boundaryMarks before name) (k + 1) ↔ IsWordBoundary name (k + 1) := by
  induction name generalizing before k with
  | nil => simp [boundaryMarks, Marked, IsWordBoundary, charBefore, isBoundary]
  | cons c rest ih =>
    rw [boundaryMarks, marked_cons_succ]
    cases k with
    | zero => cases rest <;> simp [boundaryMarks, IsWordBoundary, charBefore]
    | succ k =>
      rw [ih]
      simp [IsWordBoundary, charBefore]

/-- The marked positions are the word boundaries. -/
theorem marked_boundaryMarks_iff (name : List Char) (k : Nat) :
    Marked (boundaryMarks none name) k ↔ IsWordBoundary name k := by
  cases k with
  | zero => cases name <;> simp [boundaryMarks, IsWordBoundary, charBefore]
  | succ k => exact marked_boundaryMarks_succ none name k

/-! ## Segments -/

/-- A text starts with a segment if a first part of it is equal to the segment up to case. -/
theorem startsWith_iff (seg text : List Char) :
    startsWith seg text = true ↔
      seg.length ≤ text.length ∧ SameText seg (text.take seg.length) := by
  induction seg generalizing text with
  | nil => simp [startsWith, SameText]
  | cons a seg ih =>
    cases text with
    | nil => simp [startsWith]
    | cons b text =>
      rw [startsWith, Bool.and_eq_true, decide_eq_true_iff, ih]
      simp only [List.length_cons, List.take_succ_cons, SameText, List.forall₂_cons]
      constructor
      · rintro ⟨hab, hlen, hrest⟩
        exact ⟨by omega, hab, hrest⟩
      · rintro ⟨hlen, hab, hrest⟩
        exact ⟨hab, by omega, hrest⟩

/-- The positions that stay marked are those at which the segment occurs. -/
theorem marked_starts_iff (seg name : List Char) (marks : List Bool) (k : Nat) :
    Marked (starts seg name marks) k ↔
      k ≤ name.length ∧ Marked marks k ∧ startsWith seg (name.drop k) = true := by
  induction name generalizing marks k with
  | nil =>
    cases marks with
    | nil => simp [starts]
    | cons mark marks =>
      cases k with
      | zero => cases seg <;> simp [starts, startsWith]
      | succ k => simp [starts]
  | cons c rest ih =>
    cases marks with
    | nil => simp [starts]
    | cons mark marks =>
      cases k with
      | zero => simp [starts]
      | succ k => simp [starts, ih]

/-- There is still a mark for every position. -/
theorem length_starts (seg name : List Char) {marks : List Bool}
    (hlen : marks.length = name.length + 1) :
    (starts seg name marks).length = name.length + 1 := by
  induction name generalizing marks with
  | nil =>
    cases marks with
    | nil => simp at hlen
    | cons mark marks => rfl
  | cons c rest ih =>
    cases marks with
    | nil => simp at hlen
    | cons mark marks =>
      simp only [List.length_cons, Nat.add_right_cancel_iff] at hlen
      simp [starts, ih hlen]

/-- There is still a mark for every position. -/
theorem length_land (seg name : List Char) {marks : List Bool}
    (hlen : marks.length = name.length + 1) :
    (land seg name marks).length = name.length + 1 := by
  rw [land, List.length_take, List.length_append, List.length_replicate,
    length_starts seg name hlen]
  omega

/-- The marks behind a segment are those of its occurrences, moved by its length. -/
theorem marked_land_iff_starts (seg name : List Char) (marks : List Bool) (j : Nat) :
    Marked (land seg name marks) j ↔
      seg.length ≤ j ∧ j ≤ name.length ∧ Marked (starts seg name marks) (j - seg.length) := by
  rw [Marked, land, List.getElem?_take, List.getElem?_append, List.length_replicate]
  by_cases hseg : j < seg.length
  · have hshort : ¬ seg.length ≤ j := by omega
    simp [hseg, hshort]
  · by_cases hj : j < name.length + 1
    · have hle : seg.length ≤ j ∧ j ≤ name.length := by omega
      simp [hseg, hj, hle, Marked]
    · have hlong : ¬ j ≤ name.length := by omega
      simp [hj, hlong]

/-- A segment leads from a marked position to the end of a part that is equal to it up to case. -/
theorem marked_land_iff (seg name : List Char) (marks : List Bool) (j : Nat) :
    Marked (land seg name marks) j ↔
      ∃ i, i ≤ j ∧ j ≤ name.length ∧ Marked marks i ∧ SameText seg (part name i j) := by
  rw [marked_land_iff_starts, marked_starts_iff, startsWith_iff]
  constructor
  · rintro ⟨hseg, hj, -, hmark, -, hsame⟩
    refine ⟨j - seg.length, by omega, hj, hmark, ?_⟩
    rwa [part, Nat.sub_sub_self hseg]
  · rintro ⟨i, hij, hj, hmark, hsame⟩
    have hlen : seg.length = j - i := by
      rw [hsame.length_eq, length_part hj]
    have hstart : j - seg.length = i := by omega
    refine ⟨by omega, hj, by omega, by rwa [hstart], ?_, ?_⟩
    · rw [List.length_drop]
      omega
    · rwa [hstart, hlen]

/-! ## Any characters -/

/-- There is still a mark for every position. -/
theorem length_sweep (live : Bool) (name : List Char) {marks : List Bool}
    (hlen : marks.length = name.length + 1) :
    (sweep live name marks).length = name.length + 1 := by
  induction name generalizing live marks with
  | nil =>
    cases marks with
    | nil => simp at hlen
    | cons mark marks => rfl
  | cons c rest ih =>
    cases marks with
    | nil => simp at hlen
    | cons mark marks =>
      simp only [List.length_cons, Nat.add_right_cancel_iff] at hlen
      simp [sweep, ih _ hlen]

/-- A sweep marks the positions that any characters but line feeds lead to, from a marked position or
from the first one if it is live. -/
theorem marked_sweep_live_iff (live : Bool) (name : List Char) {marks : List Bool}
    (hlen : marks.length = name.length + 1) (j : Nat) :
    Marked (sweep live name marks) j ↔
      j ≤ name.length ∧ ((live = true ∧ '\n' ∉ part name 0 j) ∨
        ∃ i, i ≤ j ∧ Marked marks i ∧ '\n' ∉ part name i j) := by
  induction name generalizing live marks j with
  | nil =>
    cases marks with
    | nil => simp at hlen
    | cons mark marks =>
      have hmarks : marks = [] := by simpa using hlen
      subst hmarks
      cases j <;> simp [sweep]
  | cons c rest ih =>
    cases marks with
    | nil => simp at hlen
    | cons mark marks =>
      simp only [List.length_cons, Nat.add_right_cancel_iff] at hlen
      cases j with
      | zero => simp [sweep]
      | succ j =>
        -- The first character is passed if the first position is live or marked.
        rw [sweep, marked_cons_succ, ih _ hlen]
        simp only [Bool.and_eq_true, Bool.or_eq_true, bne_iff_ne, List.length_cons,
          Nat.add_le_add_iff_right, part_cons_zero_succ, List.mem_cons, not_or]
        constructor
        · rintro ⟨hj, ⟨⟨hfirst, hc⟩, hline⟩ | ⟨i, hij, hmark, hline⟩⟩
          · rcases hfirst with hlive | hmark
            · exact ⟨hj, Or.inl ⟨hlive, Ne.symm hc, hline⟩⟩
            · exact ⟨hj, Or.inr ⟨0, by omega, by simpa using hmark, by simp [Ne.symm hc, hline]⟩⟩
          · exact ⟨hj, Or.inr ⟨i + 1, by omega, by simpa using hmark, by simpa using hline⟩⟩
        · rintro ⟨hj, ⟨hlive, hc, hline⟩ | ⟨i, hij, hmark, hline⟩⟩
          · exact ⟨hj, Or.inl ⟨⟨Or.inl hlive, Ne.symm hc⟩, hline⟩⟩
          · cases i with
            | zero =>
              simp only [part_cons_zero_succ, List.mem_cons, not_or] at hline
              exact ⟨hj, Or.inl ⟨⟨Or.inr (by simpa using hmark), Ne.symm hline.1⟩, hline.2⟩⟩
            | succ i =>
              exact ⟨hj, Or.inr ⟨i, by omega, by simpa using hmark, by simpa using hline⟩⟩

/-- A sweep marks the positions that any characters but line feeds lead to from a marked position. -/
theorem marked_sweep_iff (name : List Char) {marks : List Bool}
    (hlen : marks.length = name.length + 1) (j : Nat) :
    Marked (sweep false name marks) j ↔
      ∃ i, i ≤ j ∧ j ≤ name.length ∧ Marked marks i ∧ '\n' ∉ part name i j := by
  rw [marked_sweep_live_iff false name hlen]
  constructor
  · rintro ⟨hj, ⟨hfalse, -⟩ | ⟨i, hij, hmark, hline⟩⟩
    · exact absurd hfalse (by decide)
    · exact ⟨i, hij, hj, hmark, hline⟩
  · rintro ⟨i, hij, hj, hmark, hline⟩
    exact ⟨hj, Or.inr ⟨i, hij, hmark, hline⟩⟩

/-! ## The whole search -/

/-- Segments lead from a marked position to the end of a part that they spell. -/
theorem marked_reach_iff (name : List Char) {segs : List (List Char)} (hne : segs ≠ [])
    {marks : List Bool} (hlen : marks.length = name.length + 1) (j : Nat) :
    Marked (reach name segs marks) j ↔
      ∃ i, i ≤ j ∧ j ≤ name.length ∧ Marked marks i ∧ Spells segs (part name i j) := by
  induction segs generalizing marks j with
  | nil => exact absurd rfl hne
  | cons seg segs ih =>
    cases segs with
    | nil => exact marked_land_iff seg name marks j
    | cons next segs =>
      have hland := length_land seg name hlen
      rw [reach, ih (by simp) (length_sweep false name hland)]
      · constructor
        · rintro ⟨l, hlj, hj, hswept, hrest⟩
          obtain ⟨k, hkl, -, hlanded, hgap⟩ := (marked_sweep_iff name hland l).mp hswept
          obtain ⟨i, hik, -, hmark, hseg⟩ := (marked_land_iff seg name marks k).mp hlanded
          have hij : i ≤ j := by omega
          exact ⟨i, hij, hj, hmark,
            (spells_part_iff hij hj).mpr ⟨k, l, hik, hkl, hlj, hseg, hgap, hrest⟩⟩
        · rintro ⟨i, hij, hj, hmark, hspells⟩
          obtain ⟨k, l, hik, hkl, hlj, hseg, hgap, hrest⟩ := (spells_part_iff hij hj).mp hspells
          have hlanded := (marked_land_iff seg name marks k).mpr ⟨i, hik, by omega, hmark, hseg⟩
          have hswept := (marked_sweep_iff name hland l).mpr ⟨k, hkl, by omega, hlanded, hgap⟩
          exact ⟨l, hlj, hj, hswept, hrest⟩
      · simp

/-- Two lists of marks have a marked position in common. -/
theorem any_zipWith_and_iff (marks others : List Bool) :
    (List.zipWith (· && ·) marks others).any id = true ↔
      ∃ k, Marked marks k ∧ Marked others k := by
  induction marks generalizing others with
  | nil => simp
  | cons mark marks ih =>
    cases others with
    | nil => simp
    | cons other others =>
      rw [List.zipWith_cons_cons, List.any_cons, Bool.or_eq_true, ih]
      constructor
      · rintro (hboth | ⟨k, hk⟩)
        · exact ⟨0, by simpa using hboth⟩
        · exact ⟨k + 1, by simpa using hk⟩
      · rintro ⟨_ | k, hk⟩
        · exact Or.inl (by simpa using hk)
        · exact Or.inr ⟨k, by simpa using hk⟩

/-- The search finds a pattern in a name exactly if it occurs there. -/
theorem NamePattern.occurs_iff (p : NamePattern) (name : List Char) :
    occurs p.segments name = true ↔ p.OccursIn name := by
  have hne : p.segments ≠ [] := segments_ne_nil p.text.toList
  have hlen := length_boundaryMarks none name
  rw [occurs, any_zipWith_and_iff]
  constructor
  · rintro ⟨j, hreach, hj⟩
    obtain ⟨i, hij, -, hi, hspells⟩ := (marked_reach_iff name hne hlen j).mp hreach
    rw [marked_boundaryMarks_iff] at hi hj
    exact ⟨i, j, hij, hi, hj, hspells⟩
  · rintro ⟨i, j, hij, hi, hj, hspells⟩
    have hle := hj.le_length
    rw [← marked_boundaryMarks_iff] at hi hj
    exact ⟨j, (marked_reach_iff name hne hlen j).mpr ⟨i, hij, hle, hi, hspells⟩, hj⟩

end CallGuard
